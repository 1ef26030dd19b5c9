/-
Hexadecimal digits: reading one, and writing bytes as two lower-case
digits each.
-/

namespace CloudSession.Text.Hex

/-- The value of a hexadecimal digit of either case. -/
def value? (c : Char) : Option Nat :=
  let n := c.toNat
  if 48 ≤ n && n ≤ 57 then some (n - 48)
  else if 97 ≤ n && n ≤ 102 then some (n - 87)
  else if 65 ≤ n && n ≤ 70 then some (n - 55)
  else none

/-- The lower-case digit of a value below sixteen. -/
def digit (n : Nat) : Char := Char.ofNat (if n < 10 then 48 + n else 87 + n)

/-- The upper-case digit of a value below sixteen. -/
def upperDigit (n : Nat) : Char := Char.ofNat (if n < 10 then 48 + n else 55 + n)

/-- Two digits for a byte, the high one first. -/
def ofByte (b : UInt8) : List Char := [digit (b.toNat / 16), digit (b.toNat % 16)]

/-- Two digits for every byte. -/
def encode (bytes : List UInt8) : String := String.ofList (bytes.flatMap ofByte)

/-- The digits of a number without leading zeros; zero has one digit. -/
def ofNat (n : Nat) : List Char :=
  if _h : n < 16 then [digit n] else ofNat (n / 16) ++ [digit (n % 16)]

/-- The bytes that pairs of digits denote. -/
def decode? : List Char → Option (List UInt8)
  | [] => some []
  | [_] => none
  | a :: b :: rest =>
    match value? a, value? b, decode? rest with
    | some hi, some lo, some bytes => some ((16 * hi + lo).toUInt8 :: bytes)
    | _, _, _ => none

end CloudSession.Text.Hex
