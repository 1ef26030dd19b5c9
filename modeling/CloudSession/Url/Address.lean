/-
Numeric hosts. A version 4 address may be written with one to four parts,
each decimal, octal (leading `0`) or hexadecimal (leading `0x`), the last
part filling the bytes that remain. A version 6 address is eight groups,
one run of zero groups abbreviated to `::`, the last two groups possibly
written as a version 4 address.
-/
import CloudSession.Text.Hex
import CloudSession.Text.Part

namespace CloudSession.Url

-- ================================================================ version 4

/-- The natural that digits denote in a base, if all of them are digits of
that base. -/
def numeral? (base : Nat) (cs : List Char) : Option Nat :=
  cs.foldl (fun acc c =>
    match acc, Text.Hex.value? c with
    | some n, some d => if d < base then some (base * n + d) else none
    | _, _ => none) (some 0)

/-- One part of a version 4 address. -/
def part4? : List Char → Option Nat
  | [] => none
  | '0' :: 'x' :: digits => numeral? 16 digits
  | '0' :: 'X' :: digits => numeral? 16 digits
  | ['0'] => some 0
  | '0' :: digits => numeral? 8 digits
  | digits => numeral? 10 digits

/-- The parts of a host name between its dots, without one empty last part. -/
def dottedParts (cs : List Char) : List (List Char) :=
  let parts := Text.splitAll '.' cs
  if 1 < parts.length && parts.getLast? == some [] then parts.dropLast else parts

/-- Whether the last part of a host name is a number, so that the whole
must be a version 4 address. -/
def endsInNumber (cs : List Char) : Bool :=
  match (dottedParts cs).getLast? with
  | none => false
  | some [] => false
  | some last => last.all Char.isDigit || (part4? last).isSome

/-- The address that parts denote: each but the last is one byte, and the
last fills what remains. -/
def address4? (parts : List Nat) : Option Nat :=
  match parts.reverse with
  | [] => none
  | last :: firsts =>
    let firsts := firsts.reverse
    let room := Nat.pow 256 (4 - firsts.length)
    if 4 < parts.length || room ≤ last || firsts.any (255 < ·) then none
    else
      some (firsts.zipIdx.foldl (fun n (byte, i) => n + byte * Nat.pow 256 (3 - i)) last)

/-- The version 4 address that a host name spells. -/
def parseAddress4? (cs : List Char) : Option Nat :=
  ((dottedParts cs).mapM part4?).bind address4?

/-- Four decimal bytes with dots between them. -/
def writeAddress4 (n : Nat) : List Char :=
  Text.join ['.'] ([n / 0x1000000, n / 0x10000 % 256, n / 0x100 % 256, n % 256].map
    (Nat.toDigits 10))

-- ================================================================ version 6

/-- A decimal byte without leading zeros. -/
def decimalByte? (cs : List Char) : Option Nat :=
  match cs with
  | [] => none
  | '0' :: _ :: _ => none
  | _ => (numeral? 10 cs).bind fun n => if n ≤ 255 then some n else none

/-- The two groups of a version 4 address written at the end. -/
def embedded4? (cs : List Char) : Option (List Nat) :=
  match Text.splitAll '.' cs with
  | [a, b, c, d] =>
    match decimalByte? a, decimalByte? b, decimalByte? c, decimalByte? d with
    | some a, some b, some c, some d => some [a * 256 + b, c * 256 + d]
    | _, _, _, _ => none
  | _ => none

/-- The groups of a colon-separated list; only the last piece may be a
version 4 address. -/
def groups? : List (List Char) → Option (List Nat)
  | [] => some []
  | [piece] =>
    if '.' ∈ piece then embedded4? piece
    else if piece.isEmpty || 4 < piece.length then none
    else (numeral? 16 piece).map ([·])
  | piece :: rest =>
    if piece.isEmpty || 4 < piece.length then none
    else
      match numeral? 16 piece, groups? rest with
      | some g, some gs => some (g :: gs)
      | _, _ => none

/-- The text before the first `::` and the text after it. -/
def splitCompressed : List Char → Option (List Char × List Char)
  | ':' :: ':' :: rest => some ([], rest)
  | c :: rest => (splitCompressed rest).map fun (a, b) => (c :: a, b)
  | [] => none

/-- The groups of one side of `::`, which may be empty. -/
def side? (cs : List Char) : Option (List Nat) :=
  if cs.isEmpty then some [] else groups? (Text.splitAll ':' cs)

/-- The eight groups of a version 6 address. Abbreviated zeros stand for at
least one group. -/
def parseAddress6? (cs : List Char) : Option (List Nat) :=
  match splitCompressed cs with
  | none => (side? cs).bind fun gs => if gs.length = 8 then some gs else none
  | some (before, after) =>
    if '.' ∈ before then none
    else
      match side? before, side? after with
      | some as, some bs =>
        if as.length + bs.length ≤ 7 then
          some (as ++ List.replicate (8 - as.length - bs.length) 0 ++ bs)
        else none
      | _, _ => none

/-- The length of the run of zeros that a list begins with. -/
def zeroRun (gs : List Nat) : Nat := (gs.takeWhile (· == 0)).length

/-- The start and length of the first longest run of zeros. -/
def longestZeroRun : List Nat → Nat → Nat × Nat
  | [], i => (i, 0)
  | g :: gs, i =>
    let here := zeroRun (g :: gs)
    let later := longestZeroRun gs (i + 1)
    if later.2 ≤ here then (i, here) else later

/-- Groups in hexadecimal with colons between them. -/
def writeGroups (gs : List Nat) : List Char := Text.join [':'] (gs.map Text.Hex.ofNat)

/-- The text of eight groups; the first longest run of at least two zeros
is abbreviated. -/
def writeAddress6 (gs : List Nat) : List Char :=
  let (start, run) := longestZeroRun gs 0
  if 2 ≤ run then
    writeGroups (gs.take start) ++ [':', ':'] ++ writeGroups (gs.drop (start + run))
  else writeGroups gs

end CloudSession.Url
