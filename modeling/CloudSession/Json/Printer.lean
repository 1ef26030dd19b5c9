/-
Writing JSON: `compact` without a blank, `pretty` with one member to a
line and two spaces for every level. Only the quote, the backslash and
control characters are escaped. Reals have the shortest digits that read
back and always a point or an exponent.
-/
import CloudSession.Json.Basic
import CloudSession.Double.Notation
import CloudSession.Text.Hex

namespace CloudSession.Json

-- =============================================================== scalars

/-- The written form of one character of a string. -/
def escape (c : Char) : List Char :=
  if c == '"' then ['\\', '"']
  else if c == '\\' then ['\\', '\\']
  else if c == '\n' then ['\\', 'n']
  else if c == '\r' then ['\\', 'r']
  else if c == '\t' then ['\\', 't']
  else if c.toNat == 8 then ['\\', 'b']
  else if c.toNat == 12 then ['\\', 'f']
  else if c.toNat < 0x20 then
    ['\\', 'u', '0', '0', Text.Hex.digit (c.toNat / 16), Text.Hex.digit (c.toNat % 16)]
  else [c]

/-- A string in quotes. -/
def quoted (s : String) : List Char := '"' :: s.toList.flatMap escape ++ ['"']

/-- Reals are positional from `1e-5` up to below `1e16`, and a whole one
ends in `.0`. -/
def realLayout : Double.Layout := ⟨-4, 16, ".0"⟩

/-- The digits of an integer. -/
def integer (n : Int) : List Char :=
  if n < 0 then '-' :: Nat.toDigits 10 n.natAbs else Nat.toDigits 10 n.natAbs

def Number.write : Number → List Char
  | .whole n => integer n
  | .real d => Double.write realLayout d

-- ========================================================== compact form

mutual

/-- The text of a value without blanks. -/
def compactChars : Json → List Char
  | .null => ['n', 'u', 'l', 'l']
  | .bool true => ['t', 'r', 'u', 'e']
  | .bool false => ['f', 'a', 'l', 's', 'e']
  | .number n => n.write
  | .str s => quoted s
  | .arr [] => ['[', ']']
  | .arr (v :: vs) => '[' :: compactChars v ++ compactItems vs
  | .obj [] => [Char.ofNat 0x7B, Char.ofNat 0x7D]
  | .obj ((k, v) :: ms) =>
    Char.ofNat 0x7B :: quoted k ++ ':' :: compactChars v ++ compactMembers ms

/-- The items after the first, each behind a comma, and the closing bracket. -/
def compactItems : List Json → List Char
  | [] => [']']
  | v :: vs => ',' :: compactChars v ++ compactItems vs

/-- The members after the first, each behind a comma, and the closing brace. -/
def compactMembers : List (String × Json) → List Char
  | [] => [Char.ofNat 0x7D]
  | (k, v) :: ms => ',' :: quoted k ++ ':' :: compactChars v ++ compactMembers ms

end

/-- The text of a value without blanks. -/
def compact (v : Json) : String := String.ofList (compactChars v)

-- =========================================================== pretty form

/-- A line break and the indentation of a level. -/
def newline (level : Nat) : List Char := '\n' :: List.replicate (2 * level) ' '

mutual

/-- The text of a value that stands at a level, with a line to each part. -/
def prettyChars (level : Nat) : Json → List Char
  | .null => ['n', 'u', 'l', 'l']
  | .bool true => ['t', 'r', 'u', 'e']
  | .bool false => ['f', 'a', 'l', 's', 'e']
  | .number n => n.write
  | .str s => quoted s
  | .arr [] => ['[', ']']
  | .arr (v :: vs) =>
    '[' :: newline (level + 1) ++ prettyChars (level + 1) v ++ prettyItems level vs
  | .obj [] => [Char.ofNat 0x7B, Char.ofNat 0x7D]
  | .obj ((k, v) :: ms) =>
    Char.ofNat 0x7B :: newline (level + 1) ++ quoted k ++ ':' :: ' '
      :: prettyChars (level + 1) v ++ prettyMembers level ms

/-- The items after the first and the closing bracket of an array. -/
def prettyItems (level : Nat) : List Json → List Char
  | [] => newline level ++ [']']
  | v :: vs => ',' :: newline (level + 1) ++ prettyChars (level + 1) v ++ prettyItems level vs

/-- The members after the first and the closing brace of an object. -/
def prettyMembers (level : Nat) : List (String × Json) → List Char
  | [] => newline level ++ [Char.ofNat 0x7D]
  | (k, v) :: ms =>
    ',' :: newline (level + 1) ++ quoted k ++ ':' :: ' '
      :: prettyChars (level + 1) v ++ prettyMembers level ms

end

/-- The text of a value with a line to each part. -/
def pretty (v : Json) : String := String.ofList (prettyChars 0 v)

end CloudSession.Json
