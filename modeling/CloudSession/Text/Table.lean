/-
Tables of characters, written as text. Entries stand between blanks and
their numbers are hexadecimal: a number or a range of numbers, `/2` behind a
range of which every second number is meant, and behind `>` the values that
belong to it, with `+` between them.
-/
import CloudSession.Text.Blank
import CloudSession.Text.Hex
import CloudSession.Text.Part

namespace CloudSession.Text.Table

/-- An entry: the numbers that it is about and their values. -/
structure Entry where
  first : Nat
  last : Nat
  step : Nat
  values : List Nat
deriving DecidableEq, Repr

namespace Entry

/-- Whether an entry is about a number. -/
def covers (e : Entry) (n : Nat) : Bool :=
  e.first ≤ n && n ≤ e.last && (n - e.first) % e.step == 0

/-- The values of a number; those of the first are written, and they grow
with the number. -/
def valuesAt (e : Entry) (n : Nat) : List Nat := e.values.map (· + (n - e.first))

end Entry

-- =================================================================== reading

/-- A hexadecimal number. -/
def number (cs : List Char) : Nat :=
  cs.foldl (fun n c => 16 * n + (Hex.value? c).getD 0) 0

/-- What stands before and behind the first of a character. -/
def cut (sep : Char) (cs : List Char) : List Char × List Char :=
  (splitFirst sep cs).getD (cs, [])

/-- The entry of a word. -/
def entry (cs : List Char) : Entry :=
  let (key, values) := cut '>' cs
  let (range, step) := cut '/' key
  let (first, last) := cut '-' range
  { first := number first
    last := number (if last.isEmpty then first else last)
    step := if step.isEmpty then 1 else number step
    values := if values.isEmpty then [] else (splitAll '+' values).map number }

/-- The entries of a text. -/
def read (text : String) : List Entry := (words text.toList).map entry

/-- The entry about a number. -/
def find? (entries : List Entry) (n : Nat) : Option Entry := entries.find? (·.covers n)

end CloudSession.Text.Table
