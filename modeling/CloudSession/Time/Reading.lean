/-
Reading instants. `readStrict` takes an internet timestamp: four-digit
year, two digits elsewhere, and a zone. `readNaive` takes a date and time
of looser width without a zone, in UTC. `readExpiry` tries the first and
then the second, whose fault it reports. `readLenient` takes the form that
stored documents may hold, with blanks between its parts.
-/
import CloudSession.Time.Spelling
import CloudSession.Text.Blank

namespace CloudSession

/-- Why a text is no timestamp. -/
inductive TimeFault
  | character
  | short
  | trailing
  | range
deriving DecidableEq, Repr

/-- The wording of a fault. -/
def TimeFault.message : TimeFault → String
  | .character => "input contains invalid characters"
  | .short => "premature end of input"
  | .trailing => "trailing input"
  | .range => "input is out of range"

namespace Instant

/-- A reading step: a value and the characters after it. -/
abbrev Scan (α : Type) := Except TimeFault (α × List Char)

-- ================================================================ scanning

/-- Between `least` and `most` decimal digits. -/
def scanNumber (least most : Nat) (cs : List Char) : Scan Nat :=
  let digits := (cs.take most).takeWhile Char.isDigit
  if cs.length < least then .error .short
  else if digits.length < least then .error .character
  else .ok (digits.foldl (fun n c => 10 * n + (c.toNat - 48)) 0, cs.drop digits.length)

/-- A number that must lie in a range. -/
def scanField (least most low high : Nat) (cs : List Char) : Scan Nat :=
  match scanNumber least most cs with
  | .error e => .error e
  | .ok (n, rest) => if low ≤ n && n ≤ high then .ok (n, rest) else .error .range

/-- One given character. -/
def scanChar (c : Char) : List Char → Except TimeFault (List Char)
  | [] => .error .short
  | d :: rest => if d == c then .ok rest else .error .character

/-- The mark between date and time. -/
def scanDateEnd : List Char → Except TimeFault (List Char)
  | [] => .error .short
  | c :: rest => if c == 'T' || c == 't' || c == ' ' then .ok rest else .error .character

/-- The nanoseconds of a fraction, if a point stands here. Digits after the
ninth are read over. -/
def scanFraction : List Char → Scan Nat
  | '.' :: rest =>
    match scanNumber 1 9 rest with
    | .error e => .error e
    | .ok (n, after) =>
      .ok (n * Nat.pow 10 (9 - (rest.length - after.length)), after.dropWhile Char.isDigit)
  | cs => .ok (0, cs)

/-- The seconds of an offset from UTC. What may stand between hours and
minutes is for `between` to take. -/
def scanOffset (between : List Char → Except TimeFault (List Char)) (cs : List Char) :
    Scan Int :=
  let twoDigits (tooMany : Nat) (cs : List Char) : Scan Nat :=
    match cs with
    | a :: b :: rest =>
      if a.isDigit && b.isDigit then
        let n := (a.toNat - 48) * 10 + (b.toNat - 48)
        if n < tooMany then .ok (n, rest) else .error .range
      else .error .character
    | _ => .error .short
  let magnitude (sign : Int) (cs : List Char) : Except TimeFault (Int × List Char) := do
    let (hours, cs) ← twoDigits 100 cs
    let cs ← between cs
    let (minutes, cs) ← twoDigits 60 cs
    return (sign * (3600 * hours + 60 * minutes), cs)
  match cs with
  | [] => .error .short
  | c :: rest =>
    if c == 'Z' || c == 'z' then .ok (0, rest)
    else if c == '+' then magnitude 1 rest
    else if c == '-' || c.toNat == 0x2212 then magnitude (-1) rest
    else .error .character

/-- A year with its sign, if it has one; without a sign it has at most four
digits. -/
def scanYear (cs : List Char) : Except TimeFault (Int × List Char) :=
  let signed (sign : Int) (limit : Nat) (rest : List Char) :
      Except TimeFault (Int × List Char) := do
    let (n, after) ← scanNumber 1 rest.length rest
    if n ≤ limit then return (sign * n, after) else throw .range
  match cs with
  | '-' :: [] => .error .short
  | '+' :: [] => .error .short
  | '-' :: rest => signed (-1) 2147483648 rest
  | '+' :: rest => signed 1 2147483647 rest
  | _ => do
    let (n, after) ← scanNumber 1 4 cs
    return ((n : Int), after)

-- ================================================================ assembly

/-- A date and time of day in some zone. -/
structure Local where
  date : Date
  hour : Nat
  minute : Nat
  second : Nat
  nano : Nat

/-- The instant of a local time that is `offset` seconds ahead of UTC. The
second 60 is the leap second after second 59. -/
def Local.toInstant? (l : Local) (offset : Int) : Option Instant :=
  if l.date.isValid && -262143 ≤ l.date.year && l.date.year ≤ 262142 then
    let leap := l.second / 60
    let i : Instant :=
      ⟨l.date.toDay * secondsPerDay + 3600 * l.hour + 60 * l.minute + (l.second - leap : Nat)
        - offset, l.nano + leap * nanosPerSecond⟩
    if i.inRange then some i else none
  else none

-- ================================================================= readers

/-- An internet timestamp. -/
def readStrict (s : List Char) : Except TimeFault Instant := do
  let (year, s) ← scanNumber 4 4 s
  let s ← scanChar '-' s
  let (month, s) ← scanField 2 2 1 12 s
  let s ← scanChar '-' s
  let (day, s) ← scanField 2 2 1 31 s
  let s ← scanDateEnd s
  let (hour, s) ← scanField 2 2 0 23 s
  let s ← scanChar ':' s
  let (minute, s) ← scanField 2 2 0 59 s
  let s ← scanChar ':' s
  let (second, s) ← scanField 2 2 0 60 s
  let (nano, s) ← scanFraction s
  let (offset, s) ← scanOffset (scanChar ':') s
  if offset.natAbs > (23 * 60 + 59) * 60 then throw .range
  if !s.isEmpty then throw .trailing
  match Local.toInstant? ⟨⟨year, month, day⟩, hour, minute, second, nano⟩ offset with
  | some i => return i
  | none => throw .range

/-- The characters after leading blanks. -/
def afterBlanks (s : List Char) : List Char := s.dropWhile Text.isBlank

/-- A date and time in UTC without a zone. -/
def readNaive (s : List Char) : Except TimeFault Instant := do
  let (year, s) ← scanYear (afterBlanks s)
  let s ← scanChar '-' s
  let (month, s) ← scanField 1 2 1 12 (afterBlanks s)
  let s ← scanChar '-' s
  let (day, s) ← scanField 1 2 1 31 (afterBlanks s)
  let s ← scanChar 'T' s
  let (hour, s) ← scanField 1 2 0 23 (afterBlanks s)
  let s ← scanChar ':' s
  let (minute, s) ← scanField 1 2 0 59 (afterBlanks s)
  let s ← scanChar ':' s
  let (second, s) ← scanField 1 2 0 60 (afterBlanks s)
  let (nano, s) ← scanFraction s
  if !s.isEmpty then throw .trailing
  match Local.toInstant? ⟨⟨year, month, day⟩, hour, minute, second, nano⟩ 0 with
  | some i => return i
  | none => throw .range

/-- The expiry of a token as identity services report it. -/
def readExpiry (s : String) : Except TimeFault Instant :=
  match readStrict s.toList with
  | .ok i => .ok i
  | .error _ => readNaive s.toList

/-- Colons and blanks, however many. -/
def skipColons (s : List Char) : Except TimeFault (List Char) :=
  .ok (s.dropWhile fun c => c == ':' || Text.isBlank c)

/-- The zone of a stored document: `UTC` or an offset. -/
def scanZone (s : List Char) : Scan Int :=
  match s with
  | u :: t :: c :: rest =>
    if [u, t, c].map Char.toUpper == ['U', 'T', 'C'] then .ok (0, rest)
    else scanOffset skipColons s
  | _ => scanOffset skipColons s

/-- A timestamp with blanks between its parts, as stored documents may hold. -/
def readLenient (s : List Char) : Except TimeFault Instant := do
  let (year, s) ← scanYear (afterBlanks s)
  let s ← scanChar '-' (afterBlanks s)
  let (month, s) ← scanField 1 2 1 12 (afterBlanks s)
  let s ← scanChar '-' (afterBlanks s)
  let (day, s) ← scanField 1 2 1 31 (afterBlanks s)
  let s ← scanDateEnd s
  let (hour, s) ← scanField 1 2 0 23 (afterBlanks s)
  let s ← scanChar ':' (afterBlanks s)
  let (minute, s) ← scanField 1 2 0 59 (afterBlanks s)
  let s ← scanChar ':' (afterBlanks s)
  let (second, s) ← scanField 1 2 0 60 (afterBlanks s)
  let (nano, s) ← scanFraction s
  let (offset, s) ← scanZone (afterBlanks s)
  if offset.natAbs ≥ secondsPerDay then throw .range
  if !(afterBlanks s).isEmpty then throw .trailing
  match Local.toInstant? ⟨⟨year, month, day⟩, hour, minute, second, nano⟩ offset with
  | some i => return i
  | none => throw .range

end Instant
end CloudSession
