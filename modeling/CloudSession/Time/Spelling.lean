/-
Writing instants. A spelling is a local date and time with an optional
fraction of up to nine digits and a mark of its zone: `Z`, an offset, or
nothing for UTC. `Instant.text` is the form used in documents: UTC with `Z`
and as many of 0, 3, 6 or 9 fraction digits as the instant needs.
-/
import CloudSession.Time.Instant
import CloudSession.Text.Part

namespace CloudSession

/-- How a spelling marks its zone. An offset counts minutes east of UTC. -/
inductive Zone
  | zulu
  | offset (minutes : Int)
  | unmarked
deriving DecidableEq, Repr

namespace Zone

/-- The seconds that local time is ahead of UTC. -/
def seconds : Zone → Int
  | .offset minutes => 60 * minutes
  | _ => 0

end Zone

namespace Instant

-- ================================================================= digits

/-- A natural in at least `width` digits. -/
def padded (width n : Nat) : List Char :=
  let digits := Nat.toDigits 10 n
  List.replicate (width - digits.length) '0' ++ digits

/-- A year: four digits, or a sign and at least four. -/
def yearText (year : Int) : List Char :=
  if 0 ≤ year && year ≤ 9999 then padded 4 year.toNat
  else (if year < 0 then '-' else '+') :: padded 4 year.natAbs

/-- A fraction of `places` digits behind a point, or nothing. -/
def fractionText (places nanos : Nat) : List Char :=
  if places == 0 then [] else '.' :: (padded 9 nanos).take places

/-- The mark of a zone. -/
def zoneText : Zone → List Char
  | .zulu => ['Z']
  | .unmarked => []
  | .offset minutes =>
    (if minutes < 0 then '-' else '+') :: padded 2 (minutes.natAbs / 60) ++
      ':' :: padded 2 (minutes.natAbs % 60)

-- ============================================================== spellings

/-- The spelling of an instant in a zone with some number of fraction
digits. A leap second is written as second 60. -/
def spell (zone : Zone) (places : Nat) (i : Instant) : List Char :=
  let localSecond := i.second + zone.seconds
  let date := Date.ofDay (localSecond / secondsPerDay)
  let ofDay := (localSecond % secondsPerDay).toNat
  let second := ofDay % 60 + i.nano / nanosPerSecond
  yearText date.year ++ '-' :: padded 2 date.month ++ '-' :: padded 2 date.day ++
    'T' :: padded 2 (ofDay / 3600) ++ ':' :: padded 2 (ofDay / 60 % 60) ++
    ':' :: padded 2 second ++ fractionText places (i.nano % nanosPerSecond) ++ zoneText zone

/-- The fewest of 0, 3, 6 or 9 digits that write the fraction. -/
def neededPlaces (i : Instant) : Nat :=
  let nanos := i.nano % nanosPerSecond
  if nanos == 0 then 0
  else if nanos % 1000000 == 0 then 3
  else if nanos % 1000 == 0 then 6
  else 9

/-- The form in documents. -/
def text (i : Instant) : String := String.ofList (spell .zulu i.neededPlaces i)

/-- The form shown to a reader, with a numeric offset. -/
def displayText (i : Instant) : String := String.ofList (spell (.offset 0) i.neededPlaces i)

end Instant
end CloudSession
