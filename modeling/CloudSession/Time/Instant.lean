/-
Instants of time, to the nanosecond. A second counts from the start of
1970 in UTC; nanoseconds from `10 ^ 9` on lie inside a leap second that
follows it. Instants range over the years -262143 to 262142, and moving
one beyond that range fails.
-/
import CloudSession.Time.Calendar

namespace CloudSession

/-- A moment: whole seconds since the start of 1970, and nanoseconds. -/
structure Instant where
  second : Int
  nano : Nat
deriving DecidableEq, Repr

namespace Instant

def secondsPerDay : Nat := 86400

def nanosPerSecond : Nat := 1000000000

-- ================================================================== order

/-- Whether an instant comes before another. -/
def before (a b : Instant) : Bool :=
  a.second < b.second || (a.second == b.second && a.nano < b.nano)

-- ================================================================== range

/-- The first second of the range. -/
def minSecond : Int := Date.toDay ⟨-262143, 1, 1⟩ * secondsPerDay

/-- The last second of the range. -/
def maxSecond : Int := (Date.toDay ⟨262142, 12, 31⟩ + 1) * secondsPerDay - 1

def inRange (i : Instant) : Bool := minSecond ≤ i.second && i.second ≤ maxSecond

-- ================================================================= moving

/-- The instant `nanos` nanoseconds later, wherever it lies. Leaving a leap
second forwards starts from the second before it and backwards from the
second after it, so that a whole second is always one second. -/
def shift (i : Instant) (nanos : Int) : Instant :=
  let seconds := nanos.tdiv nanosPerSecond
  let fraction := nanos.tmod nanosPerSecond
  let settle (second nano : Int) : Instant :=
    ⟨second + nano / nanosPerSecond, (nano % nanosPerSecond).toNat⟩
  if i.nano < nanosPerSecond then settle (i.second + seconds) (i.nano + fraction)
  else if 0 < seconds || (0 < fraction && 2 * nanosPerSecond ≤ i.nano + fraction) then
    settle (i.second + seconds) (i.nano - nanosPerSecond + fraction)
  else if seconds < 0 then
    settle (i.second + 1 + seconds) (i.nano - nanosPerSecond + fraction)
  else ⟨i.second, (i.nano + fraction).toNat⟩

/-- The instant `nanos` nanoseconds later, if it is in range. -/
def add? (i : Instant) (nanos : Int) : Option Instant :=
  let moved := i.shift nanos
  if moved.inRange then some moved else none

end Instant
end CloudSession
