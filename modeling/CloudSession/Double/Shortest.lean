/-
The shortest decimal that reads back as a given double. Among the decimals
inside the interval of reals that round to the number, `shortest` takes one
with the fewest digits, and of those the nearest.
-/
import CloudSession.Double.Basic

namespace CloudSession

/-- A positive decimal `0.d₁d₂… * 10 ^ point` whose digits begin and end
with none but significant ones. -/
structure Decimal where
  digits : List Char
  point : Int
deriving DecidableEq, Repr

namespace Double

-- ================================================== the rounding interval

/-- The reals that round to a positive number, with the number itself, as
naturals over the one denominator `den`; the ends belong to it when
`closed`. -/
structure Interval where
  low : Nat
  value : Nat
  high : Nat
  den : Nat
  closed : Bool

/-- The interval of reals that round to the magnitude of `d`. Below a power
of two the spacing halves, so the lower half-gap is a quarter there. -/
def interval (d : Double) : Interval :=
  let m := d.mantissa
  let e := d.exponent - 2
  let gap := if m == Nat.pow 2 52 && minExponent < d.exponent then 1 else 2
  let scale := if 0 ≤ e then Nat.pow 2 e.toNat else 1
  { low := (4 * m - gap) * scale
    value := 4 * m * scale
    high := (4 * m + 2) * scale
    den := if 0 ≤ e then 1 else Nat.pow 2 (-e).toNat
    closed := m % 2 == 0 }

/-- Whether the ratio `num / den` of naturals lies in the interval. -/
def Interval.holds (i : Interval) (num den : Nat) : Bool :=
  if i.closed then i.low * den ≤ num * i.den && num * i.den ≤ i.high * den
  else i.low * den < num * i.den && num * i.den < i.high * den

-- ======================================================= decimal grids

/-- The number of decimal digits of a natural. -/
def digitCount (n : Nat) : Nat := (Nat.toDigits 10 n).length

/-- The largest `k` with `10 ^ k ≤ num / den`, both positive. -/
def floorLog10 (num den : Nat) : Int :=
  let k : Int := (digitCount num : Int) - (digitCount den : Int)
  let reaches :=
    if 0 ≤ k then den * Nat.pow 10 k.toNat ≤ num else den ≤ num * Nat.pow 10 (-k).toNat
  if reaches then k else k - 1

/-- The better of the two multiples of `10 ^ k` beside the value that lie
in the interval, as the multiplier. -/
def gridHit? (i : Interval) (k : Int) : Option Nat :=
  let up := if 0 ≤ k then Nat.pow 10 k.toNat else 1
  let down := if 0 ≤ k then 1 else Nat.pow 10 (-k).toNat
  let num := i.value * down
  let den := i.den * up
  let below := num / den
  let above := below + 1
  let inBelow := i.holds (below * up) down
  let inAbove := i.holds (above * up) down
  if inBelow && inAbove then
    let r := num % den
    if 2 * r < den || (2 * r == den && below % 2 == 0) then some below else some above
  else if inBelow then some below
  else if inAbove then some above
  else none

/-- The first hit on the grids of `n`, `n + 1`, … digits. -/
def firstHit (i : Interval) (top : Int) : Nat → Nat → Nat × Int
  | 0, n => (i.value / i.den, top - n)
  | fuel + 1, n =>
    let k := top - n
    match gridHit? i k with
    | some c => (c, k)
    | none => firstHit i top fuel (n + 1)

/-- The shortest decimal that rounds to the magnitude of `d`, `d` not zero.
Seventeen digits always suffice. -/
def shortest (d : Double) : Decimal :=
  let i := d.interval
  let top := floorLog10 i.value i.den
  let (c, k) := firstHit i top 18 0
  let text := Nat.toDigits 10 c
  { digits := (text.reverse.dropWhile (· == '0')).reverse
    point := k + text.length }

end Double
end CloudSession
