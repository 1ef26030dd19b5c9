/-
Finite binary64 numbers in exact arithmetic. A number is a sign and a
magnitude `mantissa * 2 ^ exponent`; `nearest?` rounds a ratio of naturals
to the nearest such number, a half going to the even mantissa, and answers
`none` beyond the largest one. Sums, products and quotients are the rounded
exact results, so nothing here rests on the machine's floating point.
-/

namespace CloudSession

/-- A finite binary64 number: its sign and its magnitude
`mantissa * 2 ^ exponent`. -/
structure Double where
  negative : Bool
  mantissa : Nat
  exponent : Int
deriving DecidableEq, Repr

namespace Double

-- ================================================== the representation

/-- The exponent of the smallest positive number. -/
def minExponent : Int := -1074

/-- The exponent of the largest number. -/
def maxExponent : Int := 971

/-- Zero of either sign. -/
def zero (negative : Bool) : Double := ⟨negative, 0, minExponent⟩

def isZero (d : Double) : Bool := d.mantissa == 0

/-- The magnitude as a ratio of naturals. -/
def ratio (d : Double) : Nat × Nat :=
  if 0 ≤ d.exponent then (d.mantissa * Nat.pow 2 d.exponent.toNat, 1)
  else (d.mantissa, Nat.pow 2 (-d.exponent).toNat)

-- ============================================================= rounding

/-- A quotient rounded to the nearest natural, a half to the even one. -/
def roundHalfEven (num den : Nat) : Nat :=
  let q := num / den
  let r := num % den
  if den < 2 * r || (2 * r == den && q % 2 == 1) then q + 1 else q

/-- The largest `k` with `2 ^ k ≤ num / den`, both positive. -/
def floorLog2 (num den : Nat) : Int :=
  let k : Int := (Nat.log2 num : Int) - (Nat.log2 den : Int)
  let reaches :=
    if 0 ≤ k then den * Nat.pow 2 k.toNat ≤ num else den ≤ num * Nat.pow 2 (-k).toNat
  if reaches then k else k - 1

/-- The number nearest to a ratio of naturals, or `none` when that lies
beyond the largest one. -/
def nearest? (negative : Bool) (num den : Nat) : Option Double :=
  if num == 0 then some (zero negative)
  else
    let e := max (floorLog2 num den - 52) minExponent
    let m :=
      if 0 ≤ e then roundHalfEven num (den * Nat.pow 2 e.toNat)
      else roundHalfEven (num * Nat.pow 2 (-e).toNat) den
    let d : Double :=
      if m == Nat.pow 2 53 then ⟨negative, Nat.pow 2 52, e + 1⟩ else ⟨negative, m, e⟩
    if maxExponent < d.exponent then none else some d

-- =========================================================== arithmetic

/-- The number nearest to a natural. -/
def ofNat? (n : Nat) : Option Double := nearest? false n 1

/-- The rounded product, or `none` on overflow. -/
def mul? (a b : Double) : Option Double :=
  nearest? (a.negative != b.negative) (a.ratio.1 * b.ratio.1) (a.ratio.2 * b.ratio.2)

/-- The rounded quotient by a number other than zero, or `none` on overflow. -/
def div? (a b : Double) : Option Double :=
  nearest? (a.negative != b.negative) (a.ratio.1 * b.ratio.2) (a.ratio.2 * b.ratio.1)

/-- The rounded sum of two magnitudes, or `none` on overflow. -/
def addMagnitudes? (a b : Double) : Option Double :=
  nearest? false (a.ratio.1 * b.ratio.2 + b.ratio.1 * a.ratio.2) (a.ratio.2 * b.ratio.2)

end Double
end CloudSession
