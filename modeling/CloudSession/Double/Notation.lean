/-
How a double is written. A `Layout` holds the decisions of a format: the
range of magnitudes written without an exponent, and the tail of a whole
number. The digits are those of the shortest decimal that reads back.
-/
import CloudSession.Double.Shortest

namespace CloudSession.Double

/-- The decisions of one number format. A magnitude whose decimal point
stands from `least` to `most` places after the first digit's left edge is
written positionally, any other with an exponent. -/
structure Layout where
  least : Int
  most : Int
  wholeTail : String

/-- The positional form of a decimal. -/
def positional (tail : String) (d : Decimal) : List Char :=
  let count : Int := d.digits.length
  if count ≤ d.point then
    d.digits ++ List.replicate (d.point - count).toNat '0' ++ tail.toList
  else if 0 < d.point then
    d.digits.take d.point.toNat ++ '.' :: d.digits.drop d.point.toNat
  else '0' :: '.' :: List.replicate (-d.point).toNat '0' ++ d.digits

/-- The form with one digit before the point and a signed exponent. -/
def scientific (d : Decimal) : List Char :=
  let e := d.point - 1
  let mantissa :=
    match d.digits with
    | [] => ['0']
    | [c] => [c]
    | c :: rest => c :: '.' :: rest
  mantissa ++ 'e' :: (if e < 0 then '-' else '+') :: Nat.toDigits 10 e.natAbs

/-- The text of a number under a layout. -/
def write (layout : Layout) (d : Double) : List Char :=
  let sign := if d.negative then ['-'] else []
  if d.isZero then sign ++ '0' :: layout.wholeTail.toList
  else
    let s := d.shortest
    sign ++
      if layout.least ≤ s.point && s.point ≤ layout.most then positional layout.wholeTail s
      else scientific s

end CloudSession.Double
