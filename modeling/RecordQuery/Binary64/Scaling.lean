import RecordQuery.Binary64.Basic

/-!
# Scaling by powers of ten

Products and quotients of floating-point numbers, each of them rounded to the nearest number, and
the product with a power of ten made from them. The power of ten is a floating-point number too, and
a rounded one beyond `10 ^ 22`, so what comes out need not be the number nearest to the product.
-/
namespace RecordQuery.Binary64

/-- The number nearest to `num / den * 2 ^ exponent`, for positive `den`. -/
def ofScaledRatio? (negative : Bool) (num den : Nat) (exponent : Int) : Option Binary64 :=
  ofRatio? negative (num <<< exponent.toNat) (den <<< (-exponent).toNat)

def mul? (x y : Binary64) : Option Binary64 :=
  ofScaledRatio? (x.negative != y.negative) (x.significand * y.significand) 1
    (x.exponent + y.exponent)

def div? (x y : Binary64) : Option Binary64 :=
  if y.significand = 0 then none
  else
    ofScaledRatio? (x.negative != y.negative) x.significand y.significand
      (x.exponent - y.exponent)

/-- The number nearest to `10 ^ k`; the last within the format is `10 ^ 308`. -/
def tenTo? (k : Nat) : Option Binary64 :=
  if k ≤ 308 then ofRatio? false (powerOfTen k) 1 else none

/-- The number times `10 ^ power`, rounded at every step: one product or quotient, after quotients
by `10 ^ 308` as long as the power is still below the format. Zero stays as it is. -/
def scale? (x : Binary64) (power : Int) : Option Binary64 :=
  if x.significand = 0 then some x
  else if 0 ≤ power then (tenTo? power.toNat).bind fun ten => x.mul? ten
  else if -308 ≤ power then (tenTo? (-power).toNat).bind fun ten => x.div? ten
  else (tenTo? 308).bind fun ten => (x.div? ten).bind fun y => y.scale? (power + 308)
termination_by (-power).toNat
decreasing_by omega

end RecordQuery.Binary64
