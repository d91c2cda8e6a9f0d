import RecordQuery.Numeral.Basic

/-!
# Binary floating-point numbers of 64 bits

The finite numbers of the format, as a sign, a significand of at most 53 bits and an exponent of
two, and the number nearest to a fraction: of two that are equally near, the one with the even
significand. A fraction beyond the largest finite number has none.
-/
namespace RecordQuery

/-- The number `significand * 2 ^ exponent`, negated if `negative`; the bounds on the significand
are `2 ^ 53` and `2 ^ 52`. -/
structure Binary64 where
  negative : Bool
  significand : Nat
  exponent : Int
  significand_lt : significand < 0x20000000000000
  exponent_ge : -1074 ≤ exponent
  exponent_le : exponent ≤ 971
  /-- Above the least exponent the significand has all 53 bits, so that no number has two forms. -/
  normal : exponent = -1074 ∨ 0x10000000000000 ≤ significand
deriving DecidableEq, Repr

namespace Binary64

def ofParts? (negative : Bool) (significand : Nat) (exponent : Int) : Option Binary64 :=
  if h : significand < 0x20000000000000 ∧ -1074 ≤ exponent ∧ exponent ≤ 971
      ∧ (exponent = -1074 ∨ 0x10000000000000 ≤ significand) then
    some ⟨negative, significand, exponent, h.1, h.2.1, h.2.2.1, h.2.2.2⟩
  else none

def zero (negative : Bool) : Binary64 :=
  ⟨negative, 0, -1074, by omega, by omega, by omega, .inl rfl⟩

/-- The natural number nearest to `num / den`, the even one of two that are equally near. -/
def roundToEven (num den : Nat) : Nat :=
  let quotient := num / den
  let twice := 2 * (num % den)
  if twice < den ∨ (twice = den ∧ quotient % 2 = 0) then quotient else quotient + 1

/-- The greatest `k` with `2 ^ k ≤ num / den`, for positive `num` and `den`. -/
def log2Ratio (num den : Nat) : Int :=
  let k : Int := (num.log2 : Int) - den.log2
  if den <<< k.toNat ≤ num <<< (-k).toNat then k else k - 1

/-- The number nearest to `num / den`, for positive `den`. -/
def ofRatio? (negative : Bool) (num den : Nat) : Option Binary64 :=
  if num = 0 then some (zero negative)
  else
    let exponent := max (log2Ratio num den - 52) (-1074)
    let significand := roundToEven (num <<< (-exponent).toNat) (den <<< exponent.toNat)
    if significand = 0x20000000000000 then ofParts? negative 0x10000000000000 (exponent + 1)
    else ofParts? negative significand exponent

end Binary64
end RecordQuery
