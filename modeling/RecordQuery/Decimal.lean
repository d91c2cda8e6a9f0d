import RecordQuery.Numeral.Basic

/-!
# Decimals

A decimal is a signed coefficient below `2 ^ 96` with at most 28 digits after the point. The scale
is kept, so `1.50` is written `1.50`, but equality and order are those of the exact values. What
does not fit is refused, never rounded.
-/
namespace RecordQuery

/-- The number `coefficient / 10 ^ scale`; the bound on the coefficient is `2 ^ 96`. -/
structure Decimal where
  coefficient : Int
  scale : Nat
  coefficient_lt : coefficient.natAbs < 0x1000000000000000000000000
  scale_le : scale ≤ 28
deriving DecidableEq, Repr

namespace Decimal

def ofScaled? (coefficient : Int) (scale : Nat) : Option Decimal :=
  if h : coefficient.natAbs < 0x1000000000000000000000000 ∧ scale ≤ 28 then
    some ⟨coefficient, scale, h.1, h.2⟩
  else none

theorem ofScaled?_eq_some_iff {coefficient : Int} {scale : Nat} {d : Decimal} :
    ofScaled? coefficient scale = some d ↔ d.coefficient = coefficient ∧ d.scale = scale := by
  unfold ofScaled?
  constructor
  · intro h
    split at h
    · cases h
      exact ⟨rfl, rfl⟩
    · cases h
  · rintro ⟨rfl, rfl⟩
    rw [dif_pos ⟨d.coefficient_lt, d.scale_le⟩]

theorem ofScaled?_eq_none_iff {coefficient : Int} {scale : Nat} :
    ofScaled? coefficient scale = none
      ↔ 0x1000000000000000000000000 ≤ coefficient.natAbs ∨ 28 < scale := by
  unfold ofScaled?
  split <;> simp <;> omega

def ofInt64 (n : Int64) : Decimal where
  coefficient := n.toInt
  scale := 0
  coefficient_lt := by
    have := n.toInt_lt
    have := n.le_toInt
    omega
  scale_le := by omega

def ofNumeral? (n : Numeral) : Option Decimal := ofScaled? n.coefficient n.scale

def read? (text : String) : Option Decimal := (Numeral.read? text.toList).bind ofNumeral?

/-- The numeral of a decimal: zero has no sign. -/
def numeral (d : Decimal) : Numeral where
  negative := decide (d.coefficient < 0)
  magnitude := d.coefficient.natAbs
  scale := d.scale

@[simp] theorem coefficient_numeral (d : Decimal) : d.numeral.coefficient = d.coefficient := by
  unfold numeral Numeral.coefficient
  by_cases h : d.coefficient < 0
  · simp only [h, decide_true, if_true]
    omega
  · simp only [h, decide_false, Bool.false_eq_true, if_false]
    omega

/-- A decimal is what its numeral denotes. -/
theorem ofNumeral?_numeral (d : Decimal) : ofNumeral? d.numeral = some d := by
  unfold ofNumeral?
  rw [coefficient_numeral]
  exact ofScaled?_eq_some_iff.2 ⟨rfl, rfl⟩

def text (d : Decimal) : String := d.numeral.text

/-- The coefficient that a decimal would have with `places` more digits after the point. -/
def scaledUp (d : Decimal) (places : Nat) : Int := d.coefficient * powerOfTen places

def cmp (a b : Decimal) : Ordering := compare (a.scaledUp b.scale) (b.scaledUp a.scale)

/-- Two decimals have the same value, whatever their scales. -/
def Same (a b : Decimal) : Prop := a.scaledUp b.scale = b.scaledUp a.scale

instance : DecidableRel Same := fun a b =>
  inferInstanceAs (Decidable (a.scaledUp b.scale = b.scaledUp a.scale))

@[simp] theorem Same.refl (a : Decimal) : Same a a := rfl

theorem cmp_eq_eq_iff {a b : Decimal} : a.cmp b = .eq ↔ Same a b := by
  simp [cmp, Same]

end Decimal
end RecordQuery
