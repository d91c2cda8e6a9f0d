import Mathlib.Algebra.Order.Field.Power
import RecordQuery.Json.Number
import RecordQuery.Proofs.ShortestForm

/-!
# The numbers that documents say

A float in a document says the number of its shortest decimal form. Below `2 ^ 53` that is the whole
number that the float is, if it is one; from there on the form fills up with zeros and may say
another.
What a number is read as is the number that it says, and it is read whenever a decimal has that
value, in whichever form it stands.
-/
namespace RecordQuery

/-- If any decimal has the value of a fraction without a needless digit behind its point, then the
fraction is within the range of decimals itself. -/
theorem Decimal.exists_ofScaled?_of_toRat_eq {coefficient : ℤ} {scale : ℕ}
    (reduced : scale = 0 ∨ ¬10 ∣ coefficient) {d : Decimal}
    (same : d.toRat = coefficient / 10 ^ scale) : ∃ d', ofScaled? coefficient scale = some d' := by
  have crossed : d.coefficient * 10 ^ scale = coefficient * 10 ^ d.scale := by
    rw [toRat, div_eq_div_iff (by positivity) (by positivity)] at same
    exact_mod_cast same
  have fits : scale ≤ d.scale ∧ coefficient.natAbs ≤ d.coefficient.natAbs := by
    rcases Nat.lt_or_ge d.scale scale with finer | coarser
    · obtain ⟨k, rfl⟩ := Nat.exists_eq_add_of_lt finer
      have multiple : d.coefficient * 10 ^ k * 10 = coefficient := by
        apply mul_right_cancel₀ (pow_ne_zero d.scale (by norm_num : (10 : ℤ) ≠ 0))
        rw [← crossed]
        ring
      rcases reduced with whole | last
      · omega
      · exact absurd (Dvd.intro_left _ multiple) last
    · obtain ⟨k, split⟩ := Nat.exists_eq_add_of_le coarser
      have multiple : d.coefficient = coefficient * 10 ^ k := by
        apply mul_right_cancel₀ (pow_ne_zero scale (by norm_num : (10 : ℤ) ≠ 0))
        rw [crossed, split]
        ring
      rw [multiple, Int.natAbs_mul]
      exact ⟨coarser, Nat.le_mul_of_pos_right _ (Int.natAbs_pos.2 (by positivity))⟩
  have low := d.coefficient_lt
  have places := d.scale_le
  rw [← Option.ne_none_iff_exists', ne_eq, ofScaled?_eq_none_iff]
  omega

theorem Value.exists_toRat_of_number? {value : Value} {q : ℚ} (number : value.number? = some q) :
    ∃ d : Decimal, d.toRat = q := by
  cases value with
  | integer n => exact ⟨.ofInt64 n, by simpa [number?] using number⟩
  | decimal d => exact ⟨d, by simpa [number?] using number⟩
  | _ => cases number

namespace Binary64

variable {x y : Binary64}

def sign (x : Binary64) : ℤ := if x.negative then -1 else 1

def toRat (x : Binary64) : ℚ := x.sign * (x.significand * 2 ^ x.exponent)

/-- The number that the shortest form says. -/
def shown (x : Binary64) : ℚ := x.sign * (x.shortest.1 * 10 ^ x.shortest.2)

theorem sign_eq (x : Binary64) : x.sign = 1 ∨ x.sign = -1 := by
  unfold sign
  split
  · exact .inr rfl
  · exact .inl rfl

theorem coefficient_signed (x : Binary64) (magnitude scale : ℕ) :
    (⟨x.negative, magnitude, scale⟩ : Numeral).coefficient = x.sign * magnitude := by
  rw [Numeral.coefficient, sign]
  cases x.negative <;> simp

theorem shortest_of_zero (zero : x.significand = 0) : x.shortest = (0, 0) := by
  rw [shortest, if_pos zero]

theorem shown_of_zero (zero : x.significand = 0) : x.shown = 0 := by
  simp [shown, shortest_of_zero zero]

theorem abs_toRat (x : Binary64) : |x.toRat| = x.significand * 2 ^ x.exponent := by
  have positive : (0 : ℚ) ≤ x.significand * 2 ^ x.exponent := by positivity
  rcases x.sign_eq with sign | sign <;> simp [toRat, sign, abs_of_nonneg positive]

theorem toRat_eq_zero_iff : x.toRat = 0 ↔ x.significand = 0 := by
  rw [← abs_eq_zero, abs_toRat, mul_eq_zero, Nat.cast_eq_zero]
  simp [zpow_ne_zero]

/-- No magnitude has two forms. -/
theorem parts_eq_of_abs_toRat (same : |x.toRat| = |y.toRat|) (le : x.exponent ≤ y.exponent) :
    x.significand = y.significand ∧ (x.significand ≠ 0 → x.exponent = y.exponent) := by
  obtain ⟨k, split⟩ := Int.le.dest le
  have multiple : x.significand = y.significand * 2 ^ k := by
    rw [abs_toRat, abs_toRat, ← split, zpow_add₀ two_ne_zero, zpow_natCast,
      mul_comm (2 ^ x.exponent), ← mul_assoc] at same
    exact_mod_cast mul_right_cancel₀ (zpow_ne_zero _ two_ne_zero) same
  cases k with
  | zero => exact ⟨by omega, by omega⟩
  | succ k =>
    have bound := x.significand_lt
    have least := x.exponent_ge
    have full := y.normal
    have double : y.significand * 2 ≤ x.significand := by
      rw [multiple]
      exact Nat.mul_le_mul_left _ (Nat.le_self_pow (by omega) 2)
    omega

theorem shortest_congr (significand : x.significand = y.significand)
    (exponent : x.exponent = y.exponent) : x.shortest = y.shortest := by
  obtain ⟨_, _, _, _, _, _, _⟩ := x
  obtain ⟨_, _, _, _, _, _, _⟩ := y
  cases significand
  cases exponent
  rfl

theorem shown_eq_of_toRat_eq (same : x.toRat = y.toRat) : x.shown = y.shown := by
  wlog le : x.exponent ≤ y.exponent generalizing x y
  · exact (this same.symm (by omega)).symm
  obtain ⟨significand, exponent⟩ := parts_eq_of_abs_toRat (congrArg abs same) le
  by_cases zero : x.significand = 0
  · rw [shown_of_zero zero, shown_of_zero (significand ▸ zero)]
  · have sign : (x.sign : ℚ) = y.sign := by
      rw [toRat, toRat, ← significand, ← exponent zero] at same
      exact mul_right_cancel₀ (by positivity) same
    rw [shown, shown, sign, shortest_congr significand (exponent zero)]

/-- A float that is a whole number with room for all its digits says that number. -/
theorem shown_eq_of_toRat_eq_int {n : ℤ} (whole : x.toRat = n) (small : |n| < 2 ^ 53) :
    x.shown = n := by
  by_cases zero : x.significand = 0
  · rw [shown_of_zero zero, ← whole, toRat_eq_zero_iff.2 zero]
  have magnitude : (x.significand : ℚ) * 2 ^ x.exponent = n.natAbs := by
    rw [← abs_toRat, whole, Nat.cast_natAbs, Int.cast_abs]
  have exponent : x.exponent ≤ 0 := by
    by_contra large
    obtain ⟨k, split⟩ : ∃ k : ℕ, x.exponent = k + 1 := ⟨(x.exponent - 1).toNat, by omega⟩
    have full : 2 ^ 52 ≤ x.significand := by
      rcases x.normal with least | full <;> omega
    have product : x.significand * 2 ^ (k + 1) = n.natAbs := by
      rw [split] at magnitude
      exact_mod_cast magnitude
    have double : x.significand * 2 ≤ x.significand * 2 ^ (k + 1) :=
      Nat.mul_le_mul_left _ (Nat.le_self_pow (by omega) 2)
    rw [Int.abs_eq_natAbs] at small
    omega
  have significand : x.significand = n.natAbs * 2 ^ (-x.exponent).toNat := by
    have split : (2 : ℚ) ^ (-x.exponent).toNat * 2 ^ x.exponent = 1 := by
      rw [← zpow_natCast, Int.toNat_of_nonneg (by omega), zpow_neg, inv_mul_cancel₀ (by positivity)]
    have scaled : (x.significand : ℚ) = n.natAbs * 2 ^ (-x.exponent).toNat := by
      rw [← magnitude, mul_assoc, mul_comm (2 ^ x.exponent), split, mul_one]
    exact_mod_cast scaled
  obtain ⟨integral, digits⟩ := shortest_of_whole zero exponent significand
  rw [shown, ← Int.toNat_of_nonneg integral, zpow_natCast, ← whole, toRat, magnitude, ← digits]
  push_cast
  rfl

end Binary64

namespace Json.Number

def exact : Number → ℚ
  | integer n => n
  | float x => x.toRat

/-- The number, with a float as its decimal form says it. -/
def stated : Number → ℚ
  | integer n => n
  | float x => x.shown

def SaysSame (n n' : Number) : Prop := n.stated = n'.stated

def isFloat : Number → Bool
  | integer _ => false
  | float _ => true

/-- Equal numbers say the same, but for an integer and a float that are too large. -/
theorem saysSame_of_exact {n n' : Number} (equal : n.exact = n'.exact)
    (plain : |n.exact| < 2 ^ 53 ∨ n.isFloat = n'.isFloat) : n.SaysSame n' := by
  have whole {n : ℤ} {x : Binary64} (equal : x.toRat = n) (small : |(n : ℚ)| < 2 ^ 53) :
      x.shown = n := Binary64.shown_eq_of_toRat_eq_int equal (by exact_mod_cast small)
  cases n with
  | integer n =>
    cases n' with
    | integer n' => exact equal
    | float x' =>
      have small : |(n : ℚ)| < 2 ^ 53 := by simpa [exact, isFloat] using plain
      exact (whole equal.symm small).symm
  | float x =>
    cases n' with
    | integer n' =>
      have small : |x.toRat| < 2 ^ 53 := by simpa [exact, isFloat] using plain
      rw [show x.toRat = n' from equal] at small
      exact whole equal small
    | float x' => exact Binary64.shown_eq_of_toRat_eq equal

theorem decimal?_numeral (n : Numeral) (power : ℤ) :
    decimal? n.negative n.magnitude power
      = Decimal.ofScaled? (n.coefficient * 10 ^ power.toNat) (-power).toNat := by
  rw [decimal?, powerOfTen_eq_pow, Numeral.coefficient]
  congr 1
  cases n.negative <;> simp

theorem decimal?_eq_ofScaled? (x : Binary64) (digits : ℕ) (power : ℤ) :
    decimal? x.negative digits power
      = Decimal.ofScaled? (x.sign * (digits * 10 ^ power.toNat)) (-power).toNat := by
  have signed := decimal?_numeral ⟨x.negative, digits, 0⟩ power
  rwa [Binary64.coefficient_signed, mul_assoc] at signed

theorem scaled_div_eq (coefficient power : ℤ) :
    ((coefficient * 10 ^ power.toNat : ℤ) : ℚ) / 10 ^ (-power).toNat
      = coefficient * 10 ^ power := by
  have split : (10 : ℚ) ^ power.toNat = 10 ^ power * 10 ^ (-power).toNat := by
    rw [← zpow_natCast, ← zpow_natCast, ← zpow_add₀ (by norm_num)]
    congr 1
    omega
  push_cast
  rw [split]
  field_simp

theorem coefficient_div_eq (sign : ℤ) (digits : ℕ) (power : ℤ) :
    ((sign * (digits * 10 ^ power.toNat) : ℤ) : ℚ) / 10 ^ (-power).toNat
      = sign * (digits * 10 ^ power) := by
  rw [← mul_assoc, scaled_div_eq]
  push_cast
  exact mul_assoc _ _ _

theorem toRat_of_decimal? {x : Binary64} {d : Decimal}
    (read : decimal? x.negative x.shortest.1 x.shortest.2 = some d) : d.toRat = x.shown := by
  rw [decimal?_eq_ofScaled?, Decimal.ofScaled?_eq_some_iff] at read
  rw [Decimal.toRat, read.1, read.2, coefficient_div_eq, Binary64.shown]

/-- What a number is read as is the number that it says. -/
theorem number?_of_value? {n : Number} {value : Value} (read : n.value? = some value) :
    value.number? = some n.stated := by
  cases n with
  | integer n =>
    rw [value?] at read
    cases within : int64OfInt? n with
    | some i =>
      rw [within] at read
      cases read
      rw [Value.number?, toInt_of_int64OfInt? within, stated]
    | none =>
      rw [within] at read
      obtain ⟨d, found, rfl⟩ := Option.map_eq_some_iff.1 read
      obtain ⟨coefficient, scale⟩ := Decimal.ofScaled?_eq_some_iff.1 found
      simp [Value.number?, stated, Decimal.toRat, coefficient, scale]
  | float x =>
    obtain ⟨d, found, rfl⟩ := Option.map_eq_some_iff.1 read
    rw [Value.number?, toRat_of_decimal? found, stated]

theorem reduced_shortest (x : Binary64) :
    (-x.shortest.2).toNat = 0 ∨ ¬10 ∣ x.sign * ((x.shortest.1 : ℤ) * 10 ^ x.shortest.2.toNat) := by
  by_cases zero : x.significand = 0
  · rw [Binary64.shortest_of_zero zero]
    exact .inl rfl
  · have trimmed := Binary64.shortest_trimmed zero
    by_cases whole : 0 ≤ x.shortest.2
    · exact .inl (by omega)
    · right
      rw [show x.shortest.2.toNat = 0 by omega, pow_zero, mul_one]
      rcases x.sign_eq with sign | sign <;> rw [sign] <;> omega

/-- A number is read if a decimal has the value that it says. -/
theorem exists_value?_iff {n : Number} :
    (∃ value, n.value? = some value) ↔ ∃ d : Decimal, d.toRat = n.stated := by
  constructor
  · rintro ⟨value, read⟩
    exact Value.exists_toRat_of_number? (number?_of_value? read)
  · rintro ⟨d, same⟩
    cases n with
    | integer n =>
      cases within : int64OfInt? n with
      | some i => exact ⟨.integer i, by simp only [value?, within]⟩
      | none =>
        have whole : d.toRat = n / 10 ^ 0 := by simpa [stated] using same
        obtain ⟨d', found⟩ := Decimal.exists_ofScaled?_of_toRat_eq (.inl rfl) whole
        exact ⟨.decimal d', by simp only [value?, within, found, Option.map_some]⟩
    | float x =>
      rw [stated, Binary64.shown, ← coefficient_div_eq] at same
      obtain ⟨d', found⟩ := Decimal.exists_ofScaled?_of_toRat_eq (reduced_shortest x) same
      rw [← decimal?_eq_ofScaled?] at found
      exact ⟨.decimal d', by simp only [value?, found, Option.map_some]⟩

end Json.Number
end RecordQuery
