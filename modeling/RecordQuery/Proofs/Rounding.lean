import Mathlib.Tactic.Linarith
import RecordQuery.Proofs.DocumentNumbers

/-!
# Rounding to a float and the shortest form

Which fractions round to a float is said here by the floats alone: no float is nearer, and of two
that are equally near the one with the even significand is taken. The neighbours of a float are the
only ones that matter for this, and half way to them are the ends of its interval. So the form that
is found is the shortest by a measure of its own: it rounds to the float, no form with a higher
power of ten does, and of those with the same power it is the nearest.
-/
namespace RecordQuery.Binary64

variable {x y : Binary64} {a b c : ℚ} {power : ℤ} {n : ℕ}

/-- The fraction rounds to the float: none is nearer, of two equally near ones this one is even, and
the fraction is not half a step or more above the largest float. -/
structure RoundsTo (x : Binary64) (q : ℚ) : Prop where
  nearest (y : Binary64) : |q - x.toRat| ≤ |q - y.toRat|
  even (y : Binary64) (other : y.toRat ≠ x.toRat) (tie : |q - x.toRat| = |q - y.toRat|) :
    x.significand % 2 = 0
  finite : |q| < 2 ^ 1024 - 2 ^ 970

theorem abs_sub_le_abs_sub_iff_mul : |a - b| ≤ |a - c| ↔ 0 ≤ (c - b) * (b + c - 2 * a) := by
  have difference : (a - c) ^ 2 - (a - b) ^ 2 = (c - b) * (b + c - 2 * a) := by ring
  rw [← sq_le_sq, ← sub_nonneg, difference]

theorem abs_sub_le_abs_sub_iff (lt : b < c) : |a - b| ≤ |a - c| ↔ 2 * a ≤ b + c := by
  rw [abs_sub_le_abs_sub_iff_mul, mul_nonneg_iff_of_pos_left (sub_pos.2 lt), sub_nonneg]

theorem abs_sub_le_abs_sub_iff' (lt : c < b) : |a - b| ≤ |a - c| ↔ b + c ≤ 2 * a := by
  rw [abs_sub_le_abs_sub_iff_mul, ← neg_mul_neg, neg_sub, neg_sub,
    mul_nonneg_iff_of_pos_left (sub_pos.2 lt), sub_nonneg]

def magnitude (x : Binary64) : ℚ := x.significand * 2 ^ x.exponent

theorem toRat_eq (x : Binary64) : x.toRat = x.sign * x.magnitude := rfl

theorem abs_toRat_eq (x : Binary64) : |x.toRat| = x.magnitude := x.abs_toRat

theorem magnitude_pos (nonzero : x.significand ≠ 0) : 0 < x.magnitude := by
  have digits : (0 : ℚ) < x.significand := by exact_mod_cast Nat.pos_of_ne_zero nonzero
  rw [magnitude]
  positivity

theorem abs_sign (x : Binary64) : |(x.sign : ℚ)| = 1 := by
  rcases x.sign_eq with sign | sign <;> simp [sign]

theorem abs_signed_sub (x : Binary64) (a b : ℚ) : |x.sign * a - x.sign * b| = |a - b| := by
  rw [← mul_sub, abs_mul, abs_sign, one_mul]

/-- The distance to the next smaller magnitude. -/
def gap (x : Binary64) : ℚ :=
  if x.significand = 0x10000000000000 ∧ -1074 < x.exponent then 2 ^ x.exponent / 2
  else 2 ^ x.exponent

theorem gap_pos (x : Binary64) : 0 < x.gap := by
  unfold gap
  split <;> positivity

theorem gap_le (x : Binary64) : x.gap ≤ 2 ^ x.exponent := by
  have positive : (0 : ℚ) < 2 ^ x.exponent := by positivity
  unfold gap
  split <;> linarith

theorem add_gap_le_of_exponent_lt (lt : y.exponent < x.exponent) :
    y.magnitude + x.gap ≤ x.magnitude := by
  obtain ⟨k, split⟩ : ∃ k : ℕ, x.exponent = y.exponent + (k + 1 : ℕ) :=
    ⟨(x.exponent - y.exponent - 1).toNat, by omega⟩
  have unit : (2 : ℚ) ^ x.exponent = 2 * 2 ^ k * 2 ^ y.exponent := by
    rw [split, zpow_add₀ two_ne_zero, zpow_natCast, pow_succ]
    ring
  have least := y.exponent_ge
  have high : -1074 < x.exponent := by omega
  have full : 0x10000000000000 ≤ x.significand := by
    rcases x.normal with low | full <;> omega
  have below : (y.significand : ℚ) ≤ 0x20000000000000 - 1 := by
    rw [le_sub_iff_add_le]
    exact_mod_cast y.significand_lt
  have one : (1 : ℚ) ≤ 2 ^ k := one_le_pow₀ (by norm_num)
  have positive : (0 : ℚ) < 2 ^ y.exponent := by positivity
  by_cases edge : x.significand = 0x10000000000000
  · have units : (y.significand : ℚ) + 2 ^ k ≤ 0x10000000000000 * (2 * 2 ^ k) := by linarith
    have scaled := mul_le_mul_of_nonneg_right units positive.le
    rw [gap, if_pos ⟨edge, high⟩, magnitude, magnitude, edge, unit]
    push_cast
    linarith
  · have more : (0x10000000000001 : ℚ) ≤ x.significand := by
      exact_mod_cast (show 0x10000000000001 ≤ x.significand by omega)
    have units : (y.significand : ℚ) + 2 * 2 ^ k ≤ x.significand * (2 * 2 ^ k) := by nlinarith
    have scaled := mul_le_mul_of_nonneg_right units positive.le
    rw [gap, if_neg (by omega), magnitude, magnitude, unit]
    linarith

/-- Between two magnitudes there is at least the step of the smaller and the gap of the larger. -/
theorem spaced (lt : x.magnitude < y.magnitude) :
    x.magnitude + 2 ^ x.exponent ≤ y.magnitude ∧ x.magnitude + y.gap ≤ y.magnitude := by
  rcases lt_or_ge y.exponent x.exponent with less | le
  · have apart := add_gap_le_of_exponent_lt less
    have positive := x.gap_pos
    linarith
  obtain ⟨k, split⟩ := Int.le.dest le
  have unit : (2 : ℚ) ^ y.exponent = 2 ^ k * 2 ^ x.exponent := by
    rw [← split, zpow_add₀ two_ne_zero, zpow_natCast, mul_comm]
  have positive : (0 : ℚ) < 2 ^ x.exponent := by positivity
  have above : x.significand < y.significand * 2 ^ k := by
    rw [magnitude, magnitude, unit, ← mul_assoc] at lt
    exact_mod_cast lt_of_mul_lt_mul_right lt positive.le
  have next : (x.significand : ℚ) + 1 ≤ y.significand * 2 ^ k := by exact_mod_cast above
  have step : x.magnitude + 2 ^ x.exponent ≤ y.magnitude := by
    have scaled := mul_le_mul_of_nonneg_right next positive.le
    rw [magnitude, magnitude, unit]
    linarith
  refine ⟨step, ?_⟩
  rcases le.lt_or_eq with less | same
  · exact add_gap_le_of_exponent_lt less
  · have small := y.gap_le
    rw [← same] at small
    linarith

/-- Whether a magnitude is at most half way to the neighbours of the float, and nearer than that if
the float is odd. -/
def Within (x : Binary64) (a : ℚ) : Prop :=
  x.magnitude ≤ a + x.gap / 2 ∧ a ≤ x.magnitude + 2 ^ x.exponent / 2
    ∧ (x.significand % 2 = 0 ∨ x.magnitude < a + x.gap / 2 ∧ a < x.magnitude + 2 ^ x.exponent / 2)

theorem Within.pos (nonzero : x.significand ≠ 0) (within : x.Within a) : 0 < a := by
  have step : x.gap ≤ x.magnitude := by
    have positive : (0 : ℚ) < 2 ^ x.exponent := by positivity
    have one : (1 : ℚ) ≤ x.significand := by exact_mod_cast Nat.one_le_iff_ne_zero.2 nonzero
    have scaled := mul_le_mul_of_nonneg_right one positive.le
    have small := x.gap_le
    rw [magnitude]
    linarith
  have positive := x.gap_pos
  linarith [within.1]

theorem Within.nearest (within : x.Within a) (y : Binary64) :
    |a - x.magnitude| ≤ |a - y.magnitude|
      ∧ (y.magnitude ≠ x.magnitude → |a - x.magnitude| = |a - y.magnitude| →
        x.significand % 2 = 0) := by
  obtain ⟨low, high, inner⟩ := within
  rcases lt_trichotomy x.magnitude y.magnitude with above | same | below
  · have apart := (spaced above).1
    refine ⟨(abs_sub_le_abs_sub_iff above).2 (by linarith), fun _ tie => ?_⟩
    rcases inner with even | ⟨-, less⟩
    · exact even
    · have half := (abs_sub_le_abs_sub_iff' above).1 tie.ge
      linarith
  · rw [same]
    exact ⟨le_rfl, fun other => absurd rfl other⟩
  · have apart := (spaced below).2
    refine ⟨(abs_sub_le_abs_sub_iff' below).2 (by linarith), fun _ tie => ?_⟩
    rcases inner with even | ⟨less, -⟩
    · exact even
    · have half := (abs_sub_le_abs_sub_iff below).1 tie.ge
      linarith

theorem limit_eq : (2 : ℚ) ^ 1024 - 2 ^ 970 = (2 ^ 54 - 1) * 2 ^ 970 := by
  rw [sub_mul, ← pow_add, one_mul]

theorem Within.lt (within : x.Within a) : a < 2 ^ 1024 - 2 ^ 970 := by
  obtain ⟨-, high, inner⟩ := within
  have unit : (0 : ℚ) < 2 ^ 970 := by positivity
  have small : (x.significand : ℚ) ≤ 2 ^ 53 - 1 := by
    rw [le_sub_iff_add_le]
    exact_mod_cast x.significand_lt
  rw [limit_eq]
  rw [magnitude] at high inner
  rcases x.exponent_le.lt_or_eq with less | greatest
  · have step : (2 : ℚ) ^ x.exponent ≤ 2 ^ 970 := by
      rw [← zpow_natCast]
      exact zpow_le_zpow_right₀ one_le_two (by omega)
    have positive : (0 : ℚ) < 2 ^ x.exponent := by positivity
    generalize (2 : ℚ) ^ 970 = t at *
    nlinarith
  · have step : (2 : ℚ) ^ x.exponent = 2 * 2 ^ 970 := by
      rw [greatest, ← pow_succ']
      exact zpow_natCast 2 971
    rw [step] at high inner
    generalize (2 : ℚ) ^ 970 = t at *
    rcases inner with even | ⟨-, strict⟩
    · have smaller : (x.significand : ℚ) ≤ 2 ^ 53 - 2 := by
        rw [le_sub_iff_add_le]
        have room := x.significand_lt
        exact_mod_cast (show x.significand + 2 ≤ 2 ^ 53 by omega)
      nlinarith
    · nlinarith

theorem exists_above (room : x.significand + 1 < 0x20000000000000 ∨ x.exponent < 971) :
    ∃ y : Binary64, y.toRat = x.sign * (x.magnitude + 2 ^ x.exponent) := by
  have small := x.significand_lt
  have least := x.exponent_ge
  have greatest := x.exponent_le
  have full := x.normal
  by_cases carry : x.significand + 1 < 0x20000000000000
  · refine ⟨⟨x.negative, x.significand + 1, x.exponent, carry, least, greatest, by omega⟩, ?_⟩
    change (x.sign : ℚ) * ((x.significand + 1 : ℕ) * 2 ^ x.exponent) = _
    rw [magnitude]
    push_cast
    ring
  · have top : x.significand = 0x1fffffffffffff := by omega
    refine ⟨⟨x.negative, 0x10000000000000, x.exponent + 1, by omega, by omega, by omega,
      .inr le_rfl⟩, ?_⟩
    change (x.sign : ℚ) * ((0x10000000000000 : ℕ) * 2 ^ (x.exponent + 1)) = _
    rw [magnitude, top, zpow_add₀ two_ne_zero, zpow_one]
    push_cast
    ring

theorem exists_below (nonzero : x.significand ≠ 0) :
    ∃ y : Binary64, y.toRat = x.sign * (x.magnitude - x.gap) := by
  have small := x.significand_lt
  have least := x.exponent_ge
  have greatest := x.exponent_le
  have full := x.normal
  by_cases edge : x.significand = 0x10000000000000 ∧ -1074 < x.exponent
  · refine ⟨⟨x.negative, 0x1fffffffffffff, x.exponent - 1, by omega, by omega, by omega,
      .inr (by omega)⟩, ?_⟩
    change (x.sign : ℚ) * ((0x1fffffffffffff : ℕ) * 2 ^ (x.exponent - 1)) = _
    rw [magnitude, gap, if_pos edge, edge.1, zpow_sub₀ two_ne_zero, zpow_one]
    push_cast
    ring
  · refine ⟨⟨x.negative, x.significand - 1, x.exponent, by omega, least, greatest, by omega⟩, ?_⟩
    change (x.sign : ℚ) * ((x.significand - 1 : ℕ) * 2 ^ x.exponent) = _
    rw [magnitude, gap, if_neg edge, Nat.cast_sub (by omega)]
    push_cast
    ring

theorem RoundsTo.compare (rounds : x.RoundsTo (x.sign * a)) (neighbour : y.toRat = x.sign * b)
    (other : b ≠ x.magnitude) :
    |a - x.magnitude| ≤ |a - b| ∧ (|a - x.magnitude| = |a - b| → x.significand % 2 = 0) := by
  have apart (c : ℚ) : |x.sign * a - x.sign * c| = |a - c| := x.abs_signed_sub a c
  have sign : (x.sign : ℚ) ≠ 0 := by
    rw [← abs_pos, abs_sign]
    exact one_pos
  have near := rounds.nearest y
  rw [neighbour, toRat_eq, apart, apart] at near
  refine ⟨near, fun tie => rounds.even y ?_ ?_⟩
  · rw [neighbour, toRat_eq]
    exact fun same => other (mul_left_cancel₀ sign same)
  · rw [neighbour, toRat_eq, apart, apart, tie]

theorem RoundsTo.low (nonzero : x.significand ≠ 0) (rounds : x.RoundsTo (x.sign * a)) :
    x.magnitude ≤ a + x.gap / 2
      ∧ (x.magnitude = a + x.gap / 2 → x.significand % 2 = 0) := by
  obtain ⟨y, neighbour⟩ := exists_below nonzero
  have less : x.magnitude - x.gap < x.magnitude := sub_lt_self _ x.gap_pos
  obtain ⟨near, even⟩ := rounds.compare neighbour less.ne
  have half := (abs_sub_le_abs_sub_iff' less).1 near
  refine ⟨by linarith, fun edge => even (near.antisymm ?_)⟩
  rw [abs_sub_le_abs_sub_iff less]
  linarith

theorem RoundsTo.high (rounds : x.RoundsTo (x.sign * a)) :
    a ≤ x.magnitude + 2 ^ x.exponent / 2
      ∧ (a = x.magnitude + 2 ^ x.exponent / 2 → x.significand % 2 = 0) := by
  have unit : (0 : ℚ) < 2 ^ x.exponent := by positivity
  by_cases room : x.significand + 1 < 0x20000000000000 ∨ x.exponent < 971
  · obtain ⟨y, neighbour⟩ := exists_above room
    have less : x.magnitude < x.magnitude + 2 ^ x.exponent := lt_add_of_pos_right _ unit
    obtain ⟨near, even⟩ := rounds.compare neighbour less.ne'
    have half := (abs_sub_le_abs_sub_iff less).1 near
    refine ⟨by linarith, fun edge => even (near.antisymm ?_)⟩
    rw [abs_sub_le_abs_sub_iff' less]
    linarith
  · have greatest := x.exponent_le
    have largest := x.significand_lt
    have top : x.magnitude + 2 ^ x.exponent / 2 = (2 ^ 54 - 1) * 2 ^ 970 := by
      have step : (2 : ℚ) ^ x.exponent = 2 * 2 ^ 970 := by
        rw [show x.exponent = 971 by omega, ← pow_succ']
        exact zpow_natCast 2 971
      rw [magnitude, step, show x.significand = 0x1fffffffffffff by omega]
      generalize (2 : ℚ) ^ 970 = t
      push_cast
      ring
    have below : a < (2 ^ 54 - 1) * 2 ^ 970 := by
      rw [← limit_eq]
      have bound := rounds.finite
      rw [abs_mul, abs_sign, one_mul] at bound
      exact (le_abs_self a).trans_lt bound
    rw [top]
    exact ⟨below.le, fun same => absurd same below.ne⟩

/-- The magnitudes that round to a float, with its sign, are those within. -/
theorem roundsTo_iff_within (nonzero : x.significand ≠ 0) (nonneg : 0 ≤ a) :
    x.RoundsTo (x.sign * a) ↔ x.Within a := by
  have apart (b : ℚ) : |x.sign * a - x.sign * b| = |a - b| := x.abs_signed_sub a b
  have itself : |x.sign * a - x.toRat| = |a - x.magnitude| := apart x.magnitude
  have size : |x.sign * a| = a := by rw [abs_mul, abs_sign, one_mul, abs_of_nonneg nonneg]
  have unit : (0 : ℚ) < 2 ^ x.exponent := by positivity
  constructor
  · intro rounds
    obtain ⟨low, lowEven⟩ := rounds.low nonzero
    obtain ⟨high, highEven⟩ := rounds.high
    refine ⟨low, high, ?_⟩
    by_cases even : x.significand % 2 = 0
    · exact .inl even
    · exact .inr ⟨low.lt_of_ne (mt lowEven even), high.lt_of_ne (mt highEven even)⟩
  · intro within
    have positive := within.pos nonzero
    have farther (y : Binary64) : |a - y.magnitude| ≤ |x.sign * a - y.toRat| := by
      have bound := abs_abs_sub_abs_le (x.sign * a) y.toRat
      rwa [size, abs_toRat_eq] at bound
    constructor
    · intro y
      rw [itself]
      exact (within.nearest y).1.trans (farther y)
    · intro y other tie
      rw [itself] at tie
      have near := (within.nearest y).1
      have far := farther y
      have level : |a - x.magnitude| = |a - y.magnitude| := le_antisymm near (tie ▸ far)
      by_cases same : y.magnitude = x.magnitude
      · have sizes : |y.toRat| = |x.toRat| := by rw [abs_toRat_eq, abs_toRat_eq, same]
        have opposite : y.toRat = -x.toRat := (abs_eq_abs.1 sizes).resolve_left other
        have itself_pos := magnitude_pos nonzero
        have sum : |x.sign * a - y.toRat| = a + x.magnitude := by
          rw [opposite, toRat_eq, sub_neg_eq_add, ← mul_add, abs_mul, abs_sign, one_mul,
            abs_of_pos (by linarith)]
        have less : |a - x.magnitude| < a + x.magnitude :=
          abs_lt.2 ⟨by linarith, by linarith⟩
        rw [tie, sum] at less
        exact absurd less (lt_irrefl _)
      · exact (within.nearest y).2 same level
    · rw [size]
      exact within.lt

theorem pow_toNat_eq {b : ℚ} (nonzero : b ≠ 0) (k : ℤ) :
    b ^ k.toNat = b ^ k * b ^ (-k).toNat := by
  rw [← zpow_natCast, ← zpow_natCast, ← zpow_add₀ nonzero]
  congr 1
  omega

theorem cast_point (x : Binary64) (power : ℤ) (n : ℕ) :
    ((n * x.step power : ℕ) : ℚ) * 2 ^ x.exponent = 4 * (n * 10 ^ power) * x.factor power := by
  have four : (2 : ℚ) ^ (2 - x.exponent) * 2 ^ x.exponent = 4 := by
    rw [← zpow_add₀ two_ne_zero, sub_add_cancel]
    norm_num
  rw [step_eq, factor_eq]
  push_cast
  rw [pow_toNat_eq (by norm_num) power, pow_toNat_eq two_ne_zero (2 - x.exponent), neg_sub, ← four]
  ring

theorem mul_factor_le_iff {m : ℕ} :
    m * x.factor power ≤ n * x.step power ↔ (m : ℚ) * 2 ^ x.exponent ≤ 4 * (n * 10 ^ power) := by
  have factor : (0 : ℚ) < x.factor power := by exact_mod_cast x.factor_pos power
  have unit : (0 : ℚ) < 2 ^ x.exponent := by positivity
  rw [← Nat.cast_le (α := ℚ), ← mul_le_mul_iff_left₀ unit, cast_point, Nat.cast_mul,
    mul_right_comm, mul_le_mul_iff_left₀ factor]

theorem le_mul_factor_iff {m : ℕ} :
    n * x.step power ≤ m * x.factor power ↔ 4 * (n * 10 ^ power) ≤ (m : ℚ) * 2 ^ x.exponent := by
  have factor : (0 : ℚ) < x.factor power := by exact_mod_cast x.factor_pos power
  have unit : (0 : ℚ) < 2 ^ x.exponent := by positivity
  rw [← Nat.cast_le (α := ℚ), ← mul_le_mul_iff_left₀ unit, cast_point, Nat.cast_mul,
    mul_right_comm (m : ℚ), mul_le_mul_iff_left₀ factor]

theorem cast_low (nonzero : x.significand ≠ 0) :
    (x.window.low : ℚ) * 2 ^ x.exponent = 4 * (x.magnitude - x.gap / 2) := by
  simp only [window, gap, magnitude]
  split
  · rw [Nat.cast_sub (by omega)]
    push_cast
    ring
  · rw [Nat.cast_sub (by omega)]
    push_cast
    ring

theorem cast_high (x : Binary64) :
    (x.window.high : ℚ) * 2 ^ x.exponent = 4 * (x.magnitude + 2 ^ x.exponent / 2) := by
  simp only [window, magnitude]
  push_cast
  ring

theorem readsBack_iff_within (nonzero : x.significand ≠ 0) :
    x.ReadsBack power n ↔ x.Within (n * 10 ^ power) := by
  rw [ReadsBack, Window.contains_iff, ← not_le, ← not_le, mul_factor_le_iff, le_mul_factor_iff,
    mul_factor_le_iff, le_mul_factor_iff, cast_low nonzero, cast_high, Within]
  have closed : x.window.closed = true ↔ x.significand % 2 = 0 := beq_iff_eq
  by_cases even : x.significand % 2 = 0
  · rw [if_pos (closed.2 even)]
    constructor
    · rintro ⟨low, high⟩
      exact ⟨by linarith, by linarith, .inl even⟩
    · rintro ⟨low, high, -⟩
      exact ⟨by linarith, by linarith⟩
  · rw [if_neg (mt closed.1 even), not_le, not_le]
    constructor
    · rintro ⟨low, high⟩
      exact ⟨by linarith, by linarith, .inr ⟨by linarith, by linarith⟩⟩
    · rintro ⟨-, -, same | ⟨low, high⟩⟩
      · exact absurd same even
      · exact ⟨by linarith, by linarith⟩

theorem cases_of_onGrid? (found : x.onGrid? power = some n) :
    n = x.window.centre * x.factor power / x.step power
        ∧ (x.ReadsBack power (n + 1) →
          2 * (x.window.centre * x.factor power % x.step power) < x.step power
            ∨ 2 * (x.window.centre * x.factor power % x.step power) = x.step power ∧ n % 2 = 0)
      ∨ ∃ below, below = x.window.centre * x.factor power / x.step power ∧ n = below + 1
        ∧ x.ReadsBack power n ∧ (x.ReadsBack power below →
          x.step power ≤ 2 * (x.window.centre * x.factor power % x.step power)
            ∧ (2 * (x.window.centre * x.factor power % x.step power) = x.step power →
              below % 2 = 1)) := by
  unfold onGrid? at found
  simp only at found
  split at found
  · rename_i fits
    left
    cases found
    refine ⟨rfl, fun above => fits.2.resolve_right ?_⟩
    rw [Bool.not_eq_true', Bool.not_eq_false]
    exact above
  · rename_i far
    split at found
    · rename_i fits
      right
      cases found
      refine ⟨_, rfl, rfl, fits, fun below => ?_⟩
      have distant : ¬(2 * (x.window.centre * x.factor power % x.step power) < x.step power
          ∨ 2 * (x.window.centre * x.factor power % x.step power) = x.step power
            ∧ x.window.centre * x.factor power / x.step power % 2 = 0) :=
        fun near => far ⟨below, .inl near⟩
      omega
    · cases found

/-- Of the multiples that read back, the one that is found is nearest, and even if it is not alone
in that. -/
theorem nearest_of_onGrid? {m : ℕ} (found : x.onGrid? power = some n) (inside : x.ReadsBack power m) :
    (n < m → 2 * x.window.centre * x.factor power ≤ (n + m) * x.step power
        ∧ ((n + m) * x.step power ≤ 2 * x.window.centre * x.factor power → n % 2 = 0))
      ∧ (m < n → (n + m) * x.step power ≤ 2 * x.window.centre * x.factor power
        ∧ (2 * x.window.centre * x.factor power ≤ (n + m) * x.step power → n % 2 = 0)) := by
  have positive := x.step_pos power
  have whole := Nat.div_add_mod (x.window.centre * x.factor power) (x.step power)
  have small := Nat.mod_lt (x.window.centre * x.factor power) positive
  have far {k : ℕ} (le : k ≤ n + m) : k * x.step power ≤ (n + m) * x.step power :=
    Nat.mul_le_mul_right _ le
  have near {k : ℕ} (le : n + m ≤ k) : (n + m) * x.step power ≤ k * x.step power :=
    Nat.mul_le_mul_right _ le
  have doubled (k j : ℕ) : (2 * k + j) * x.step power
      = 2 * (x.step power * k) + j * x.step power := by ring
  rw [Nat.mul_assoc]
  rcases cases_of_onGrid? found with ⟨quotient, upper⟩ | ⟨below, quotient, rfl, above, lower⟩
  · rw [← quotient] at whole
    constructor
    · intro less
      by_cases next : m = n + 1
      · have half := upper (next ▸ inside)
        have bound := far (k := 2 * n + 1) (by omega)
        rw [doubled] at bound
        omega
      · have bound := far (k := 2 * n + 2) (by omega)
        rw [doubled] at bound
        omega
    · intro more
      have bound := near (k := 2 * n - 1) (by omega)
      have last : (2 * n - 1) * x.step power + x.step power = 2 * (x.step power * n) := by
        rw [← Nat.succ_mul, Nat.succ_eq_add_one, Nat.sub_add_cancel (by omega)]
        ring
      omega
  · rw [← quotient] at whole
    constructor
    · intro less
      have bound := far (k := 2 * below + 3) (by omega)
      rw [doubled] at bound
      omega
    · intro more
      have between : x.ReadsBack power below := Window.contains_of_between inside above
        (Nat.mul_le_mul_right _ (by omega)) (Nat.mul_le_mul_right _ (Nat.le_succ below))
      obtain ⟨half, odd⟩ := lower between
      have bound := near (k := 2 * below + 1) (by omega)
      rw [doubled] at bound
      omega

def decimal (x : Binary64) (digits : ℕ) (power : ℤ) : ℚ := x.sign * (digits * 10 ^ power)

/-- Of the fractions with this power of ten that round to the float, the nearest one, or the even
one of the two nearest. -/
structure IsClosest (x : Binary64) (digits : ℕ) (power : ℤ) : Prop where
  rounds : x.RoundsTo (x.decimal digits power)
  nearest (n : ℕ) (rounds : x.RoundsTo (x.decimal n power)) :
    |x.decimal digits power - x.toRat| ≤ |x.decimal n power - x.toRat|
  even (n : ℕ) (other : n ≠ digits) (rounds : x.RoundsTo (x.decimal n power))
    (tie : |x.decimal digits power - x.toRat| = |x.decimal n power - x.toRat|) : digits % 2 = 0

/-- The shortest form of a float: it is the closest of its power of ten, and no fraction with a
higher power rounds to the float. Zero has the form `0`. -/
inductive IsShortest (x : Binary64) : ℕ → ℤ → Prop
  | zero (zero : x.significand = 0) : IsShortest x 0 0
  | nonzero {digits : ℕ} {power : ℤ} (nonzero : x.significand ≠ 0)
      (closest : x.IsClosest digits power)
      (coarsest : ∀ higher n, power < higher → ¬x.RoundsTo (x.decimal n higher)) :
      IsShortest x digits power

theorem roundsTo_decimal_iff (nonzero : x.significand ≠ 0) :
    x.RoundsTo (x.decimal n power) ↔ x.ReadsBack power n := by
  rw [decimal, roundsTo_iff_within nonzero (by positivity), readsBack_iff_within nonzero]

theorem distance_decimal (x : Binary64) (n : ℕ) (power : ℤ) :
    |x.decimal n power - x.toRat| = |x.magnitude - n * 10 ^ power| := by
  rw [decimal, toRat_eq, abs_signed_sub, abs_sub_comm]

theorem cast_centre (x : Binary64) : (x.window.centre : ℚ) * 2 ^ x.exponent = 4 * x.magnitude := by
  simp only [window, magnitude]
  push_cast
  ring

theorem distance_le_iff {m : ℕ} (lt : n < m) :
    |x.decimal n power - x.toRat| ≤ |x.decimal m power - x.toRat|
      ↔ 2 * x.window.centre * x.factor power ≤ (n + m) * x.step power := by
  have apart : (n : ℚ) * 10 ^ power < m * 10 ^ power :=
    mul_lt_mul_of_pos_right (by exact_mod_cast lt) (by positivity)
  have centre := x.cast_centre
  rw [distance_decimal, distance_decimal, abs_sub_le_abs_sub_iff apart, mul_factor_le_iff]
  push_cast
  constructor <;> intro h <;> linarith

theorem distance_le_iff' {m : ℕ} (lt : m < n) :
    |x.decimal n power - x.toRat| ≤ |x.decimal m power - x.toRat|
      ↔ (n + m) * x.step power ≤ 2 * x.window.centre * x.factor power := by
  have apart : (m : ℚ) * 10 ^ power < n * 10 ^ power :=
    mul_lt_mul_of_pos_right (by exact_mod_cast lt) (by positivity)
  have centre := x.cast_centre
  rw [distance_decimal, distance_decimal, abs_sub_le_abs_sub_iff' apart, le_mul_factor_iff]
  push_cast
  constructor <;> intro h <;> linarith

theorem isClosest_of_onGrid? (nonzero : x.significand ≠ 0) (found : x.onGrid? power = some n) :
    x.IsClosest n power where
  rounds := (roundsTo_decimal_iff nonzero).2 (readsBack_of_onGrid? found)
  nearest m rounds := by
    rw [roundsTo_decimal_iff nonzero] at rounds
    obtain ⟨more, less⟩ := nearest_of_onGrid? found rounds
    rcases Nat.lt_trichotomy n m with lt | rfl | gt
    · exact (distance_le_iff lt).2 (more lt).1
    · exact le_rfl
    · exact (distance_le_iff' gt).2 (less gt).1
  even m other rounds tie := by
    rw [roundsTo_decimal_iff nonzero] at rounds
    obtain ⟨more, less⟩ := nearest_of_onGrid? found rounds
    rcases Nat.lt_or_gt_of_ne other with gt | lt
    · refine (less gt).2 ?_
      rw [Nat.add_comm]
      exact (distance_le_iff gt).1 tie.ge
    · refine (more lt).2 ?_
      rw [Nat.add_comm]
      exact (distance_le_iff' lt).1 tie.ge

theorem isShortest_shortest (x : Binary64) : x.IsShortest x.shortest.1 x.shortest.2 := by
  by_cases zero : x.significand = 0
  · rw [shortest_of_zero zero]
    exact .zero zero
  · obtain ⟨-, coarsest⟩ := shortest_readsBack zero
    obtain ⟨n, i, form, found, -⟩ := exists_shortest_eq zero
    rw [form] at coarsest ⊢
    refine .nonzero zero (isClosest_of_onGrid? zero found) ?_
    intro higher m above
    rw [roundsTo_decimal_iff zero]
    exact coarsest higher m above

/-- Two forms that are equally near are both even, and the one between them is nearer. -/
theorem IsClosest.not_lt {m : ℕ} (nonzero : x.significand ≠ 0) (one : x.IsClosest n power)
    (other : x.IsClosest m power) : ¬n < m := by
  intro lt
  have tie := (one.nearest m other.rounds).antisymm (other.nearest n one.rounds)
  have even := one.even m lt.ne' other.rounds tie
  have even' := other.even n lt.ne one.rounds tie.symm
  have between : x.RoundsTo (x.decimal (n + 1) power) := by
    have left := (roundsTo_decimal_iff nonzero).1 one.rounds
    have right := (roundsTo_decimal_iff nonzero).1 other.rounds
    rw [roundsTo_decimal_iff nonzero]
    exact Window.contains_of_between left right (Nat.mul_le_mul_right _ (Nat.le_succ n))
      (Nat.mul_le_mul_right _ (Nat.succ_le_of_lt lt))
  have low := (distance_le_iff (Nat.lt_succ_self n)).1 (one.nearest _ between)
  have high := (distance_le_iff' (by omega)).1 (other.nearest _ between)
  have le := Nat.le_of_mul_le_mul_right (high.trans low) (x.step_pos power)
  omega

theorem IsShortest.eq_shortest {digits : ℕ} (form : x.IsShortest digits power) :
    digits = x.shortest.1 ∧ power = x.shortest.2 := by
  have own := x.isShortest_shortest
  cases form with
  | zero zero =>
    rw [shortest_of_zero zero]
    exact ⟨rfl, rfl⟩
  | nonzero nonzero closest coarsest =>
    generalize x.shortest.1 = digits', x.shortest.2 = power' at own
    cases own with
    | zero zero => exact absurd zero nonzero
    | nonzero _ closest' coarsest' =>
      rcases lt_trichotomy power power' with lt | rfl | gt
      · exact absurd closest'.rounds (coarsest _ _ lt)
      · have le := closest'.not_lt nonzero closest
        have ge := closest.not_lt nonzero closest'
        exact ⟨by omega, rfl⟩
      · exact absurd closest.rounds (coarsest' _ _ gt)

theorem isShortest_iff {digits : ℕ} :
    x.IsShortest digits power ↔ x.shortest = (digits, power) := by
  constructor
  · intro form
    obtain ⟨rfl, rfl⟩ := form.eq_shortest
    rfl
  · intro same
    have own := x.isShortest_shortest
    rwa [same] at own

theorem roundsTo_shown (x : Binary64) : x.RoundsTo x.shown := by
  by_cases zero : x.significand = 0
  · have none : x.toRat = 0 := toRat_eq_zero_iff.2 zero
    rw [shown_of_zero zero]
    constructor
    · intro y
      rw [none, sub_zero, abs_zero]
      exact abs_nonneg _
    · intro _ _ _
      rw [zero]
    · rw [limit_eq, abs_zero]
      positivity
  · obtain ⟨inside, -⟩ := shortest_readsBack zero
    exact (roundsTo_decimal_iff zero).2 inside

end RecordQuery.Binary64
