import Mathlib.Tactic.Ring
import RecordQuery.Binary64.Shortest
import RecordQuery.Proofs.ExactValue

/-!
# The shortest form is the shortest

The search for the shortest form ends, and what it finds reads back while nothing coarser does. If
any multiple of a power of ten reads back as a number, then one of the number's two neighbours on
that grid does, so no grid is passed over by mistake. The grids are nested, and on the coarsest one
that is tried only a single step reads back, so there is none beyond. The form of a whole number
below `2 ^ 53` is a form of that very number, for there is no other within half a unit.
-/
namespace RecordQuery.Binary64

variable {x : Binary64} {power : ℤ}

theorem Window.contains_iff (w : Window) (factor point : ℕ) :
    w.contains factor point = true
      ↔ if w.closed then w.low * factor ≤ point ∧ point ≤ w.high * factor
        else w.low * factor < point ∧ point < w.high * factor := by
  unfold contains
  split <;> simp

theorem Window.contains_mul {k : ℕ} (pos : 0 < k) (w : Window) (factor point : ℕ) :
    w.contains (k * factor) (k * point) = w.contains factor point := by
  rw [Bool.eq_iff_iff, contains_iff, contains_iff, Nat.mul_left_comm, Nat.mul_left_comm w.high]
  simp only [Nat.mul_lt_mul_left pos, Nat.mul_le_mul_left_iff pos]

theorem Window.contains_of_between {w : Window} {factor a b c : ℕ}
    (left : w.contains factor a = true) (right : w.contains factor b = true) (ac : a ≤ c)
    (cb : c ≤ b) : w.contains factor c = true := by
  rw [contains_iff] at left right ⊢
  by_cases closed : w.closed = true
  · rw [if_pos closed] at left right ⊢
    omega
  · rw [if_neg closed] at left right ⊢
    omega

theorem low_lt_centre (nonzero : x.significand ≠ 0) : x.window.low < x.window.centre := by
  simp only [window]
  split <;> omega

theorem contains_centre (nonzero : x.significand ≠ 0) {factor : ℕ} (pos : 0 < factor) :
    x.window.contains factor (x.window.centre * factor) = true := by
  have low := Nat.mul_lt_mul_of_pos_right (low_lt_centre nonzero) pos
  have high : x.window.centre * factor < x.window.high * factor :=
    Nat.mul_lt_mul_of_pos_right (Nat.lt_add_of_pos_right (by omega)) pos
  rw [Window.contains_iff]
  split <;> omega

/-- The unit of the interval, in the measure of a grid. -/
def factor (x : Binary64) (power : ℤ) : ℕ :=
  powerOfTen (-power).toNat <<< (x.exponent - 2).toNat

def step (x : Binary64) (power : ℤ) : ℕ := powerOfTen power.toNat <<< (2 - x.exponent).toNat

theorem factor_eq (x : Binary64) (power : ℤ) :
    x.factor power = 10 ^ (-power).toNat * 2 ^ (x.exponent - 2).toNat := by
  rw [factor, Nat.shiftLeft_eq, powerOfTen_eq_pow]

theorem step_eq (x : Binary64) (power : ℤ) :
    x.step power = 10 ^ power.toNat * 2 ^ (2 - x.exponent).toNat := by
  rw [step, Nat.shiftLeft_eq, powerOfTen_eq_pow]

theorem factor_pos (x : Binary64) (power : ℤ) : 0 < x.factor power := by
  rw [factor_eq]
  positivity

theorem step_pos (x : Binary64) (power : ℤ) : 0 < x.step power := by
  rw [step_eq]
  positivity

/-- This multiple of the power of ten reads back as the number. -/
def ReadsBack (x : Binary64) (power : ℤ) (n : ℕ) : Prop :=
  x.window.contains (x.factor power) (n * x.step power) = true

theorem ReadsBack.bounds {n : ℕ} (inside : x.ReadsBack power n) :
    x.window.low * x.factor power ≤ n * x.step power
      ∧ n * x.step power ≤ x.window.high * x.factor power := by
  rw [ReadsBack, Window.contains_iff] at inside
  split at inside <;> omega

theorem readsBack_of_onGrid? {n : ℕ} (found : x.onGrid? power = some n) : x.ReadsBack power n :=
  contains_of_onGrid? found

/-- With any multiple, one of the two next to the number reads back. -/
theorem readsBack_neighbour (nonzero : x.significand ≠ 0) {n : ℕ} (inside : x.ReadsBack power n) :
    x.ReadsBack power (x.window.centre * x.factor power / x.step power)
      ∨ x.ReadsBack power (x.window.centre * x.factor power / x.step power + 1) := by
  have centre := contains_centre nonzero (x.factor_pos power)
  have below := Nat.div_mul_le_self (x.window.centre * x.factor power) (x.step power)
  have above := Nat.lt_div_mul_add (x.step_pos power) (a := x.window.centre * x.factor power)
  rw [← Nat.succ_mul] at above
  rcases Nat.lt_or_ge (x.window.centre * x.factor power / x.step power) n with right | left
  · exact .inr (Window.contains_of_between centre inside above.le
      (Nat.mul_le_mul_right _ (Nat.succ_le_of_lt right)))
  · exact .inl (Window.contains_of_between inside centre (Nat.mul_le_mul_right _ left) below)

/-- A grid with a multiple that reads back is not passed over. -/
theorem onGrid?_ne_none (nonzero : x.significand ≠ 0) {n : ℕ} (inside : x.ReadsBack power n) :
    x.onGrid? power ≠ none := by
  have neighbour := readsBack_neighbour nonzero inside
  unfold ReadsBack factor step at neighbour
  unfold onGrid?
  simp only
  split
  · simp
  · split
    · simp
    · -- the lower neighbour is given up only for the upper one
      simp_all

/-- A multiple of ten stands on the next coarser grid too. -/
theorem readsBack_ten_mul {n : ℕ} : x.ReadsBack power (10 * n) ↔ x.ReadsBack (power + 1) n := by
  unfold ReadsBack
  by_cases whole : 0 ≤ power
  · have factor_same : x.factor (power + 1) = x.factor power := by
      rw [factor_eq, factor_eq, show (-(power + 1)).toNat = (-power).toNat by omega]
    have step_ten : x.step (power + 1) = 10 * x.step power := by
      rw [step_eq, step_eq, show (power + 1).toNat = power.toNat + 1 by omega, pow_succ]
      ring
    rw [factor_same, step_ten, Nat.mul_left_comm, Nat.mul_assoc]
  · have factor_ten : x.factor power = 10 * x.factor (power + 1) := by
      rw [factor_eq, factor_eq, show (-power).toNat = (-(power + 1)).toNat + 1 by omega, pow_succ]
      ring
    have step_same : x.step (power + 1) = x.step power := by
      rw [step_eq, step_eq, show (power + 1).toNat = power.toNat by omega]
    rw [factor_ten, step_same, Nat.mul_assoc, Window.contains_mul (by omega)]

theorem readsBack_pow_mul (k : ℕ) {n : ℕ} :
    x.ReadsBack power (10 ^ k * n) ↔ x.ReadsBack (power + k) n := by
  induction k generalizing n with
  | zero => simp
  | succ k ih =>
    rw [pow_succ, Nat.mul_assoc, ih, readsBack_ten_mul, Nat.cast_succ, add_assoc]

def whole (x : Binary64) : ℕ := (x.significand <<< x.exponent.toNat) >>> (-x.exponent).toNat

/-- How many digits the whole part has, which is the power of the coarsest grid. -/
def wholeLength (x : Binary64) : ℕ := (Nat.toDigits 10 x.whole).length

theorem whole_lt_iff {x : Binary64} {bound : ℕ} :
    x.whole < bound
      ↔ x.significand * 2 ^ x.exponent.toNat < bound * 2 ^ (-x.exponent).toNat := by
  rw [whole, Nat.shiftLeft_eq, Nat.shiftRight_eq_div_pow, Nat.div_lt_iff_lt_mul (by positivity)]

theorem centre_lt_step (x : Binary64) :
    x.window.centre * x.factor x.wholeLength < x.step x.wholeLength := by
  have below : x.whole < 10 ^ x.wholeLength :=
    (Nat.length_toDigits_le_iff (by omega) Nat.length_toDigits_pos).1 le_rfl
  have units : 4 * 2 ^ (x.exponent - 2).toNat * 2 ^ (-x.exponent).toNat
      = 2 ^ x.exponent.toNat * 2 ^ (2 - x.exponent).toNat := by
    rw [show 4 = 2 ^ 2 by rfl, ← pow_add, ← pow_add, ← pow_add]
    congr 1
    omega
  have scaled := Nat.mul_lt_mul_of_pos_right (whole_lt_iff.1 below)
    (show 0 < 2 ^ (2 - x.exponent).toNat by positivity)
  rw [factor_eq, step_eq, show (-(x.wholeLength : ℤ)).toNat = 0 by omega, Int.toNat_natCast]
  apply Nat.lt_of_mul_lt_mul_right (a := 2 ^ (-x.exponent).toNat)
  calc x.window.centre * (10 ^ 0 * 2 ^ (x.exponent - 2).toNat) * 2 ^ (-x.exponent).toNat
      = x.significand * (4 * 2 ^ (x.exponent - 2).toNat * 2 ^ (-x.exponent).toNat) := by
        simp only [window]
        ring
    _ = x.significand * 2 ^ x.exponent.toNat * 2 ^ (2 - x.exponent).toNat := by
        rw [units]
        ring
    _ < 10 ^ x.wholeLength * 2 ^ (-x.exponent).toNat * 2 ^ (2 - x.exponent).toNat := scaled
    _ = 10 ^ x.wholeLength * 2 ^ (2 - x.exponent).toNat * 2 ^ (-x.exponent).toNat := by ring

/-- On the coarsest grid only the first multiple can read back. -/
theorem eq_one_of_readsBack (nonzero : x.significand ≠ 0) {n : ℕ}
    (inside : x.ReadsBack x.wholeLength n) : n = 1 := by
  have centre := x.centre_lt_step
  have low : 0 < x.window.low * x.factor x.wholeLength := by
    apply Nat.mul_pos ?_ (x.factor_pos _)
    simp only [window]
    split <;> omega
  have high : x.window.high * x.factor x.wholeLength
      ≤ 2 * (x.window.centre * x.factor x.wholeLength) := by
    rw [← Nat.mul_assoc]
    apply Nat.mul_le_mul_right
    simp only [window]
    omega
  have bounds := inside.bounds
  have positive : 0 < n := Nat.pos_of_mul_pos_right (Nat.lt_of_lt_of_le low bounds.1)
  have two : n < 2 := by
    apply Nat.lt_of_mul_lt_mul_right (a := x.step x.wholeLength)
    omega
  omega

theorem le_wholeLength_of_readsBack (nonzero : x.significand ≠ 0) {n : ℕ}
    (inside : x.ReadsBack power n) : power ≤ x.wholeLength := by
  by_contra beyond
  obtain ⟨k, rfl⟩ : ∃ k : ℕ, power = x.wholeLength + (k + 1 : ℕ) :=
    ⟨(power - x.wholeLength - 1).toNat, by omega⟩
  have one := eq_one_of_readsBack nonzero ((readsBack_pow_mul (k + 1)).2 inside)
  rw [pow_succ', Nat.mul_assoc] at one
  omega

theorem readsBack_of_step_le (nonzero : x.significand ≠ 0)
    (fine : x.step power ≤ x.factor power) :
    x.ReadsBack power (x.window.centre * x.factor power / x.step power + 1) := by
  have low := Nat.mul_lt_mul_of_pos_right (low_lt_centre nonzero) (x.factor_pos power)
  have below := Nat.div_mul_le_self (x.window.centre * x.factor power) (x.step power)
  have above := Nat.lt_div_mul_add (x.step_pos power) (a := x.window.centre * x.factor power)
  have high : x.window.high * x.factor power
      = x.window.centre * x.factor power + 2 * x.factor power := by
    rw [← Nat.add_mul]
    rfl
  have wide := x.factor_pos power
  rw [ReadsBack, Window.contains_iff, Nat.add_mul, Nat.one_mul]
  split <;> omega

theorem exists_readsBack (nonzero : x.significand ≠ 0) :
    ∃ i < 400, ∃ n, x.ReadsBack (x.wholeLength - (i : ℕ)) n := by
  have small := x.significand_lt
  have least := x.exponent_ge
  rcases lt_or_ge x.exponent 2 with fraction | large
  · have short : x.wholeLength ≤ 17 := by
      rw [wholeLength, Nat.length_toDigits_le_iff (by omega) (by omega), whole_lt_iff]
      calc x.significand * 2 ^ x.exponent.toNat ≤ x.significand * 2 ^ 1 :=
            Nat.mul_le_mul_left _ (Nat.pow_le_pow_right (by omega) (by omega))
        _ < 10 ^ 17 := by omega
        _ ≤ 10 ^ 17 * 2 ^ (-x.exponent).toNat := Nat.le_mul_of_pos_right _ (by positivity)
    refine ⟨x.wholeLength + 324, by omega, _, readsBack_of_step_le nonzero ?_⟩
    rw [show (x.wholeLength : ℤ) - (x.wholeLength + 324 : ℕ) = -324 by omega, step_eq, factor_eq,
      show (-324 : ℤ).toNat = 0 by rfl, show (- -324 : ℤ).toNat = 324 by rfl]
    -- A quarter of the finest unit, `2 ^ -1074`, is more than `10 ^ -324`.
    calc 10 ^ 0 * 2 ^ (2 - x.exponent).toNat ≤ 10 ^ 0 * 2 ^ 1076 :=
          Nat.mul_le_mul_left _ (Nat.pow_le_pow_right (by omega) (by omega))
      _ ≤ 10 ^ 324 := by decide +kernel
      _ ≤ 10 ^ 324 * 2 ^ (x.exponent - 2).toNat := Nat.le_mul_of_pos_right _ (by positivity)
  · have short : x.wholeLength ≤ 309 := by
      rw [wholeLength, Nat.length_toDigits_le_iff (by omega) (by omega), whole_lt_iff]
      have greatest := x.exponent_le
      calc x.significand * 2 ^ x.exponent.toNat ≤ 2 ^ 53 * 2 ^ 971 :=
            Nat.mul_le_mul (by omega) (Nat.pow_le_pow_right (by omega) (by omega))
        _ < 10 ^ 309 := by decide +kernel
        _ ≤ 10 ^ 309 * 2 ^ (-x.exponent).toNat := Nat.le_mul_of_pos_right _ (by positivity)
    refine ⟨x.wholeLength, by omega, _, readsBack_of_step_le nonzero ?_⟩
    rw [sub_self, step_eq, factor_eq, show (2 - x.exponent).toNat = 0 by omega]
    exact Nat.mul_le_mul_left 1 (Nat.one_le_two_pow)

theorem exists_shortest_eq (nonzero : x.significand ≠ 0) :
    ∃ (n i : ℕ), x.shortest = (n, (x.wholeLength : ℤ) - i)
      ∧ x.onGrid? (x.wholeLength - i) = some n
      ∧ ∀ j < i, x.onGrid? (x.wholeLength - j) = none := by
  have unfolded : x.shortest
      = (((List.range 400).map fun i : ℕ => (x.wholeLength : ℤ) - i).findSome? fun power =>
          (x.onGrid? power).map (·, power)).getD (0, 0) := by
    rw [shortest, if_neg nonzero]
    rfl
  rw [unfolded, List.findSome?_map]
  cases first : (List.range 400).findSome?
      ((fun power => (x.onGrid? power).map (·, power)) ∘ fun i : ℕ => (x.wholeLength : ℤ) - i) with
  | none =>
    obtain ⟨i, tried, n, inside⟩ := exists_readsBack nonzero
    have passed := List.findSome?_eq_none_iff.1 first i (List.mem_range.2 tried)
    exact absurd (Option.map_eq_none_iff.1 passed) (onGrid?_ne_none nonzero inside)
  | some form =>
    obtain ⟨before, i, after, split, found, coarser⟩ := List.findSome?_eq_some_iff.1 first
    obtain ⟨n, onGrid, rfl⟩ := Option.map_eq_some_iff.1 found
    refine ⟨n, i, rfl, onGrid, fun j earlier => ?_⟩
    have ordered : (before ++ i :: after).Pairwise (· < ·) := split ▸ List.pairwise_lt_range
    have later := (List.pairwise_cons.1 (List.pairwise_append.1 ordered).2.1).1
    have within : i < 400 := List.mem_range.1 (split ▸ List.mem_append_right _ List.mem_cons_self)
    have mem : j ∈ before ++ i :: after := split ▸ List.mem_range.2 (by omega)
    have front : j ∈ before := by
      rcases List.mem_append.1 mem with front | back
      · exact front
      · rcases List.mem_cons.1 back with rfl | behind
        · omega
        · have := later j behind
          omega
    exact Option.map_eq_none_iff.1 (coarser j front)

/-- The shortest form of a number reads back as it, and no form with a higher power of ten does. -/
theorem shortest_readsBack (nonzero : x.significand ≠ 0) :
    x.ReadsBack x.shortest.2 x.shortest.1
      ∧ ∀ power n, x.shortest.2 < power → ¬x.ReadsBack power n := by
  obtain ⟨n, i, form, found, coarser⟩ := exists_shortest_eq nonzero
  rw [form]
  refine ⟨readsBack_of_onGrid? found, ?_⟩
  intro power m higher inside
  have within := le_wholeLength_of_readsBack nonzero inside
  have tried := coarser (x.wholeLength - power).toNat (by omega)
  rw [show (x.wholeLength : ℤ) - (x.wholeLength - power).toNat = power by omega] at tried
  exact onGrid?_ne_none nonzero inside tried

/-- The shortest form ends in no zero: without it, it would be one of a higher power. -/
theorem shortest_trimmed (nonzero : x.significand ≠ 0) : x.shortest.1 % 10 ≠ 0 := by
  obtain ⟨inside, least⟩ := shortest_readsBack nonzero
  intro last
  rw [← Nat.mul_div_cancel' (Nat.dvd_of_mod_eq_zero last), readsBack_ten_mul] at inside
  exact least _ _ (by omega) inside

/-- Below `2 ^ 53` the shortest form of a whole number is a form of that number. -/
theorem shortest_of_whole (nonzero : x.significand ≠ 0) (small : x.exponent ≤ 0) {n : ℕ}
    (whole : x.significand = n * 2 ^ (-x.exponent).toNat) :
    0 ≤ x.shortest.2 ∧ x.shortest.1 * 10 ^ x.shortest.2.toNat = n := by
  obtain ⟨inside, least⟩ := shortest_readsBack nonzero
  have factor (power : ℤ) (integral : 0 ≤ power) : x.factor power = 1 := by
    rw [factor_eq, show (-power).toNat = 0 by omega, show (x.exponent - 2).toNat = 0 by omega]
    rfl
  have step (power : ℤ) : x.step power = 10 ^ power.toNat * (4 * 2 ^ (-x.exponent).toNat) := by
    rw [step_eq, show (2 - x.exponent).toNat = (-x.exponent).toNat + 2 by omega, pow_add]
    ring
  have centre : x.window.centre = n * (4 * 2 ^ (-x.exponent).toNat) := by
    simp only [window]
    rw [whole]
    ring
  have itself : x.ReadsBack 0 n := by
    have inside := contains_centre nonzero Nat.one_pos
    rwa [ReadsBack, factor 0 le_rfl, step, Int.toNat_zero, pow_zero, Nat.one_mul, ← centre,
      ← Nat.mul_one x.window.centre]
  have integral : 0 ≤ x.shortest.2 := by
    by_contra finer
    exact least 0 n (by omega) itself
  refine ⟨integral, ?_⟩
  have bounds := inside.bounds
  rw [factor _ integral, step, ← Nat.mul_assoc, Nat.mul_one, Nat.mul_one] at bounds
  -- The interval reaches half a unit to both sides, so no other whole number is in it.
  have low : x.window.centre ≤ x.window.low + 2 := by
    simp only [window]
    split <;> omega
  have high : x.window.high = x.window.centre + 2 := rfl
  have wide : 4 ≤ 4 * 2 ^ (-x.exponent).toNat := Nat.le_mul_of_pos_right 4 (by positivity)
  rw [high, centre] at bounds
  rw [centre] at low
  generalize 4 * 2 ^ (-x.exponent).toNat = unit at bounds low wide
  rcases Nat.lt_trichotomy (x.shortest.1 * 10 ^ x.shortest.2.toNat) n with below | equal | above
  · have next := Nat.mul_le_mul_right unit (Nat.succ_le_of_lt below)
    rw [Nat.succ_mul] at next
    omega
  · exact equal
  · have next := Nat.mul_le_mul_right unit (Nat.succ_le_of_lt above)
    rw [Nat.succ_mul] at next
    omega

end RecordQuery.Binary64
