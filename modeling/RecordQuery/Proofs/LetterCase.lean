import RecordQuery.Unicode.LowerCase

/-!
# Texts that differ in letter case

Two texts that agree letter by letter, once each letter is in lower case, need not have the same
lower-case form: a capital sigma becomes a final sigma at the end of a word, where a small sigma
stays as it is. Nothing else goes wrong, and it cannot go wrong unless a capital sigma of one text
stands against a small one of the other, because a letter and its lower-case form agree in what they
are to a neighbouring sigma.
-/
namespace RecordQuery.Unicode

namespace CodeRanges

/-- Whether the ranges hold the code points from `first` to `last`, if they hold all or none. -/
def uniform? : CodeRanges → Nat → Nat → Option Bool
  | [], _, _ => some false
  | (low, high) :: rest, first, last =>
    bif Nat.ble first high then
      if last ≤ high ∧ low ≤ first then some true
      else if last ≤ high ∧ last < low then some false
      else none
    else uniform? rest first last

theorem contains_of_uniform? {ranges : CodeRanges} {first last n : Nat} {held : Bool}
    (h : uniform? ranges first last = some held) (lower : first ≤ n) (upper : n ≤ last) :
    contains ranges n = held := by
  induction ranges with
  | nil => simpa [uniform?] using h
  | cons range rest ih =>
    obtain ⟨low, high⟩ := range
    rw [uniform?] at h
    cases within : Nat.ble first high with
    | false =>
      have past : high < first := by
        rw [← Nat.not_le, ← Nat.ble_eq, within]
        exact Bool.false_ne_true
      rw [within, cond_false] at h
      rw [contains_cons_of_lt (by omega)]
      exact ih h
    | true =>
      have reached : first ≤ high := Nat.le_of_ble_eq_true within
      rw [within, cond_true] at h
      split at h
      · rename_i inside
        cases h
        rw [contains_cons_of_le (by omega), decide_eq_true (by omega)]
      · split at h
        · rename_i outside
          cases h
          rw [contains_cons_of_le (by omega), decide_eq_false (by omega)]
        · cases h

end CodeRanges

namespace LowerCaseRun

def points (run : LowerCaseRun) : List Nat :=
  List.range' run.first ((run.last - run.first) / run.step + 1) run.step

/-- Whether the ranges hold a code point of the run exactly if they hold its image. Where the code
points between those of the run do not let this be seen from the ends, each is looked at. -/
def keeps (ranges : CodeRanges) (run : LowerCaseRun) : Bool :=
  match ranges.uniform? run.first run.last with
  | some held => ranges.uniform? run.image (run.last - run.first + run.image) == some held
  | none => run.points.all fun n => ranges.contains (n - run.first + run.image) == ranges.contains n

theorem mem_points {run : LowerCaseRun} {n : Nat} (lower : run.first ≤ n) (upper : n ≤ run.last)
    (step : (n - run.first) % run.step = 0) : n ∈ run.points := by
  have whole : run.step * ((n - run.first) / run.step) = n - run.first :=
    Nat.mul_div_cancel' (Nat.dvd_of_mod_eq_zero step)
  have bound : (n - run.first) / run.step ≤ (run.last - run.first) / run.step :=
    Nat.div_le_div_right (Nat.sub_le_sub_right upper run.first)
  exact List.mem_range'.2 ⟨(n - run.first) / run.step, by omega, by omega⟩

theorem contains_of_keeps {ranges : CodeRanges} {run : LowerCaseRun}
    (kept : keeps ranges run = true) {n : Nat} (lower : run.first ≤ n) (upper : n ≤ run.last)
    (step : (n - run.first) % run.step = 0) :
    ranges.contains (n - run.first + run.image) = ranges.contains n := by
  unfold keeps at kept
  split at kept
  · rename_i held letters
    have images := eq_of_beq kept
    rw [CodeRanges.contains_of_uniform? letters lower upper,
      CodeRanges.contains_of_uniform? images (by omega) (by omega)]
  · exact eq_of_beq (List.all_eq_true.1 kept n (mem_points lower upper step))

end LowerCaseRun

theorem lowerCode_eq_or (runs : List LowerCaseRun) (n : Nat) :
    lowerCode runs n = n
      ∨ ∃ run ∈ runs, run.first ≤ n ∧ n ≤ run.last ∧ (n - run.first) % run.step = 0
        ∧ lowerCode runs n = n - run.first + run.image := by
  induction runs with
  | nil => exact .inl rfl
  | cons run rest ih =>
    rw [lowerCode]
    by_cases reached : n ≤ run.last
    · rw [if_pos reached]
      split
      · rename_i inside
        exact .inr ⟨run, List.mem_cons_self, inside.1, reached, inside.2, rfl⟩
      · exact .inl rfl
    · rw [if_neg reached]
      rcases ih with same | ⟨other, mem, found⟩
      · exact .inl same
      · exact .inr ⟨other, List.mem_cons_of_mem run mem, found⟩

theorem isValidChar_image {run : LowerCaseRun} (mem : run ∈ lowerCaseRuns) {n : Nat}
    (upper : n ≤ run.last) : (n - run.first + run.image).isValidChar := by
  have table : ∀ run ∈ lowerCaseRuns, run.last - run.first + run.image < 0xD800
      ∨ 0xDFFF < run.image ∧ run.last - run.first + run.image < 0x110000 := by
    decide +kernel
  rcases table run mem with low | high
  · exact .inl (by omega)
  · exact .inr (by omega)

theorem toNat_ofNat_lowerCode (c : Char) :
    (Char.ofNat (lowerCode lowerCaseRuns c.toNat)).toNat = lowerCode lowerCaseRuns c.toNat := by
  rcases lowerCode_eq_or lowerCaseRuns c.toNat with same | ⟨run, mem, -, upper, -, image⟩
  · rw [same, Char.ofNat_toNat]
  · rw [image, Char.ofNat, dif_pos (isValidChar_image mem upper)]
    rfl

section Classes

variable {ranges : CodeRanges} (kept : ∀ run ∈ lowerCaseRuns, run.keeps ranges = true)
include kept

theorem contains_lowerCode (n : Nat) :
    ranges.contains (lowerCode lowerCaseRuns n) = ranges.contains n := by
  rcases lowerCode_eq_or lowerCaseRuns n with same | ⟨run, mem, lower, upper, step, image⟩
  · rw [same]
  · rw [image, LowerCaseRun.contains_of_keeps (kept run mem) lower upper step]

theorem contains_congr {c d : Char} (alike : lowerChar c = lowerChar d) :
    ranges.contains c.toNat = ranges.contains d.toNat := by
  by_cases dotted : c = '\u0130' <;> by_cases dotted' : d = '\u0130'
  · rw [dotted, dotted']
  · simp [lowerChar, dotted, dotted'] at alike
  · simp [lowerChar, dotted, dotted'] at alike
  · have codes : lowerCode lowerCaseRuns c.toNat = lowerCode lowerCaseRuns d.toNat := by
      rw [lowerChar, lowerChar, if_neg dotted, if_neg dotted', List.singleton_inj] at alike
      rw [← toNat_ofNat_lowerCode c, ← toNat_ofNat_lowerCode d, alike]
    rw [← contains_lowerCode kept c.toNat, ← contains_lowerCode kept d.toNat, codes]

end Classes

theorem isCased_congr {c d : Char} (alike : lowerChar c = lowerChar d) : isCased c = isCased d := by
  have kept : ∀ run ∈ lowerCaseRuns, run.keeps casedRanges = true := by decide +kernel
  exact contains_congr kept alike

theorem isCaseIgnorable_congr {c d : Char} (alike : lowerChar c = lowerChar d) :
    isCaseIgnorable c = isCaseIgnorable d := by
  have kept : ∀ run ∈ lowerCaseRuns, run.keeps caseIgnorableRanges = true := by decide +kernel
  exact contains_congr kept alike

theorem startsCased_congr {a b : List Char} (alike : a.map lowerChar = b.map lowerChar) :
    startsCased a = startsCased b := by
  induction a generalizing b with
  | nil =>
    obtain rfl : b = [] := by simpa [eq_comm] using alike
    rfl
  | cons c rest ih =>
    cases b with
    | nil => cases alike
    | cons d rest' =>
      obtain ⟨letter, letters⟩ := List.cons.inj alike
      have passed := isCaseIgnorable_congr letter
      unfold startsCased at ih ⊢
      rw [List.find?_cons, List.find?_cons, passed]
      cases isCaseIgnorable d with
      | false => exact isCased_congr letter
      | true => exact ih letters

/-- Whether two texts agree letter by letter once each letter is in lower case. -/
def LetterwiseAlike (a b : String) : Prop := a.toList.map lowerChar = b.toList.map lowerChar

instance (a b : String) : Decidable (LetterwiseAlike a b) :=
  inferInstanceAs (Decidable (a.toList.map lowerChar = b.toList.map lowerChar))

def capitalSigmas (text : String) : List Bool := text.toList.map (· == 'Σ')

/-- Which letters of a text that follows the reversed text `before` are a capital sigma that ends a
word. -/
def finalSigmasAfter (before : List Char) : List Char → List Bool
  | [] => []
  | c :: rest => (c == 'Σ' && endsWord before rest) :: finalSigmasAfter (c :: before) rest

def finalSigmas (text : String) : List Bool := finalSigmasAfter [] text.toList

theorem lowerChar_sigma : lowerChar 'Σ' = ['σ'] := by decide +kernel

theorem lowerAfter_cons (before : List Char) (c : Char) (rest : List Char) :
    lowerAfter before (c :: rest)
      = (if c == 'Σ' && endsWord before rest then ['ς'] else lowerChar c)
        ++ lowerAfter (c :: before) rest := by
  rw [lowerAfter]
  by_cases sigma : c = 'Σ'
  · subst sigma
    cases endsWord before rest <;> simp [lowerChar_sigma]
  · simp [sigma]

/-- Texts that agree letter by letter have one lower-case form if their final capital sigmas stand
at the same places, and only then. -/
theorem lowerAfter_eq_iff {a b : List Char} (alike : a.map lowerChar = b.map lowerChar)
    (before before' : List Char) :
    lowerAfter before a = lowerAfter before' b
      ↔ finalSigmasAfter before a = finalSigmasAfter before' b := by
  induction a generalizing b before before' with
  | nil =>
    obtain rfl : b = [] := by simpa [eq_comm] using alike
    simp [lowerAfter, finalSigmasAfter]
  | cons c rest ih =>
    cases b with
    | nil => cases alike
    | cons d rest' =>
      obtain ⟨letter, letters⟩ := List.cons.inj alike
      rw [lowerAfter_cons, lowerAfter_cons, finalSigmasAfter, finalSigmasAfter, List.cons.injEq,
        ← ih letters (c :: before) (d :: before'), letter]
      cases first : c == 'Σ' && endsWord before rest <;>
        cases second : d == 'Σ' && endsWord before' rest'
      · simp
      · obtain rfl : d = 'Σ' := by simp_all
        simp [lowerChar_sigma]
      · obtain rfl : c = 'Σ' := by simp_all
        simp [← letter, lowerChar_sigma]
      · simp

theorem lowercase_eq_iff {a b : String} (alike : LetterwiseAlike a b) :
    lowercase a = lowercase b ↔ finalSigmas a = finalSigmas b := by
  rw [lowercase, lowercase, String.ofList_inj]
  exact lowerAfter_eq_iff alike [] []

theorem endsWord_congr {before before' after after' : List Char}
    (behind : before.map lowerChar = before'.map lowerChar)
    (ahead : after.map lowerChar = after'.map lowerChar) :
    endsWord before after = endsWord before' after' := by
  rw [endsWord, endsWord, startsCased_congr behind, startsCased_congr ahead]

theorem finalSigmasAfter_congr {a b before before' : List Char}
    (behind : before.map lowerChar = before'.map lowerChar)
    (alike : a.map lowerChar = b.map lowerChar) (capitals : a.map (· == 'Σ') = b.map (· == 'Σ')) :
    finalSigmasAfter before a = finalSigmasAfter before' b := by
  induction a generalizing b before before' with
  | nil =>
    obtain rfl : b = [] := by simpa [eq_comm] using alike
    rfl
  | cons c rest ih =>
    cases b with
    | nil => cases alike
    | cons d rest' =>
      obtain ⟨letter, letters⟩ := List.cons.inj alike
      obtain ⟨capital, others⟩ : (c == 'Σ') = (d == 'Σ')
          ∧ rest.map (· == 'Σ') = rest'.map (· == 'Σ') := List.cons.inj capitals
      have passed : (c :: before).map lowerChar = (d :: before').map lowerChar := by
        rw [List.map_cons, List.map_cons, letter, behind]
      rw [finalSigmasAfter, finalSigmasAfter, capital, endsWord_congr behind letters,
        ih passed letters others]

/-- Final capital sigmas differ in place only if capital sigmas do. -/
theorem finalSigmas_congr {a b : String} (alike : LetterwiseAlike a b)
    (capitals : capitalSigmas a = capitalSigmas b) : finalSigmas a = finalSigmas b :=
  finalSigmasAfter_congr rfl alike capitals

end RecordQuery.Unicode
