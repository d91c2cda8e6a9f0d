/-!
# Sets of code points as ranges

A Unicode property is a list of inclusive ranges in ascending order. Membership stops at the
first range that does not end below the code point, so the common low code points are decided
after a few steps.
-/
namespace RecordQuery.Unicode

/-- Inclusive ranges of code points, in ascending order and without overlap. -/
abbrev CodeRanges := List (Nat × Nat)

namespace CodeRanges

def contains : CodeRanges → Nat → Bool
  | [], _ => false
  | (first, last) :: rest, n => if n ≤ last then decide (first ≤ n) else contains rest n

@[simp] theorem contains_nil (n : Nat) : contains [] n = false := rfl

theorem contains_cons_of_le {first last n : Nat} {rest : CodeRanges} (h : n ≤ last) :
    contains ((first, last) :: rest) n = decide (first ≤ n) := by
  simp [contains, h]

theorem contains_cons_of_lt {first last n : Nat} {rest : CodeRanges} (h : last < n) :
    contains ((first, last) :: rest) n = contains rest n := by
  simp [contains, Nat.not_le.2 h]

theorem exists_range_of_contains {ranges : CodeRanges} {n : Nat} (h : contains ranges n = true) :
    ∃ range ∈ ranges, range.1 ≤ n ∧ n ≤ range.2 := by
  induction ranges with
  | nil => simp at h
  | cons range rest ih =>
    obtain ⟨first, last⟩ := range
    by_cases hn : n ≤ last
    · rw [contains_cons_of_le hn] at h
      exact ⟨(first, last), by simp, of_decide_eq_true h, hn⟩
    · rw [contains_cons_of_lt (Nat.not_le.1 hn)] at h
      obtain ⟨found, mem, bounds⟩ := ih h
      exact ⟨found, List.mem_cons_of_mem _ mem, bounds⟩

end CodeRanges
end RecordQuery.Unicode
