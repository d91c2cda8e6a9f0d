import RecordQuery.Token.Lexeme

/-!
# Classes of characters

Which classes of characters exclude each other. Blanks, letters and numbers are given by tables of
ranges, and two tables exclude each other if no range of one meets a range of the other. This is why
a gap between two lexemes may be empty: no character that can start what comes after a name or a
number can go on with it.
-/
namespace RecordQuery

namespace Unicode

/-- Whether no range of one table meets a range of the other. -/
def CodeRanges.apart (a b : CodeRanges) : Bool :=
  a.all fun x => b.all fun y => decide (x.2 < y.1) || decide (y.2 < x.1)

theorem CodeRanges.contains_of_apart {a b : CodeRanges} (h : a.apart b = true) {n : Nat}
    (inside : a.contains n = true) : b.contains n = false := by
  rw [← Bool.not_eq_true]
  intro both
  rcases exists_range_of_contains inside with ⟨x, mem_x, low_x, high_x⟩
  rcases exists_range_of_contains both with ⟨y, mem_y, low_y, high_y⟩
  have disjoint := List.all_eq_true.1 (List.all_eq_true.1 h x mem_x) y mem_y
  simp only [Bool.or_eq_true, decide_eq_true_eq] at disjoint
  omega

theorem whiteSpace_apart_alphabetic : whiteSpaceRanges.apart alphabeticRanges = true := by
  decide +kernel

theorem whiteSpace_apart_numeric : whiteSpaceRanges.apart numericRanges = true := by
  decide +kernel

theorem digits_apart_alphabetic : CodeRanges.apart [(0x30, 0x39)] alphabeticRanges = true := by
  decide +kernel

theorem isAlphanumeric_of_isWhiteSpace {c : Char} (h : isWhiteSpace c = true) :
    isAlphanumeric c = false := by
  rw [isAlphanumeric, isAlphabetic, isNumeric,
    CodeRanges.contains_of_apart whiteSpace_apart_alphabetic h,
    CodeRanges.contains_of_apart whiteSpace_apart_numeric h, Bool.or_false]

theorem toNat_of_isDigit {c : Char} (h : c.isDigit = true) : 48 ≤ c.toNat ∧ c.toNat ≤ 57 := by
  simp only [Char.isDigit, ge_iff_le, Bool.and_eq_true, decide_eq_true_eq] at h
  exact ⟨h.1, h.2⟩

theorem isAlphabetic_of_isDigit {c : Char} (h : c.isDigit = true) : isAlphabetic c = false := by
  have bounds := toNat_of_isDigit h
  apply CodeRanges.contains_of_apart digits_apart_alphabetic
  rw [CodeRanges.contains_cons_of_le bounds.2]
  exact decide_eq_true bounds.1

theorem isAlphanumeric_of_isDigit {c : Char} (h : c.isDigit = true) : isAlphanumeric c = true := by
  have bounds := toNat_of_isDigit h
  have numeric : isNumeric c = true := by
    rw [isNumeric, numericRanges, CodeRanges.contains_cons_of_le bounds.2]
    exact decide_eq_true bounds.1
  rw [isAlphanumeric, numeric, Bool.or_true]

end Unicode

namespace Lexeme

open Unicode

/-- The marks that operators and quoted text start with. -/
def isMark (c : Char) : Bool := c == '=' || c == '!' || c == '<' || c == '>' || c == '\''

theorem eq_of_isMark {c : Char} (h : isMark c = true) :
    c = '=' ∨ c = '!' ∨ c = '<' ∨ c = '>' ∨ c = '\'' := by
  simpa [isMark, or_assoc] using h

/-- A mark neither starts nor goes on with a name or a number, and it is no blank. -/
theorem classes_of_isMark {c : Char} (h : isMark c = true) :
    isNameStart c = false ∧ isNameChar c = false ∧ isNumberStart c = false
      ∧ isNumberChar c = false ∧ isWhiteSpace c = false := by
  rcases eq_of_isMark h with rfl | rfl | rfl | rfl | rfl <;> decide +kernel

theorem classes_of_isWhiteSpace {c : Char} (h : isWhiteSpace c = true) :
    isNameStart c = false ∧ isNameChar c = false ∧ isNumberStart c = false
      ∧ isNumberChar c = false := by
  have other : isAlphanumeric c = false := isAlphanumeric_of_isWhiteSpace h
  have letter : isAlphabetic c = false := (Bool.or_eq_false_iff.1 other).1
  have digit : c.isDigit = false := by
    rw [← Bool.not_eq_true]
    intro digit
    rw [isAlphanumeric_of_isDigit digit] at other
    cases other
  have differs {d : Char} (hd : isWhiteSpace d = false) : (c == d) = false := by
    rw [beq_eq_false_iff_ne]
    rintro rfl
    rw [h] at hd
    cases hd
  have underscore : (c == '_') = false := differs (by decide +kernel)
  have minus : (c == '-') = false := differs (by decide +kernel)
  have point : (c == '.') = false := differs (by decide +kernel)
  simp [isNameStart, isNameChar, isNumberStart, isNumberChar, other, letter, digit, underscore,
    minus, point]

theorem isNameStart_of_isNumberStart {c : Char} (h : isNumberStart c = true) :
    isNameStart c = false := by
  rcases Bool.or_eq_true_iff.1 h with digit | minus
  · have underscore : c ≠ '_' := by
      rintro rfl
      cases digit
    simp [isNameStart, isAlphabetic_of_isDigit digit, underscore]
  · obtain rfl : c = '-' := by simpa using minus
    decide +kernel

theorem isNumberChar_of_isDigit {c : Char} (h : c.isDigit = true) : isNumberChar c = true := by
  simp [isNumberChar, isAlphanumeric_of_isDigit h]

/-- Whether a character ends every name and every number before it. -/
def isStop (c : Char) : Bool := isWhiteSpace c || isMark c

theorem isNameChar_of_isStop {c : Char} (h : isStop c = true) : isNameChar c = false := by
  rcases Bool.or_eq_true_iff.1 h with blank | mark
  · exact (classes_of_isWhiteSpace blank).2.1
  · exact (classes_of_isMark mark).2.1

end Lexeme
end RecordQuery
