import RecordQuery.Proofs.Grammar

/-!
# Writing terms and reading them back

A term is read back from what it is written as exactly if it is well formed, and only well-formed
terms are ever read. Text has no escapes, so a quote inside it ends it early; a whole decimal that
64 bits can hold is read as an integer.
-/
namespace RecordQuery

/-- The literals that are read back from their texts. -/
def Literal.WellFormed : Literal → Prop
  | text s => '\'' ∉ s.toList
  | decimal d =>
    0 < d.scale ∨ d.coefficient < Int64.minValue.toInt ∨ Int64.maxValue.toInt < d.coefficient
  | integer _ | bool _ | null => True

def Expr.WellFormed : Expr → Prop
  | comparison field _ literal => IsName field.toList ∧ literal.WellFormed
  | booleanTest field | negation field => IsName field.toList

namespace Literal

theorem ofNumber?_text (n : Numeral) : ofNumber? n.text = ofNumeral? n := by
  rw [ofNumber?, Numeral.text, String.toList_ofList, Numeral.read?_write]
  rfl

theorem ofNumber?_integerText (n : Int64) : ofNumber? (integerText n) = some (integer n) := by
  have whole : (Numeral.ofInt n.toInt).toInt64? = some n := by
    rw [Numeral.toInt64?, Numeral.coefficient_ofInt, int64OfInt?_toInt]
    rfl
  rw [integerText, ofNumber?_text, ofNumeral?, whole]

/-- The decimals that are read back are those that no 64-bit integer stands for. -/
theorem toInt64?_eq_none_iff {n : Numeral} {d : Decimal} (scale : d.scale = n.scale)
    (coefficient : d.coefficient = n.coefficient) :
    n.toInt64? = none ↔ (decimal d).WellFormed := by
  rw [WellFormed, Numeral.toInt64?, scale, coefficient]
  split
  · rename_i whole
    rw [int64OfInt?_eq_none_iff, whole]
    simp
  · rename_i fraction
    simp only [true_iff]
    left
    omega

theorem ofNumber?_decimalText {d : Decimal} (h : (decimal d).WellFormed) :
    ofNumber? d.text = some (decimal d) := by
  have fraction := (toInt64?_eq_none_iff rfl (Decimal.coefficient_numeral d).symm).2 h
  rw [Decimal.text, ofNumber?_text, ofNumeral?, fraction, Decimal.ofNumeral?_numeral]
  rfl

theorem exists_integerText {d : Decimal} (h : ¬(decimal d).WellFormed) :
    ∃ n : Int64, d.text = integerText n := by
  have whole := mt (toInt64?_eq_none_iff rfl (Decimal.coefficient_numeral d).symm).1 h
  rcases Option.ne_none_iff_exists'.1 whole with ⟨n, found⟩
  refine ⟨n, ?_⟩
  rw [Numeral.toInt64?, Decimal.coefficient_numeral] at found
  split at found
  · rename_i scale
    have scale : d.scale = 0 := scale
    rw [Decimal.text, integerText, toInt_of_int64OfInt? found, Decimal.numeral, scale]
    rfl
  · cases found

theorem wellFormed_of_ofNumber? {text : String} {value : Literal}
    (h : ofNumber? text = some value) : value.WellFormed := by
  rcases Option.bind_eq_some_iff.1 h with ⟨n, -, denotes⟩
  rw [ofNumeral?] at denotes
  split at denotes
  · cases denotes
    trivial
  · rename_i fraction
    rcases Option.map_eq_some_iff.1 denotes with ⟨d, found, rfl⟩
    rcases Decimal.ofScaled?_eq_some_iff.1 found with ⟨coefficient, scale⟩
    exact (toInt64?_eq_none_iff scale coefficient).1 fraction

theorem WellFormed.denotes {value : Literal} (h : value.WellFormed) :
    Denotes value.display.toList value := by
  cases value with
  | integer n =>
    apply Denotes.number
    rw [String.ofList_toList]
    exact ofNumber?_integerText n
  | decimal d =>
    apply Denotes.number
    rw [String.ofList_toList]
    exact ofNumber?_decimalText h
  | text s =>
    have quoted := Denotes.text h
    rw [String.ofList_toList] at quoted
    simpa [display] using quoted
  | bool b =>
    cases b with
    | true => exact .truth
    | false => exact .falsity
  | null => exact .null

end Literal

theorem Denotes.wellFormed {chars : List Char} {value : Literal} (h : Denotes chars value) :
    value.WellFormed := by
  cases h with
  | null | truth | falsity => trivial
  | text plain =>
    rw [Literal.WellFormed, String.toList_ofList]
    exact plain
  | number read => exact Literal.wellFormed_of_ofNumber? read

theorem Written.wellFormed {text : List Char} {reading : Reading} {expr : Expr}
    (h : Written text reading expr) : expr.WellFormed := by
  cases h with
  | name _ is_name _ =>
    rw [Expr.WellFormed, String.toList_ofList]
    exact is_name
  | marked _ _ is_name _ =>
    rw [Expr.WellFormed, String.toList_ofList]
    exact is_name
  | compared _ is_name _ _ denotes _ =>
    rw [Expr.WellFormed, String.toList_ofList]
    exact ⟨is_name, denotes.wellFormed⟩

namespace Expr

theorem wellFormed_of_parse {text : String} {expr : Expr} (h : parse text = .ok expr) :
    expr.WellFormed := by
  rcases exists_written_of_parse h with ⟨reading, written⟩
  exact written.wellFormed

theorem blank_nil : Blank [] := by
  intro c mem
  cases mem

theorem blank_space : Blank [' '] := by
  intro c mem
  obtain rfl := List.mem_singleton.1 mem
  decide +kernel

theorem WellFormed.exists_written {expr : Expr} (h : expr.WellFormed) :
    ∃ reading, Written expr.display.toList reading expr := by
  cases expr with
  | comparison field op value =>
    rcases h with ⟨is_name, literal⟩
    have written : Written _ (.compared _ op _) _ :=
      .compared blank_nil is_name blank_space blank_space literal.denotes blank_nil
    rw [String.ofList_toList] at written
    refine ⟨.compared field.toList op value.display.toList, ?_⟩
    simpa [display] using written
  | booleanTest field =>
    have written := Written.name blank_nil h blank_nil
    rw [String.ofList_toList] at written
    refine ⟨.name field.toList, ?_⟩
    simpa [display] using written
  | negation field =>
    have written := Written.marked blank_nil blank_nil h blank_nil
    rw [String.ofList_toList] at written
    refine ⟨.marked field.toList, ?_⟩
    simpa [display] using written

/-- A well-formed term is read back from what it is written as. -/
theorem WellFormed.parse_display {expr : Expr} (h : expr.WellFormed) :
    parse expr.display = .ok expr := by
  rcases h.exists_written with ⟨reading, written⟩
  exact parse_eq_ok_of_written written

theorem wellFormed_of_same {expr found : Expr} (h : parse expr.display = .ok found)
    (same : found.Same expr) : expr.WellFormed := by
  have formed := wellFormed_of_parse h
  cases found with
  | comparison field op value =>
    cases expr with
    | comparison field' op' value' =>
      rcases same with ⟨rfl, rfl, same⟩
      rcases formed with ⟨is_name, literal⟩
      refine ⟨is_name, ?_⟩
      cases value' with
      | text s =>
        obtain rfl : value = .text s := by
          cases value <;> exact same
        exact literal
      | decimal d =>
        apply Classical.byContradiction
        intro unread
        rcases Literal.exists_integerText unread with ⟨n, text⟩
        have integer : WellFormed (.comparison field op (.integer n)) := ⟨is_name, trivial⟩
        have written : (comparison field op (.decimal d)).display
            = (comparison field op (.integer n)).display := by
          rw [display, display, Literal.display, Literal.display, text]
        rw [written, integer.parse_display] at h
        cases h
        cases same
      | _ => trivial
    | _ => cases same
  | booleanTest field =>
    cases expr with
    | booleanTest field' =>
      obtain rfl : field = field' := same
      exact formed
    | _ => cases same
  | negation field =>
    cases expr with
    | negation field' =>
      obtain rfl : field = field' := same
      exact formed
    | _ => cases same

/-- A term is read back from what it is written as exactly if it is well formed, only well-formed
terms are read from any text, and reading and writing them again changes no character. -/
theorem parse_display_iff_wellFormed :
    (∀ expr : Expr, (∃ found, parse expr.display = .ok found ∧ found.Same expr)
        ↔ expr.WellFormed)
      ∧ (∀ text expr, parse text = .ok expr → expr.WellFormed)
      ∧ ∀ expr : Expr, expr.WellFormed →
          ∃ found, parse expr.display = .ok found ∧ found.display = expr.display := by
  refine ⟨?_, fun _ _ => wellFormed_of_parse, ?_⟩
  · intro expr
    constructor
    · rintro ⟨found, read, same⟩
      exact wellFormed_of_same read same
    · intro formed
      exact ⟨expr, formed.parse_display, Same.refl expr⟩
  · intro expr formed
    exact ⟨expr, formed.parse_display, rfl⟩

end Expr

end RecordQuery
