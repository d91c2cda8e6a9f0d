import RecordQuery.Proofs.Binding
import RecordQuery.Proofs.Declaration
import RecordQuery.Proofs.ExactValue

/-!
# What a term asks of a record

A term is a condition on the values that a declared field has in a record. A comparison asks for one
value that is of the literal's class and stands to it as the operator says, where null only differs;
the comparisons with null ask for presence or absence; a bare name asks for a true value. A negated
name asks for a false value, but on a collection it asks that no element be true. The test that
binding makes of a term checks this condition for every declared type that binding accepts.
-/
namespace RecordQuery

/-- Whether a value stands to a literal other than null as the operator says. -/
def Value.Meets (op : CompareOp) (literal : Literal) : Value → Prop
  | null => op = .notEqual
  | bool a => match literal with
    | .bool b => op.Relates a b
    | _ => False
  | text a => match literal with
    | .text b => op.Relates a b
    | _ => False
  | value => match value.number?, literal.number? with
    | some a, some b => op.Relates a b
    | _, _ => False

instance (op : CompareOp) (literal : Literal) (value : Value) :
    Decidable (value.Meets op literal) :=
  match value, literal with
  | .null, _ => inferInstanceAs (Decidable (op = .notEqual))
  | .bool a, .bool b => inferInstanceAs (Decidable (op.Relates a b))
  | .text a, .text b => inferInstanceAs (Decidable (op.Relates a b))
  | .integer a, .integer b => inferInstanceAs (Decidable (op.Relates (a.toInt : ℚ) b.toInt))
  | .integer a, .decimal b => inferInstanceAs (Decidable (op.Relates (a.toInt : ℚ) b.toRat))
  | .decimal a, .integer b => inferInstanceAs (Decidable (op.Relates a.toRat b.toInt))
  | .decimal a, .decimal b => inferInstanceAs (Decidable (op.Relates a.toRat b.toRat))
  | .bool _, .integer _ | .bool _, .decimal _ | .bool _, .text _ | .bool _, .null
  | .text _, .integer _ | .text _, .decimal _ | .text _, .bool _ | .text _, .null
  | .integer _, .text _ | .integer _, .bool _ | .integer _, .null
  | .decimal _, .text _ | .decimal _, .bool _ | .decimal _, .null => isFalse id

/-- Whether a term accepts a field that has these values. -/
def Expr.Accepts (isCollection : Bool) (values : List Value) : Expr → Prop
  | comparison _ op .null => match op with
    | .equal => .null ∈ values
    | .notEqual => ∃ value ∈ values, value ≠ .null
    | _ => False
  | comparison _ op literal => ∃ value ∈ values, value.Meets op literal
  | booleanTest _ => .bool true ∈ values
  | negation _ => if isCollection then .bool true ∉ values else .bool false ∈ values

instance (isCollection : Bool) (values : List Value) (expr : Expr) :
    Decidable (expr.Accepts isCollection values) :=
  match expr with
  | .comparison _ op .null =>
    match op with
    | .equal => (inferInstance : Decidable (.null ∈ values))
    | .notEqual => List.decidableBEx _ values
    | .less | .lessEqual | .greater | .greaterEqual => isFalse id
  | .comparison _ _ (.integer _) | .comparison _ _ (.decimal _) | .comparison _ _ (.text _)
  | .comparison _ _ (.bool _) => List.decidableBEx _ values
  | .booleanTest _ => (inferInstance : Decidable (.bool true ∈ values))
  | .negation _ =>
    (inferInstance :
      Decidable (if isCollection then .bool true ∉ values else .bool false ∈ values))

theorem Expr.accepts_nil_iff {isCollection : Bool} {expr : Expr} :
    expr.Accepts isCollection [] ↔ isCollection = true ∧ expr.isNegation = true := by
  cases expr with
  | booleanTest field => simp [Accepts, isNegation]
  | negation field => cases isCollection <;> simp [Accepts, isNegation]
  | comparison field op literal =>
    cases literal with
    | null => cases op <;> simp [Accepts, isNegation]
    | _ => simp [Accepts, isNegation]

/-- Whether a term accepts a record by way of a declared field, which the record must have. -/
def Declaration.Accepts {R : Type} (declaration : Declaration R) (expr : Expr) (record : R) :
    Prop :=
  match declaration.values? record with
  | none => False
  | some values => expr.Accepts declaration.isCollection values

instance {R : Type} (declaration : Declaration R) (expr : Expr) (record : R) :
    Decidable (declaration.Accepts expr record) := by
  unfold Declaration.Accepts
  split <;> infer_instance

def Operand.literal : Operand → Literal
  | integer n => .integer n
  | decimal d => .decimal d
  | text s => .text s
  | bool b => .bool b

theorem Operand.any_order?_iff_meets (operand : Operand) (op : CompareOp) {value : Value}
    (present : value ≠ .null) :
    (operand.order? value).any op.holds = true ↔ value.Meets op operand.literal := by
  cases operand with
  | integer n =>
    cases value with
    | integer m =>
      have order : (compare m.toInt n.toInt).Compares (m.toInt : ℚ) n.toInt :=
        Int.cast_strictMono.compares.2 ((compare_iff _ _).1 rfl)
      exact CompareOp.holds_iff_relates order op
    | decimal d =>
      have order := d.cmp_compares (.ofInt64 n)
      rw [Decimal.toRat_ofInt64] at order
      exact CompareOp.holds_iff_relates order op
    | null => exact absurd rfl present
    | _ => simp [order?, literal, Value.asDecimal, Value.Meets]
  | decimal e =>
    cases value with
    | integer m =>
      have order := (Decimal.ofInt64 m).cmp_compares e
      rw [Decimal.toRat_ofInt64] at order
      exact CompareOp.holds_iff_relates order op
    | decimal d => exact CompareOp.holds_iff_relates (d.cmp_compares e) op
    | null => exact absurd rfl present
    | _ => simp [order?, literal, Value.asDecimal, Value.Meets]
  | text t =>
    cases value with
    | text s => exact CompareOp.holds_iff_relates ((compare_iff s t).1 rfl) op
    | null => exact absurd rfl present
    | _ => simp [order?, literal, Value.Meets, Value.number?, Literal.number?]
  | bool b =>
    cases value with
    | bool a => exact CompareOp.holds_iff_relates ((compare_iff a b).1 rfl) op
    | null => exact absurd rfl present
    | _ => simp [order?, literal, Value.Meets, Value.number?, Literal.number?]

/-- Widening an integer literal for a decimal field does not change what it asks for. -/
theorem Value.meets_literal_iff {literal : Literal} {type : ScalarType} {op : CompareOp}
    {operand : Operand} (bound : literal.operand? type op = some operand) (value : Value) :
    value.Meets op operand.literal ↔ value.Meets op literal := by
  cases literal with
  | integer n =>
    cases type with
    | integer =>
      obtain rfl : .integer n = operand := by simpa [Literal.operand?] using bound
      rfl
    | decimal =>
      obtain rfl : .decimal (.ofInt64 n) = operand := by simpa [Literal.operand?] using bound
      cases value <;> simp [Operand.literal, Meets, number?, Literal.number?]
    | _ => simp [Literal.operand?] at bound
  | decimal d =>
    cases type with
    | integer | decimal =>
      obtain rfl : .decimal d = operand := by simpa [Literal.operand?] using bound
      rfl
    | _ => simp [Literal.operand?] at bound
  | text s =>
    cases type with
    | text =>
      obtain ⟨-, rfl⟩ : op.isEquality = true ∧ .text s = operand := by
        simpa [Literal.operand?] using bound
      rfl
    | _ => simp [Literal.operand?] at bound
  | bool b =>
    cases type with
    | boolean =>
      obtain ⟨-, rfl⟩ : op.isEquality = true ∧ .bool b = operand := by
        simpa [Literal.operand?] using bound
      rfl
    | _ => simp [Literal.operand?] at bound
  | null => simp [Literal.operand?] at bound

theorem ValueTest.passes_compare_iff_meets {literal : Literal} {type : ScalarType} {op : CompareOp}
    {operand : Operand} (bound : literal.operand? type op = some operand) (value : Value) :
    (compare op operand).passes value = true ↔ value.Meets op literal := by
  by_cases null : value = .null
  · subst null
    simp [Value.Meets]
  · rw [passes_compare (Value.isNull_eq_false_iff.2 null), operand.any_order?_iff_meets op null,
      Value.meets_literal_iff bound]

namespace ValueTest

theorem passes_isNull_iff (value : Value) : isNull.passes value = true ↔ value = .null := by
  cases value <;> simp [passes, Value.isNull]

theorem passes_isNotNull_iff (value : Value) : isNotNull.passes value = true ↔ value ≠ .null := by
  cases value <;> simp [passes, Value.isNull]

theorem passes_isTrue_iff (value : Value) : isTrue.passes value = true ↔ value = .bool true := by
  cases value <;> simp [passes, Value.asBool]

theorem passes_isFalse_iff (value : Value) : isFalse.passes value = true ↔ value = .bool false := by
  cases value <;> simp [passes, Value.asBool]

end ValueTest

theorem any_iff_mem {p : Value → Bool} {wanted : Value}
    (only : ∀ value, p value = true ↔ value = wanted) (values : List Value) :
    values.any p = true ↔ wanted ∈ values := by
  rw [List.any_eq_true]
  constructor
  · rintro ⟨value, mem, passed⟩
    exact (only value).1 passed ▸ mem
  · intro mem
    exact ⟨wanted, mem, (only wanted).2 rfl⟩

theorem FieldType.any_passes_of_bindComparison {type : FieldType} {op : CompareOp}
    {literal : Literal} {test : ValueTest} (bound : type.bindComparison op literal = .ok test)
    (field : String) (isCollection : Bool) (values : List Value) :
    values.any test.passes = true
      ↔ (Expr.comparison field op literal).Accepts isCollection values := by
  rw [bindComparison_eq_ok_iff] at bound
  rcases bound with ⟨rfl, -, ⟨rfl, rfl⟩ | ⟨rfl, rfl⟩⟩ | ⟨operand, found, rfl⟩
  · exact any_iff_mem ValueTest.passes_isNull_iff values
  · rw [List.any_eq_true]
    apply exists_congr
    intro value
    rw [ValueTest.passes_isNotNull_iff]
  · have accepts : (Expr.comparison field op literal).Accepts isCollection values
        ↔ ∃ value ∈ values, value.Meets op literal := by
      cases literal with
      | null => cases found
      | _ => exact Iff.rfl
    rw [accepts, List.any_eq_true]
    apply exists_congr
    intro value
    rw [ValueTest.passes_compare_iff_meets found]

/-- The test bound to a type accepts the values that the term accepts, unless the term is a negation
and the field a collection. -/
theorem FieldType.any_passes_of_bind {type : FieldType} {expr : Expr} {test : ValueTest}
    (bound : type.bind expr = .ok test) {isCollection : Bool}
    (plain : (isCollection && expr.isNegation) = false) (values : List Value) :
    values.any test.passes = true ↔ expr.Accepts isCollection values := by
  cases expr with
  | comparison field op literal =>
    exact any_passes_of_bindComparison bound field isCollection values
  | booleanTest field =>
    rcases bind_booleanTest_eq_ok_iff.1 bound with ⟨-, rfl⟩
    exact any_iff_mem ValueTest.passes_isTrue_iff values
  | negation field =>
    rcases bind_negation_eq_ok_iff.1 bound with ⟨-, rfl⟩
    obtain rfl : isCollection = false := by simpa [Expr.isNegation] using plain
    exact any_iff_mem ValueTest.passes_isFalse_iff values

/-- A term bound to the mapping of a declared field holds in the records that the term accepts by
way of the field. -/
theorem Declaration.holds_iff_accepts {R : Type} {declaration : Declaration R} {expr : Expr}
    {field : BoundField R} (bound : declaration.mapping.bind expr = .ok field) (record : R) :
    field.holds record = true ↔ declaration.Accepts expr record := by
  rcases FieldMapping.bind_eq_ok_iff.1 bound with ⟨test, typed, rfl⟩
  have probe := declaration.probe_mapping record
  have applies := declaration.applies_mapping record
  rw [declaration.isCollection_mapping]
  unfold Accepts
  -- The complement is the one bound form that asks whether the mapping applies.
  by_cases complement : (declaration.isCollection && expr.isNegation) = true
  · obtain ⟨collection, negated⟩ : declaration.isCollection = true ∧ expr.isNegation = true := by
      simpa using complement
    rw [if_pos complement]
    cases expr with
    | negation name =>
      have absent (values : List Value) :
          values.any ValueTest.isTrue.passes = false ↔ .bool true ∉ values := by
        rw [← any_iff_mem ValueTest.passes_isTrue_iff values, Bool.not_eq_true]
      cases read : declaration.values? record with
      | none => simp [BoundField.holds, probe, applies, read]
      | some values =>
        simp only [BoundField.holds, probe, applies, read, Option.any_some, Option.isSome_some,
          if_true, Bool.and_true, Bool.not_eq_true', absent]
        simp [Expr.Accepts, collection]
    | _ => cases negated
  · rw [if_neg complement]
    cases read : declaration.values? record with
    | none => simp [BoundField.holds, probe, read]
    | some values =>
      simp only [BoundField.holds, probe, read, Option.any_some, Bool.false_eq_true, if_false]
      exact FieldType.any_passes_of_bind typed (Bool.eq_false_iff.2 complement) values

theorem Registry.accepts_iff_of_only {R : Type} {registry : Registry R} {expr : Expr}
    (declaration : Declaration R) {predicate : Predicate R}
    (bound : registry.bind expr = .ok predicate)
    (only : registry.resolve expr.field = some [declaration.mapping]) (record : R) :
    predicate.accepts record = true ↔ declaration.Accepts expr record := by
  obtain ⟨field, first, accepts⟩ := accepts_of_only bound only
  rw [accepts, Declaration.holds_iff_accepts first]

end RecordQuery
