import RecordQuery.Proofs.TermMeaning
import RecordQuery.Proofs.TypedBinding

/-!
# Values of another class than declared

A computed field, and a field of a document, may turn out to hold a value that is not of the
declared class. No comparison with a literal holds of such a value, not even `!=`, and it is neither
true nor false nor null. It is present nevertheless: `!= null` holds of it, and no other term does.
-/
namespace RecordQuery

theorem ValueTest.passes_compare_of_foreign {op : CompareOp} {operand : Operand} {type : FieldType}
    (suits : operand.Suits type.scalar) {value : Value} (present : value ≠ .null)
    (foreign : ¬ value.Conforms type) : (compare op operand).passes value = false := by
  have incomparable : operand.order? value = none := by
    rw [← Option.not_isSome_iff_eq_none, Operand.isSome_order?_iff suits present]
    exact foreign
  rw [passes_compare (Value.isNull_eq_false_iff.2 present), incomparable]
  rfl

/-- Of a value that is not null and does not conform to the declared type, only one term that can be
bound to the type holds. -/
theorem FieldType.passes_foreign_iff {type : FieldType} {expr : Expr} {test : ValueTest}
    (bound : type.bind expr = .ok test) {value : Value} (present : value ≠ .null)
    (foreign : ¬ value.Conforms type) :
    test.passes value = true ↔ expr = .comparison expr.field .notEqual .null := by
  cases expr with
  | comparison name op literal =>
    rcases bindComparison_eq_ok_iff.1 bound with
      ⟨rfl, -, ⟨rfl, rfl⟩ | ⟨rfl, rfl⟩⟩ | ⟨operand, found, rfl⟩
    · simp [ValueTest.passes_isNull_iff, present]
    · simp [ValueTest.passes_isNotNull_iff, present, Expr.field]
    · rw [ValueTest.passes_compare_of_foreign (Literal.suits_of_operand? found) present foreign]
      have literal_ne : literal ≠ .null := by
        rintro rfl
        cases found
      simp [literal_ne]
  | booleanTest name =>
    rcases bind_booleanTest_eq_ok_iff.1 bound with ⟨boolean, rfl⟩
    have other : value ≠ .bool true := fun same => foreign (same ▸ boolean)
    simp [ValueTest.passes_isTrue_iff, other]
  | negation name =>
    rcases bind_negation_eq_ok_iff.1 bound with ⟨boolean, rfl⟩
    have other : value ≠ .bool false := fun same => foreign (same ▸ boolean)
    simp [ValueTest.passes_isFalse_iff, other]

theorem TypedField.values_eq_of_mem {R : Type} {field : TypedField R}
    (scalar : field.isCollection = false) {record : R} {value : Value}
    (mem : value ∈ field.values record) : field.values record = [value] := by
  cases field with
  | column name type read => simp_all [values]
  | computed name type read => simp_all [values]
  | columnOfEach name type elements read => cases scalar
  | computedOfEach name type elements read => cases scalar

theorem Json.readings_eq_of_mem {part : Option Json} {value : Value} (mem : value ∈ readings part) :
    readings part = [value] := by
  cases part with
  | none => simp_all [readings]
  | some part => cases part <;> simp_all [readings]

theorem Declaration.values?_eq_of_reads {R : Type} {declaration : Declaration R}
    (scalar : declaration.isCollection = false) {record : R} {value : Value}
    (read : declaration.mapping.Reads record value) :
    declaration.values? record = some [value] := by
  obtain ⟨found, has, mem⟩ := (declaration.reads_mapping_iff record value).1 read
  rw [has]
  cases declaration with
  | typed field =>
    obtain rfl : field.values record = found := Option.some.inj has
    rw [field.values_eq_of_mem scalar mem]
  | narrowed shape narrow field =>
    obtain ⟨part, -, rfl⟩ := Option.map_eq_some_iff.1 has
    rw [field.values_eq_of_mem scalar mem]
  | pointer name type path =>
    obtain rfl : Json.readings (record.pointer? path) = found := Option.some.inj has
    rw [Json.readings_eq_of_mem mem]
  | pointerOfEach name type array element => cases scalar

/-- A term bound to a field that is no collection holds in a record if its test holds of the value
that is read there. -/
theorem Declaration.holds_eq_passes {R : Type} {declaration : Declaration R}
    (scalar : declaration.isCollection = false) {expr : Expr} {field : BoundField R}
    (bound : declaration.mapping.bind expr = .ok field) {record : R} {value : Value}
    (read : declaration.mapping.Reads record value) :
    ∃ test, declaration.mapping.type.bind expr = .ok test
      ∧ field.holds record = test.passes value := by
  rcases FieldMapping.bind_eq_ok_iff.1 bound with ⟨test, typed, rfl⟩
  refine ⟨test, typed, ?_⟩
  rw [declaration.isCollection_mapping, scalar]
  simp [BoundField.holds, declaration.probe_mapping, declaration.values?_eq_of_reads scalar read]

/-- Where the only field of a name is no collection and holds a value that is not of its declared
class, no term accepts the record but the one that asks for presence. -/
theorem Declaration.accepts_foreign_iff {R : Type} {registry : Registry R}
    {declaration : Declaration R} (scalar : declaration.isCollection = false) {expr : Expr}
    (only : registry.resolve expr.field = some [declaration.mapping]) {predicate : Predicate R}
    (bound : registry.bind expr = .ok predicate) {record : R} {value : Value}
    (read : declaration.mapping.Reads record value) (present : value ≠ .null)
    (foreign : ¬ value.Conforms declaration.mapping.type) :
    predicate.accepts record = true ↔ expr = .comparison expr.field .notEqual .null := by
  obtain ⟨field, first, accepts⟩ := Registry.accepts_of_only bound only
  obtain ⟨test, typed, holds⟩ := declaration.holds_eq_passes scalar first read
  rw [accepts, holds]
  exact FieldType.passes_foreign_iff typed present foreign

theorem Declaration.accepts_foreign_iff_of_text :
    let declaration : Declaration Json := .pointer "N" FieldType.integer.orNull "/n"
    let registry := Registration.registry [.pointer "N" FieldType.integer.orNull "/n"]
    let record : Json := .object [("n", .string "x")]
    declaration.mapping.Reads record (.text "x")
      ∧ (∃ predicate, registry.bind (.comparison "n" .notEqual (.integer 1)) = .ok predicate
        ∧ ¬ predicate.accepts record = true)
      ∧ ∃ predicate, registry.bind (.comparison "n" .notEqual .null) = .ok predicate
        ∧ predicate.accepts record = true := by
  intro declaration registry record
  have read : declaration.mapping.Reads record (.text "x") := rfl
  have foreign : ¬ (Value.text "x").Conforms declaration.mapping.type := by decide
  have resolved : registry.resolve "n" = some [declaration.mapping] := rfl
  have only (literal : Literal) : registry.resolve (Expr.comparison "n" .notEqual literal).field
      = some [declaration.mapping] := resolved
  have accepts (literal : Literal) {predicate : Predicate Json}
      (bound : registry.bind (.comparison "n" .notEqual literal) = .ok predicate) :=
    accepts_foreign_iff rfl (only literal) bound read (by decide) foreign
  refine ⟨read, ⟨_, rfl, ?_⟩, _, rfl, ?_⟩
  · rw [accepts (.integer 1) rfl]
    decide
  · rw [accepts .null rfl]
    rfl

/-- A value that is not of the declared class does not keep every term from accepting its record. -/
theorem Declaration.not_forall_foreign_refused :
    ¬ ∀ (registry : Registry Json) (declaration : Declaration Json) (expr : Expr)
        (predicate : Predicate Json) (record : Json) (value : Value),
      declaration.isCollection = false → registry.resolve expr.field = some [declaration.mapping] →
      registry.bind expr = .ok predicate → declaration.mapping.Reads record value →
      value ≠ .null → ¬ value.Conforms declaration.mapping.type →
      predicate.accepts record = false := by
  intro refused
  have accepted := refused
    (Registration.registry [.pointer "N" FieldType.integer.orNull "/n"])
    (.pointer "N" FieldType.integer.orNull "/n") (.comparison "N" .notEqual .null) _
    (.object [("n", .string "x")]) (.text "x") rfl rfl rfl rfl (by decide) (by decide)
  cases accepted

end RecordQuery
