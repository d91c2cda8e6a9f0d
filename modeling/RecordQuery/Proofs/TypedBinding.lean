import RecordQuery.Proofs.Binding
import RecordQuery.Proofs.Declaration

/-!
# Terms bound to declared types

Binding decides by a field's declared type, a bound test by the values that the field turns out to
have. The two agree: on a value that conforms to the declared type, a bound comparison always finds
an order between value and operand. A field read from a stored column has only conforming values, so
on one that is never null the two tests for equality are each other's complement.
-/
namespace RecordQuery

/-- Whether a value is among those on which a mapping runs its tests. -/
def FieldMapping.Reads {R : Type} (mapping : FieldMapping R) (record : R) (value : Value) : Prop :=
  mapping.probe record (fun other => decide (other = value)) = true

theorem Declaration.reads_mapping_iff {R : Type} (declaration : Declaration R) (record : R)
    (value : Value) :
    declaration.mapping.Reads record value
      ↔ ∃ values, declaration.values? record = some values ∧ value ∈ values := by
  unfold FieldMapping.Reads
  rw [probe_mapping]
  cases declaration.values? record <;> simp

def TypedField.isStored {R : Type} : TypedField R → Bool
  | column .. | columnOfEach .. => true
  | computed .. | computedOfEach .. => false

theorem TypedField.conforms_of_mem_values {R : Type} {field : TypedField R}
    (stored : field.isStored = true) {record : R} {value : Value}
    (mem : value ∈ field.values record) : value.Conforms field.mapping.type := by
  cases field with
  | column name type read =>
    obtain rfl : value = type.value (read record) := by simpa [values] using mem
    exact type.conforms_value (read record)
  | columnOfEach name type elements read =>
    obtain ⟨element, -, rfl⟩ := List.mem_map.1 mem
    exact type.conforms_value (read element)
  | computed name type read => cases stored
  | computedOfEach name type elements read => cases stored

def Declaration.isStored : {R : Type} → Declaration R → Bool
  | _, typed field => field.isStored
  | _, narrowed _ _ field => field.isStored
  | _, pointer .. => false
  | _, pointerOfEach .. => false

theorem Declaration.conforms_of_reads {R : Type} {declaration : Declaration R}
    (stored : declaration.isStored = true) {record : R} {value : Value}
    (read : declaration.mapping.Reads record value) : value.Conforms declaration.mapping.type := by
  obtain ⟨found, has, mem⟩ := (declaration.reads_mapping_iff record value).1 read
  cases declaration with
  | typed field =>
    obtain rfl : field.values record = found := Option.some.inj has
    exact field.conforms_of_mem_values stored mem
  | narrowed shape narrow field =>
    obtain ⟨part, -, rfl⟩ := Option.map_eq_some_iff.1 has
    exact field.conforms_of_mem_values stored mem
  | pointer name type path => cases stored
  | pointerOfEach name type array element => cases stored

def Operand.Suits (type : ScalarType) : Operand → Prop
  | integer _ | decimal _ => type.isNumeric = true
  | text _ => type = .text
  | bool _ => type = .boolean

theorem Value.conforms_iff_isSome_asDecimal {type : FieldType}
    (numeric : type.scalar.isNumeric = true) {value : Value} (present : value ≠ .null) :
    value.Conforms type ↔ value.asDecimal.isSome = true := by
  have not_boolean : type.scalar ≠ .boolean := fun boolean => by
    simp [boolean, ScalarType.isNumeric] at numeric
  have not_text : type.scalar ≠ .text := fun text => by
    simp [text, ScalarType.isNumeric] at numeric
  cases value with
  | null => exact absurd rfl present
  | bool b => simp [Conforms, asDecimal, not_boolean]
  | integer n => simp [Conforms, asDecimal, numeric]
  | decimal d => simp [Conforms, asDecimal, numeric]
  | text s => simp [Conforms, asDecimal, not_text]

/-- The values that have an order to an operand of the type's class are the conforming ones. -/
theorem Operand.isSome_order?_iff {operand : Operand} {type : FieldType}
    (suits : operand.Suits type.scalar) {value : Value} (present : value ≠ .null) :
    (operand.order? value).isSome = true ↔ value.Conforms type := by
  cases operand with
  | integer n =>
    rw [Value.conforms_iff_isSome_asDecimal suits present]
    cases value <;> simp [order?, Value.asDecimal]
  | decimal d =>
    rw [Value.conforms_iff_isSome_asDecimal suits present]
    simp [order?]
  | text s =>
    have text : type.scalar = .text := suits
    cases value with
    | null => exact absurd rfl present
    | _ => simp [order?, Value.Conforms, text, ScalarType.isNumeric]
  | bool b =>
    have boolean : type.scalar = .boolean := suits
    cases value with
    | null => exact absurd rfl present
    | _ => simp [order?, Value.Conforms, boolean, ScalarType.isNumeric]

theorem Literal.suits_of_operand? {literal : Literal} {type : ScalarType} {op : CompareOp}
    {operand : Operand} (found : literal.operand? type op = some operand) :
    operand.Suits type := by
  cases literal <;> cases type <;>
    simp [operand?] at found <;> simp [← found, Operand.Suits, ScalarType.isNumeric]

theorem Literal.isEquality_of_operand? {literal : Literal} {type : ScalarType} {op : CompareOp}
    {operand : Operand} (found : literal.operand? type op = some operand)
    (text : type.isNumeric = false) : op.isEquality = true := by
  cases literal <;> cases type <;> simp_all [operand?, ScalarType.isNumeric]

/-- The two tests for equality have the same operand. -/
theorem Literal.operand?_notEqual (literal : Literal) (type : ScalarType) :
    literal.operand? type .notEqual = literal.operand? type .equal := by
  cases literal <;> cases type <;> rfl

/-- What holds between a bound field's test and its declared type. -/
structure BoundField.Typed {R : Type} (field : BoundField R) : Prop where
  /-- A conforming value is ordered with the operand, unless it is null, and the order decides. -/
  ordered {op : CompareOp} {operand : Operand} (test : field.test = .compare op operand)
    {value : Value} (conforms : value.Conforms field.mapping.type) (present : value ≠ .null) :
    ∃ order, operand.order? value = some order ∧ field.test.passes value = op.holds order
  text {op : CompareOp} {s : String} (test : field.test = .compare op (.text s)) :
    op = .equal ∨ op = .notEqual
  bool {op : CompareOp} {b : Bool} (test : field.test = .compare op (.bool b)) :
    op = .equal ∨ op = .notEqual
  null (test : field.test = .isNull ∨ field.test = .isNotNull) :
    field.mapping.type.admitsNull = true
  truth (test : field.test = .isTrue ∨ field.test = .isFalse) :
    field.mapping.type.scalar = .boolean

theorem BoundField.typed_of_bindComparison {R : Type} {mapping : FieldMapping R} {op : CompareOp}
    {literal : Literal} {test : ValueTest}
    (bound : mapping.type.bindComparison op literal = .ok test) :
    BoundField.Typed ⟨mapping, test, false⟩ := by
  rcases FieldType.bindComparison_eq_ok_iff.1 bound with
    ⟨rfl, admits, ⟨rfl, rfl⟩ | ⟨rfl, rfl⟩⟩ | ⟨operand, found, rfl⟩
  · constructor <;> simp [admits]
  · constructor <;> simp [admits]
  · have suits := Literal.suits_of_operand? found
    have equality (text : mapping.type.scalar.isNumeric = false) : op = .equal ∨ op = .notEqual :=
      CompareOp.isEquality_iff.1 (Literal.isEquality_of_operand? found text)
    constructor
    case ordered =>
      rintro _ _ ⟨⟩ value conforms present
      obtain ⟨order, compared⟩ := Option.isSome_iff_exists.1
        ((Operand.isSome_order?_iff suits present).2 conforms)
      refine ⟨order, compared, ?_⟩
      rw [ValueTest.passes_compare (Value.isNull_eq_false_iff.2 present), compared]
      rfl
    case text =>
      rintro _ _ ⟨⟩
      exact equality (by rw [show mapping.type.scalar = .text from suits]; rfl)
    case bool =>
      rintro _ _ ⟨⟩
      exact equality (by rw [show mapping.type.scalar = .boolean from suits]; rfl)
    case null => simp
    case truth => simp

theorem BoundField.typed_of_bind {R : Type} {mapping : FieldMapping R} {expr : Expr}
    {field : BoundField R} (bound : mapping.bind expr = .ok field) : field.Typed := by
  rcases FieldMapping.bind_eq_ok_iff.1 bound with ⟨test, typed, rfl⟩
  cases expr with
  | comparison name op literal =>
    have plain :
        (mapping.isCollection && (Expr.comparison name op literal).isNegation) = false := by
      simp [Expr.isNegation]
    rw [plain]
    exact typed_of_bindComparison typed
  | booleanTest name =>
    rcases FieldType.bind_booleanTest_eq_ok_iff.1 typed with ⟨boolean, rfl⟩
    split <;> constructor <;> simp [boolean]
  | negation name =>
    rcases FieldType.bind_negation_eq_ok_iff.1 typed with ⟨boolean, rfl⟩
    split <;> constructor <;> simp [boolean]

theorem FieldType.passes_notEqual_eq_not {type : FieldType} {literal : Literal}
    {equal notEqual : ValueTest} (boundEqual : type.bindComparison .equal literal = .ok equal)
    (boundNotEqual : type.bindComparison .notEqual literal = .ok notEqual) {value : Value}
    (conforms : value.Conforms type) (present : value ≠ .null) :
    notEqual.passes value = !equal.passes value := by
  rcases bindComparison_eq_ok_iff.1 boundEqual with ⟨rfl, -, same⟩ | ⟨operand, found, rfl⟩
  · obtain rfl : equal = .isNull := by simpa using same
    rcases bindComparison_eq_ok_iff.1 boundNotEqual with ⟨-, -, differs⟩ | ⟨_, found, -⟩
    · obtain rfl : notEqual = .isNotNull := by simpa using differs
      rfl
    · cases found
  · rcases bindComparison_eq_ok_iff.1 boundNotEqual with ⟨rfl, -⟩ | ⟨other, found', rfl⟩
    · cases found
    · obtain rfl : operand = other := by
        rw [Literal.operand?_notEqual, found] at found'
        exact Option.some.inj found'
      obtain ⟨order, compared⟩ := Option.isSome_iff_exists.1
        ((Operand.isSome_order?_iff (Literal.suits_of_operand? found) present).2 conforms)
      have present' := Value.isNull_eq_false_iff.2 present
      rw [ValueTest.passes_compare present', ValueTest.passes_compare present', compared]
      rfl

/-- On a stored column that is never null, as the only mapping of its name, `=` and `!=` accept
complementary records. -/
theorem Registry.accepts_notEqual_eq_not {R : Type} {registry : Registry R} {spelling name : String}
    {type : ColumnType} {read : R → type.Carrier}
    (only : registry.resolve spelling = some [.column name type read])
    (never : type.fieldType.nullable = false) {literal : Literal} {equal notEqual : Predicate R}
    (boundEqual : registry.bind (.comparison spelling .equal literal) = .ok equal)
    (boundNotEqual : registry.bind (.comparison spelling .notEqual literal) = .ok notEqual)
    (record : R) : notEqual.accepts record = !equal.accepts record := by
  obtain ⟨field, first, accepts⟩ := accepts_of_only boundEqual only
  obtain ⟨field', first', accepts'⟩ := accepts_of_only boundNotEqual only
  obtain ⟨test, typed, rfl⟩ := FieldMapping.bind_eq_ok_iff.1 first
  obtain ⟨test', typed', rfl⟩ := FieldMapping.bind_eq_ok_iff.1 first'
  have conforms := type.conforms_value (read record)
  have present : type.value (read record) ≠ .null := by
    intro null
    rw [null] at conforms
    have nullable : type.fieldType.nullable = true := conforms
    rw [never] at nullable
    cases nullable
  rw [accepts, accepts']
  exact FieldType.passes_notEqual_eq_not typed typed' conforms present

/-- Every field of a predicate is bound to a test that fits the declared type, so that no conforming
value is ever incomparable; what is read from stored columns conforms; and the tests for equality on
a column that is never null exclude each other and leave no record out. -/
theorem Registry.bind_respects_types {R : Type} (registry : Registry R) :
    (∀ expr predicate, registry.bind expr = .ok predicate →
        ∀ field ∈ predicate.fields, field.Typed)
      ∧ (∀ declaration : Declaration R, declaration.isStored = true → ∀ record value,
        declaration.mapping.Reads record value → value.Conforms declaration.mapping.type)
      ∧ ∀ (spelling name : String) (type : ColumnType) (read : R → type.Carrier),
        registry.resolve spelling = some [.column name type read] →
        type.fieldType.nullable = false → ∀ literal equal notEqual,
        registry.bind (.comparison spelling .equal literal) = .ok equal →
        registry.bind (.comparison spelling .notEqual literal) = .ok notEqual →
        ∀ record, notEqual.accepts record = !equal.accepts record := by
  refine ⟨?_, ?_, ?_⟩
  · intro expr predicate bound field mem
    obtain ⟨mappings, fields, -, each, rfl⟩ := bind_eq_ok_iff.1 bound
    obtain ⟨mapping, -, from'⟩ := FieldMapping.exists_mapping_of_mem each mem
    exact BoundField.typed_of_bind from'
  · intro declaration stored record value read
    exact declaration.conforms_of_reads stored read
  · intro spelling name type read only never literal equal notEqual boundEqual boundNotEqual record
    exact accepts_notEqual_eq_not only never boundEqual boundNotEqual record

/-- A registry with a column that is never null and with one of each element of a collection. -/
theorem Registry.bind_respects_types_of_rank :
    let registry : Registry (Int64 × List Bool) := Registration.registry
      [.typed (.column "Rank" .int64 Prod.fst), .typed (.columnOfEach "Flag" .bool Prod.snd id)]
    (∃ predicate, registry.bind (.negation "FLAG") = .ok predicate
        ∧ ∀ field ∈ predicate.fields, field.Typed)
      ∧ (Value.bool true).Conforms .boolean
      ∧ ∃ equal notEqual, registry.bind (.comparison "rank" .equal (.integer 3)) = .ok equal
        ∧ registry.bind (.comparison "rank" .notEqual (.integer 3)) = .ok notEqual
        ∧ ∀ record, notEqual.accepts record = !equal.accepts record := by
  intro registry
  obtain ⟨typed, conforms, complementary⟩ := bind_respects_types registry
  refine ⟨⟨_, rfl, typed (.negation "FLAG") _ rfl⟩, ?_, _, _, rfl, rfl, ?_⟩
  · exact conforms (.typed (.columnOfEach "Flag" .bool Prod.snd id)) rfl (3, [false, true])
      (.bool true) rfl
  · exact complementary "rank" "Rank" .int64 Prod.fst rfl rfl (.integer 3) _ _ rfl rfl

end RecordQuery
