import RecordQuery.Proofs.BindingTable
import RecordQuery.Proofs.ForeignValue
import RecordQuery.Proofs.QuerySemantics

/-!
# The boolean forms of a term

A bare name, its negation and the comparisons with truth values ask a boolean field in different
ways, and each way is bound to a test of its own. A bare name and `= true` ask the same. The
negation asks for a false value where there is one value to a record, as `= false` does, but for the
absence of a true one in a collection. So where one field of the name applies to a record, a
collection passes exactly one of the bare name and its negation, be it empty or full of nulls, while
a single value that is not a truth value passes neither.
-/
namespace RecordQuery

variable {R : Type}

theorem Expr.accepts_equal_bool (name : String) (b isCollection : Bool) (values : List Value) :
    (comparison name .equal (.bool b)).Accepts isCollection values ↔ .bool b ∈ values := by
  have only (value : Value) : value.Meets .equal (.bool b) ↔ value = .bool b := by
    cases value <;> simp [Value.Meets, CompareOp.Relates, Literal.number?]
  change (∃ value ∈ values, value.Meets .equal (.bool b)) ↔ _
  constructor
  · rintro ⟨value, mem, meets⟩
    exact (only value).1 meets ▸ mem
  · intro mem
    exact ⟨.bool b, mem, (only _).2 rfl⟩

namespace Declaration

variable {declaration : Declaration R} {name : String} {record : R}

theorem accepts_booleanTest_iff :
    declaration.Accepts (.booleanTest name) record
      ↔ declaration.Accepts (.comparison name .equal (.bool true)) record := by
  unfold Accepts
  cases declaration.values? record with
  | none => exact Iff.rfl
  | some values => exact (Expr.accepts_equal_bool name true _ values).symm

theorem accepts_negation_iff (scalar : declaration.isCollection = false) :
    declaration.Accepts (.negation name) record
      ↔ declaration.Accepts (.comparison name .equal (.bool false)) record := by
  unfold Accepts
  cases declaration.values? record with
  | none => exact Iff.rfl
  | some values =>
    dsimp only
    rw [Expr.accepts_equal_bool, Expr.Accepts, scalar]
    simp

/-- No term accepts a record by way of a field that does not apply to it. -/
theorem applies_of_accepts {expr : Expr} (accepts : declaration.Accepts expr record) :
    declaration.mapping.applies record = true := by
  rw [applies_mapping]
  unfold Accepts at accepts
  cases found : declaration.values? record with
  | none =>
    rw [found] at accepts
    exact accepts.elim
  | some values => rfl

/-- Whether one of a bare name and its negation must hold in a record that the field applies to:
always in a collection, and otherwise if the value is a truth value. -/
def Decides (declaration : Declaration R) (record : R) : Prop :=
  declaration.isCollection = true ∨ ∃ b, declaration.mapping.Reads record (.bool b)

/-- Of a bare name and its negation, a field that decides accepts one. -/
theorem accepts_booleanTest_iff_not (applies : declaration.mapping.applies record = true)
    (decides : declaration.Decides record) :
    declaration.Accepts (.booleanTest name) record
      ↔ ¬declaration.Accepts (.negation name) record := by
  rw [applies_mapping] at applies
  obtain ⟨values, has⟩ := Option.isSome_iff_exists.1 applies
  by_cases collection : declaration.isCollection = true
  · simp [Accepts, has, Expr.Accepts, collection]
  · have scalar : declaration.isCollection = false := by simpa using collection
    obtain ⟨b, read⟩ := decides.resolve_left collection
    have alone := values?_eq_of_reads scalar read
    cases b <;> simp [Accepts, alone, Expr.Accepts, scalar]

theorem not_accepts_of_not_decides (undecided : ¬declaration.Decides record) :
    ¬declaration.Accepts (.booleanTest name) record
      ∧ ¬declaration.Accepts (.negation name) record := by
  unfold Decides at undecided
  obtain ⟨collection, unread⟩ := not_or.1 undecided
  have scalar : declaration.isCollection = false := by simpa using collection
  have absent (b : Bool) {values : List Value} (has : declaration.values? record = some values) :
      .bool b ∉ values := by
    intro mem
    exact unread ⟨b, (declaration.reads_mapping_iff record _).2 ⟨values, has, mem⟩⟩
  unfold Accepts
  cases has : declaration.values? record with
  | none => simp
  | some values => simp [Expr.Accepts, scalar, absent _ has]

theorem mem_and_applies_iff {declarations : List (Declaration R)}
    (only : declarations.filter (fun other => other.mapping.applies record) = [declaration])
    (other : Declaration R) :
    other ∈ declarations ∧ other.mapping.applies record = true ↔ other = declaration := by
  have alone : other ∈ declarations.filter (fun other => other.mapping.applies record)
      ↔ other = declaration := by rw [only, List.mem_singleton]
  rw [List.mem_filter] at alone
  exact alone

theorem exists_accepts_iff {declarations : List (Declaration R)} {expr : Expr}
    (only : declarations.filter (fun other => other.mapping.applies record) = [declaration]) :
    (∃ other ∈ declarations, other.Accepts expr record) ↔ declaration.Accepts expr record := by
  constructor
  · rintro ⟨other, mem, accepts⟩
    exact (mem_and_applies_iff only other).1 ⟨mem, applies_of_accepts accepts⟩ ▸ accepts
  · intro accepts
    exact ⟨declaration, ((mem_and_applies_iff only declaration).2 rfl).1, accepts⟩

end Declaration

namespace Registration

/-- How the predicates of a bare name and of its negation stand to each other. -/
structure Opposed (declared : List (Declaration R)) (bare negated : Predicate R) : Prop where
  accepts_eq_not {record : R} {declaration : Declaration R}
    (only : declared.filter (fun other => other.mapping.applies record) = [declaration])
    (decides : declaration.Decides record) :
    bare.accepts record = !negated.accepts record
  rejects_undecided {record : R} {declaration : Declaration R}
    (only : declared.filter (fun other => other.mapping.applies record) = [declaration])
    (undecided : ¬declaration.Decides record) :
    bare.accepts record = false ∧ negated.accepts record = false
  rejects_inapplicable {record : R}
    (none : ∀ declaration ∈ declared, declaration.mapping.applies record = false) :
    bare.accepts record = false ∧ negated.accepts record = false

variable (registrations : List (Registration R)) (name : String)

theorem acceptsSame_of_bind {expr expr' : Expr} {predicate predicate' : Predicate R}
    (bound : (registry registrations).bind expr = .ok predicate)
    (bound' : (registry registrations).bind expr' = .ok predicate')
    (named : expr'.field = expr.field)
    (alike : ∀ declaration ∈ fields registrations expr, ∀ record,
      declaration.Accepts expr record ↔ declaration.Accepts expr' record) :
    predicate.AcceptsSame predicate' := by
  intro record
  rw [Bool.eq_iff_iff, accepts_iff_of_bind bound, accepts_iff_of_bind bound', fields, fields, named]
  apply exists_congr
  intro declaration
  exact and_congr_right fun mem => alike declaration mem record

theorem opposed_of_bind {bare negated : Predicate R}
    (bound : (registry registrations).bind (.booleanTest name) = .ok bare)
    (bound' : (registry registrations).bind (.negation name) = .ok negated) :
    Opposed (fields registrations (.booleanTest name)) bare negated := by
  have accepts (record : R) : bare.accepts record = true
      ↔ ∃ declaration ∈ fields registrations (.booleanTest name),
        declaration.Accepts (.booleanTest name) record := accepts_iff_of_bind bound record
  have accepts' (record : R) : negated.accepts record = true
      ↔ ∃ declaration ∈ fields registrations (.booleanTest name),
        declaration.Accepts (.negation name) record := accepts_iff_of_bind bound' record
  constructor
  case accepts_eq_not =>
    intro record declaration only decides
    have applies := ((Declaration.mem_and_applies_iff only declaration).2 rfl).2
    rw [Bool.eq_iff_iff, Bool.not_eq_true', ← Bool.not_eq_true, accepts, accepts',
      Declaration.exists_accepts_iff only, Declaration.exists_accepts_iff only]
    exact Declaration.accepts_booleanTest_iff_not applies decides
  case rejects_undecided =>
    intro record declaration only undecided
    rw [← Bool.not_eq_true, ← Bool.not_eq_true, accepts, accepts',
      Declaration.exists_accepts_iff only, Declaration.exists_accepts_iff only]
    exact Declaration.not_accepts_of_not_decides undecided
  case rejects_inapplicable =>
    intro record none
    have unaccepted (expr : Expr) : ¬∃ declaration ∈ fields registrations (.booleanTest name),
        declaration.Accepts expr record := by
      rintro ⟨declaration, mem, accepted⟩
      have applies := Declaration.applies_of_accepts accepted
      rw [none declaration mem] at applies
      cases applies
    rw [← Bool.not_eq_true, ← Bool.not_eq_true, accepts, accepts']
    exact ⟨unaccepted _, unaccepted _⟩

/-- A bare name, its negation and the comparisons with truth values are bound to the same fields or
refused together. A bare name and the comparison with true accept the same records, and the negation
and the comparison with false do so unless a field of the name is a collection. Of a bare name and
its negation exactly one accepts a record in which one field applies and decides, and neither
accepts one in which none applies or the one that does holds no truth value. -/
theorem boolean_forms :
    (registry registrations).resolve name
        = nonempty? ((fields registrations (.booleanTest name)).map Declaration.mapping)
      ∧ BoundAlike Predicate.AcceptsSame
        ((registry registrations).bind (.booleanTest name))
        ((registry registrations).bind (.comparison name .equal (.bool true)))
      ∧ BoundAlike (fun negated isFalse =>
          (∀ declaration ∈ fields registrations (.booleanTest name),
            declaration.isCollection = false) → negated.AcceptsSame isFalse)
        ((registry registrations).bind (.negation name))
        ((registry registrations).bind (.comparison name .equal (.bool false)))
      ∧ BoundAlike (Opposed (fields registrations (.booleanTest name)))
        ((registry registrations).bind (.booleanTest name))
        ((registry registrations).bind (.negation name)) := by
  have admits (b : Bool) (type : FieldType) :
      type.Admits (.comparison name .equal (.bool b)) ↔ type.scalar = .boolean := by
    simp [FieldType.Admits]
  refine ⟨resolve_registry registrations name, ?_, ?_, ?_⟩
  · refine Registry.boundAlike_of_admits rfl (admits true) ?_
    intro bare isTrue bound bound'
    apply acceptsSame_of_bind registrations bound bound' rfl
    intro declaration _ record
    exact Declaration.accepts_booleanTest_iff
  · refine Registry.boundAlike_of_admits rfl (admits false) ?_
    intro negated isFalse bound bound' scalar
    apply acceptsSame_of_bind registrations bound bound' rfl
    intro declaration mem record
    exact Declaration.accepts_negation_iff (scalar declaration mem)
  · refine Registry.boundAlike_of_admits rfl (fun _ => Iff.rfl) ?_
    intro bare negated bound bound'
    exact opposed_of_bind registrations name bound bound'

end Registration

end RecordQuery
