import Mathlib.Data.List.Forall2
import RecordQuery.Binding

/-!
# What binding gives

Each step of binding inverted: when a comparison, a term and a term with several mappings are bound,
what they are bound to, and which mapping a refusal comes from. A list of mappings is bound one by
one, and the first mapping that refuses decides.
-/
namespace RecordQuery

theorem FieldType.bindComparison_eq_ok_iff {type : FieldType} {op : CompareOp} {literal : Literal}
    {test : ValueTest} :
    type.bindComparison op literal = .ok test
      ↔ (literal = .null ∧ type.admitsNull = true
          ∧ (op = .equal ∧ test = .isNull ∨ op = .notEqual ∧ test = .isNotNull))
        ∨ ∃ operand, literal.operand? type.scalar op = some operand
          ∧ test = .compare op operand := by
  by_cases null : literal = .null
  · subst null
    cases admits : type.admitsNull <;> cases op <;>
      simp [bindComparison, CompareOp.isEquality, Literal.operand?, admits, eq_comm]
  · cases found : literal.operand? type.scalar op with
    | none =>
      have refused : type.bindComparison op literal
          = .error (.incomparable type literal.kind op) := by
        cases literal with
        | null => exact absurd rfl null
        | _ => simp only [bindComparison, found]
      rw [refused]
      simp [null]
    | some operand =>
      have bound : type.bindComparison op literal = .ok (.compare op operand) := by
        cases literal with
        | null => exact absurd rfl null
        | _ => simp only [bindComparison, found]
      rw [bound]
      simp only [null, false_and, false_or, Except.ok.injEq, Option.some.injEq, exists_eq_left']
      exact eq_comm

theorem FieldType.bind_booleanTest_eq_ok_iff {type : FieldType} {field : String}
    {test : ValueTest} :
    type.bind (.booleanTest field) = .ok test ↔ type.scalar = .boolean ∧ test = .isTrue := by
  by_cases boolean : type.scalar = .boolean <;> simp [bind, boolean, eq_comm]

theorem FieldType.bind_negation_eq_ok_iff {type : FieldType} {field : String} {test : ValueTest} :
    type.bind (.negation field) = .ok test ↔ type.scalar = .boolean ∧ test = .isFalse := by
  by_cases boolean : type.scalar = .boolean <;> simp [bind, boolean, eq_comm]

/-- What a term bound to a mapping is: the type decides whether it is bound, and the negation of a
collection gets a test of its own. -/
theorem FieldMapping.bind_eq_ok_iff {R : Type*} {mapping : FieldMapping R} {expr : Expr}
    {field : BoundField R} :
    mapping.bind expr = .ok field
      ↔ ∃ test, mapping.type.bind expr = .ok test
        ∧ field = if mapping.isCollection && expr.isNegation then ⟨mapping, .isTrue, true⟩
          else ⟨mapping, test, false⟩ := by
  unfold bind
  cases typed : mapping.type.bind expr with
  | error mismatch => simp
  | ok test =>
    simp only [Except.ok.injEq, exists_eq_left']
    split
    · rw [Except.ok.injEq]
      exact eq_comm
    · rw [Except.ok.injEq]
      exact eq_comm

namespace FieldMapping

variable {R : Type*} {expr : Expr}

theorem bind_eq_error_iff {mapping : FieldMapping R} {mismatch : Mismatch} :
    mapping.bind expr = .error mismatch ↔ mapping.type.bind expr = .error mismatch := by
  unfold bind
  cases mapping.type.bind expr with
  | error _ => simp
  | ok test => by_cases h : (mapping.isCollection && expr.isNegation) = true <;> simp [h]

theorem bindAll_eq_ok_iff {mappings : List (FieldMapping R)} {fields : List (BoundField R)} :
    bindAll expr mappings = .ok fields
      ↔ List.Forall₂ (fun mapping field => mapping.bind expr = .ok field) mappings fields := by
  induction mappings generalizing fields with
  | nil => cases fields <;> simp [bindAll]
  | cons mapping rest ih =>
    rw [bindAll]
    cases bound : mapping.bind expr with
    | error mismatch => cases fields <;> simp [bound]
    | ok field =>
      cases others : bindAll expr rest with
      | error mismatch => cases fields <;> simp [← ih, others]
      | ok found => cases fields <;> simp [← ih, others, bound]

theorem exists_bind_of_mem {mappings : List (FieldMapping R)} {fields : List (BoundField R)}
    (each : List.Forall₂ (fun mapping field => mapping.bind expr = .ok field) mappings fields)
    {mapping : FieldMapping R} (mem : mapping ∈ mappings) :
    ∃ field, mapping.bind expr = .ok field := by
  induction each with
  | nil => cases mem
  | @cons _ field _ _ first _ ih =>
    rcases List.mem_cons.1 mem with rfl | mem
    · exact ⟨field, first⟩
    · exact ih mem

theorem bindAll_cons_eq_error_iff {mapping : FieldMapping R} {rest : List (FieldMapping R)}
    {mismatch : Mismatch} :
    bindAll expr (mapping :: rest) = .error mismatch
      ↔ mapping.bind expr = .error mismatch
        ∨ (∃ field, mapping.bind expr = .ok field) ∧ bindAll expr rest = .error mismatch := by
  rw [bindAll]
  cases bound : mapping.bind expr with
  | error refusal => simp
  | ok field => cases others : bindAll expr rest <;> simp

/-- A refusal comes from the first mapping that refuses. -/
theorem bindAll_eq_error_iff {mappings : List (FieldMapping R)} {mismatch : Mismatch} :
    bindAll expr mappings = .error mismatch
      ↔ ∃ before mapping after, mappings = before ++ mapping :: after
        ∧ (∀ earlier ∈ before, ∃ field, earlier.bind expr = .ok field)
        ∧ mapping.bind expr = .error mismatch := by
  induction mappings with
  | nil => simp [bindAll]
  | cons mapping rest ih =>
    rw [bindAll_cons_eq_error_iff, ih]
    constructor
    · rintro (refused | ⟨bound, before, refusing, after, rfl, accepted, refused⟩)
      · exact ⟨[], mapping, rest, rfl, by simp, refused⟩
      · exact ⟨mapping :: before, refusing, after, rfl, by simpa using ⟨bound, accepted⟩, refused⟩
    · rintro ⟨before, refusing, after, whole, accepted, refused⟩
      cases before with
      | nil =>
        cases whole
        exact .inl refused
      | cons first before =>
        cases whole
        rw [List.forall_mem_cons] at accepted
        exact .inr ⟨accepted.1, before, refusing, after, rfl, accepted.2, refused⟩

theorem exists_mapping_of_mem {mappings : List (FieldMapping R)} {fields : List (BoundField R)}
    (each : List.Forall₂ (fun mapping field => mapping.bind expr = .ok field) mappings fields)
    {field : BoundField R} (mem : field ∈ fields) :
    ∃ mapping ∈ mappings, mapping.bind expr = .ok field := by
  induction each with
  | nil => cases mem
  | @cons mapping _ _ _ first _ ih =>
    rcases List.mem_cons.1 mem with rfl | mem
    · exact ⟨mapping, List.mem_cons_self, first⟩
    · rcases ih mem with ⟨other, mem', bound⟩
      exact ⟨other, List.mem_cons_of_mem _ mem', bound⟩

end FieldMapping

namespace Registry

variable {R : Type*} {registry : Registry R} {expr : Expr}

/-- A term is bound to a registry if its name resolves and all mappings of the name are bound. -/
theorem bind_eq_ok_iff {predicate : Predicate R} :
    registry.bind expr = .ok predicate
      ↔ ∃ mappings fields, registry.resolve expr.field = some mappings
        ∧ List.Forall₂ (fun mapping field => mapping.bind expr = .ok field) mappings fields
        ∧ predicate = ⟨expr, fields⟩ := by
  unfold bind
  cases found : registry.resolve expr.field with
  | none => simp
  | some mappings =>
    cases bound : FieldMapping.bindAll expr mappings with
    | error mismatch => simp [← FieldMapping.bindAll_eq_ok_iff, bound]
    | ok fields =>
      simp only [← FieldMapping.bindAll_eq_ok_iff, bound, Except.ok.injEq, Option.some.injEq,
        exists_and_left, exists_eq_left']
      exact eq_comm

/-- A predicate over the only mapping of a name accepts what its one bound field holds in. -/
theorem accepts_of_only {mapping : FieldMapping R} {predicate : Predicate R}
    (bound : registry.bind expr = .ok predicate)
    (only : registry.resolve expr.field = some [mapping]) :
    ∃ field, mapping.bind expr = .ok field
      ∧ ∀ record, predicate.accepts record = field.holds record := by
  rcases bind_eq_ok_iff.1 bound with ⟨mappings, fields, found, each, rfl⟩
  obtain rfl : [mapping] = mappings := by simpa [only] using found
  rcases List.forall₂_cons_left_iff.1 each with ⟨field, rest, first, others, rfl⟩
  obtain rfl := List.forall₂_nil_left_iff.1 others
  exact ⟨field, first, fun record => by simp [Predicate.accepts]⟩

end Registry
end RecordQuery
