import RecordQuery.Proofs.RegistryContents
import RecordQuery.Proofs.TypedBinding

/-!
# Probes ask about fixed values

A mapping is known by its probe, a function of the record and of the test, and by its gate. For each
mapping that can be made, however often it is narrowed, a record has a list of values such that
every probe of it asks whether one of them passes. The list does not depend on the test, and it is
empty where the mapping does not apply. So whether a bound field holds in a record is decided by
these values and by the gate.
-/
namespace RecordQuery

/-- Every probe of the record asks about these values, and the mapping applies if there are any. -/
structure FieldMapping.ProbesIn {R : Type} (mapping : FieldMapping R) (record : R)
    (values : List Value) : Prop where
  probe_iff (test : Value → Bool) :
    mapping.probe record test = true ↔ ∃ value ∈ values, test value = true
  applies_of_ne_nil : values ≠ [] → mapping.applies record = true

namespace FieldMapping.ProbesIn

variable {R S : Type} {mapping : FieldMapping R} {record : R} {values : List Value}

/-- The values are those that the mapping reads, so two such lists have the same members. -/
theorem mem_iff_reads (h : mapping.ProbesIn record values) {value : Value} :
    value ∈ values ↔ mapping.Reads record value := by
  rw [Reads, h.probe_iff]
  simp

theorem eq_nil_of_outside (h : mapping.ProbesIn record values)
    (outside : mapping.applies record = false) : values = [] := by
  by_contra nonempty
  have applies := h.applies_of_ne_nil nonempty
  rw [outside] at applies
  cases applies

theorem probe_of_outside (h : mapping.ProbesIn record values)
    (outside : mapping.applies record = false) (test : Value → Bool) :
    mapping.probe record test = false := by
  rw [Bool.eq_false_iff, Ne, h.probe_iff, h.eq_nil_of_outside outside]
  rintro ⟨value, mem, -⟩
  cases mem

theorem probe_or (h : mapping.ProbesIn record values) (first second : Value → Bool) :
    mapping.probe record (fun value => first value || second value)
      = (mapping.probe record first || mapping.probe record second) := by
  rw [Bool.eq_iff_iff, Bool.or_eq_true, h.probe_iff, h.probe_iff, h.probe_iff]
  constructor
  · rintro ⟨value, mem, passes⟩
    exact (Bool.or_eq_true_iff.1 passes).imp (⟨value, mem, ·⟩) (⟨value, mem, ·⟩)
  · rintro (⟨value, mem, passes⟩ | ⟨value, mem, passes⟩)
    · exact ⟨value, mem, Bool.or_eq_true_iff.2 (.inl passes)⟩
    · exact ⟨value, mem, Bool.or_eq_true_iff.2 (.inr passes)⟩

/-- What a bound field asks: that some value passes or, complemented, that the mapping applies and
no value does. -/
theorem holds_iff {field : BoundField R} (h : field.mapping.ProbesIn record values) :
    field.holds record = true ↔
      if field.complement then
        field.mapping.applies record = true ∧ ∀ value ∈ values, field.test.passes value = false
      else ∃ value ∈ values, field.test.passes value = true := by
  rw [BoundField.holds]
  by_cases complement : field.complement = true
  · rw [if_pos complement, if_pos complement, Bool.and_eq_true, Bool.not_eq_true', and_comm,
      Bool.eq_false_iff, Ne, h.probe_iff]
    simp only [not_exists, not_and, Bool.not_eq_true]
  · rw [if_neg complement, if_neg complement, h.probe_iff]

theorem holds_of_outside {field : BoundField R} (h : field.mapping.ProbesIn record values)
    (outside : field.mapping.applies record = false) : field.holds record = false := by
  rw [Bool.eq_false_iff, Ne, h.holds_iff, h.eq_nil_of_outside outside, outside]
  cases field.complement <;> simp

theorem narrowed {inner : FieldMapping S} {part : S} (h : inner.ProbesIn part values)
    (shape : Shape) {narrow : R → Option S} (found : narrow record = some part) :
    (inner.narrowed shape narrow).ProbesIn record values where
  probe_iff test := by rw [probe_narrowed, found, Option.any_some, h.probe_iff]
  applies_of_ne_nil nonempty := by
    rw [applies_narrowed, found, Option.any_some, h.applies_of_ne_nil nonempty]

theorem nil_narrowed (inner : FieldMapping S) (shape : Shape) {narrow : R → Option S}
    (missing : narrow record = none) : (inner.narrowed shape narrow).ProbesIn record [] where
  probe_iff test := by simp [missing]
  applies_of_ne_nil nonempty := absurd rfl nonempty

end FieldMapping.ProbesIn

theorem Declaration.probesIn_mapping {R : Type} (declaration : Declaration R) (record : R) :
    declaration.mapping.ProbesIn record ((declaration.values? record).getD []) where
  probe_iff test := by
    rw [probe_mapping]
    cases declaration.values? record <;> simp
  applies_of_ne_nil nonempty := by
    rw [applies_mapping]
    cases found : declaration.values? record with
    | none => exact absurd (by rw [found, Option.getD_none]) nonempty
    | some values => rfl

/-- The mappings that can be made: of typed fields and of pointers, and of these for a shaped part,
a shaped part of that, and so on. -/
inductive FieldMapping.Made : {R : Type} → FieldMapping R → Prop
  | typed {R : Type} (field : TypedField R) : Made field.mapping
  | pointer (name : String) (type : FieldType) (path : String) : Made (.pointer name type path)
  | pointerOfEach (name : String) (type : FieldType) (array element : String) :
      Made (.pointerOfEach name type array element)
  | narrowed {R S : Type} (shape : Shape) (narrow : R → Option S) {inner : FieldMapping S} :
      Made inner → Made (inner.narrowed shape narrow)

theorem Declaration.made_mapping {R : Type} (declaration : Declaration R) :
    declaration.mapping.Made := by
  cases declaration with
  | typed field => exact .typed field
  | narrowed shape narrow field => exact .narrowed shape narrow (.typed field)
  | pointer name type path => exact .pointer name type path
  | pointerOfEach name type array element => exact .pointerOfEach name type array element

theorem FieldMapping.Made.exists_probesIn {R : Type} {mapping : FieldMapping R}
    (made : mapping.Made) (record : R) : ∃ values, mapping.ProbesIn record values := by
  induction made with
  | typed field => exact ⟨_, (Declaration.typed field).probesIn_mapping record⟩
  | pointer name type path =>
    exact ⟨_, (Declaration.pointer name type path).probesIn_mapping record⟩
  | pointerOfEach name type array element =>
    exact ⟨_, (Declaration.pointerOfEach name type array element).probesIn_mapping record⟩
  | narrowed shape narrow _ ih =>
    cases found : narrow record with
    | none => exact ⟨[], .nil_narrowed _ shape found⟩
    | some part =>
      obtain ⟨values, probes⟩ := ih part
      exact ⟨values, probes.narrowed shape found⟩

namespace Registration

variable {R : Type}

theorem made_of_registered {registrations : List (Registration R)} {mapping : FieldMapping R}
    (registered : mapping ∈ (enterAll registrations .empty).mappings) : mapping.Made := by
  have start : (RegistryBuilder.empty : RegistryBuilder R).mappings
      = lastOfEachSlot FieldMapping.slot [] := rfl
  rw [enterAll_eq_registerAll, RegistryBuilder.mappings_registerAll start] at registered
  obtain ⟨declaration, -, rfl⟩ := List.mem_map.1 ((lastOfEachSlot_sublist _ _).subset registered)
  exact declaration.made_mapping

/-- For every registered mapping and every record there are finitely many values such that each
probe of the record asks whether one of them passes; the mapping applies if there are any. So the
probe for two tests together passes if the probe for one of them does, and on a record to which the
mapping does not apply no probe passes and no field bound to it holds, complemented or not. -/
theorem probes_fixed_values (registrations : List (Registration R)) {mapping : FieldMapping R}
    (registered : mapping ∈ (enterAll registrations .empty).mappings) (record : R) :
    ∃ values : List Value, mapping.ProbesIn record values
      ∧ (mapping.applies record = false → values = [])
      ∧ (∀ first second : Value → Bool,
          mapping.probe record (fun value => first value || second value)
            = (mapping.probe record first || mapping.probe record second))
      ∧ (mapping.applies record = false →
          (∀ test, mapping.probe record test = false)
            ∧ ∀ field : BoundField R, field.mapping = mapping → field.holds record = false) := by
  obtain ⟨values, probes⟩ := (made_of_registered registered).exists_probesIn record
  refine ⟨values, probes, probes.eq_nil_of_outside, probes.probe_or, fun outside => ?_⟩
  refine ⟨probes.probe_of_outside outside, ?_⟩
  rintro field rfl
  exact probes.holds_of_outside outside

/-- Flags of some records only: probed for both truth values where there are some, and for nothing
where the record has no flags to read. -/
theorem probes_fixed_values_of_flags :
    let flags := (TypedField.columnOfEach "Flag" .bool id id).mapping.narrowed ⟨"Flags"⟩ id
    let registrations : List (Registration (Option (List Bool))) :=
      [.subtype ⟨"Flags"⟩ id [.columnOfEach "Flag" .bool id id]]
    flags ∈ (enterAll registrations .empty).mappings
      ∧ (∃ values, flags.ProbesIn (some [false, true]) values
          ∧ .bool false ∈ values ∧ .bool true ∈ values)
      ∧ flags.applies none = false ∧ ∀ test, flags.probe none test = false := by
  intro flags registrations
  have registered : flags ∈ (enterAll registrations .empty).mappings := List.mem_singleton.2 rfl
  refine ⟨registered, ?_, rfl, ?_⟩
  · obtain ⟨values, probes, -⟩ := probes_fixed_values registrations registered (some [false, true])
    exact ⟨values, probes, probes.mem_iff_reads.2 rfl, probes.mem_iff_reads.2 rfl⟩
  · obtain ⟨-, -, -, -, outside⟩ := probes_fixed_values registrations registered none
    exact (outside rfl).1

end Registration
end RecordQuery
