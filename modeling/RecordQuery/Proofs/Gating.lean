import RecordQuery.Proofs.Binding
import RecordQuery.Proofs.Declaration
import RecordQuery.Proofs.TermMeaning

/-!
# Queries behind a gate

Fields of a shaped part can be queried in two ways: registered on their own, over the parts, and
registered behind a gate, over the records that have such a part. Binding makes no difference
between the two, and the predicate behind the gate accepts the records whose part the other one
accepts. A record without the part is accepted by no term, and not by a complement either.
-/
namespace RecordQuery

section Gate

variable {R S : Type} (shape : Shape) (narrow : R → Option S)

def BoundField.narrowed (field : BoundField S) : BoundField R :=
  { field with mapping := field.mapping.narrowed shape narrow }

def Predicate.narrowed (predicate : Predicate S) : Predicate R :=
  { predicate with fields := predicate.fields.map (BoundField.narrowed shape narrow) }

/-- The gate stands before the probe and before the condition on which a complement rests, so a
record that does not pass it is rejected by either form of a test. -/
theorem BoundField.holds_narrowed (field : BoundField S) (record : R) :
    (field.narrowed shape narrow).holds record = (narrow record).any field.holds := by
  have probe : (field.narrowed shape narrow).mapping.probe record field.test.passes
      = (narrow record).any fun part => field.mapping.probe part field.test.passes := rfl
  have applies : (field.narrowed shape narrow).mapping.applies record
      = (narrow record).any field.mapping.applies := rfl
  change (if field.complement then
      !(field.narrowed shape narrow).mapping.probe record field.test.passes
        && (field.narrowed shape narrow).mapping.applies record
    else (field.narrowed shape narrow).mapping.probe record field.test.passes) = _
  rw [probe, applies]
  cases narrow record with
  | none => simp
  | some part => rfl

theorem Predicate.accepts_narrowed (predicate : Predicate S) (record : R) :
    (predicate.narrowed shape narrow).accepts record = (narrow record).any predicate.accepts := by
  have each : (predicate.narrowed shape narrow).accepts record
      = predicate.fields.any fun field => (narrow record).any field.holds := by
    simp only [accepts, narrowed, List.any_map, Function.comp_def, BoundField.holds_narrowed]
  rw [each]
  cases narrow record with
  | none => simp
  | some part => rfl

/-- A gate changes neither the type nor the form of a field, and so not what it is bound to. -/
theorem FieldMapping.bind_narrowed (mapping : FieldMapping S) (expr : Expr) :
    (mapping.narrowed shape narrow).bind expr
      = (mapping.bind expr).map (BoundField.narrowed shape narrow) := by
  have type_eq : (mapping.narrowed shape narrow).type = mapping.type := rfl
  have form_eq : (mapping.narrowed shape narrow).isCollection = mapping.isCollection := rfl
  rw [bind, bind, type_eq, form_eq]
  cases mapping.type.bind expr with
  | error mismatch => rfl
  | ok test =>
    by_cases complement : (mapping.isCollection && expr.isNegation) = true
    · simp only [complement, if_true]
      rfl
    · simp only [complement]
      rfl

theorem FieldMapping.bindAll_narrowed (expr : Expr) (mappings : List (FieldMapping S)) :
    bindAll expr (mappings.map (narrowed shape narrow))
      = (bindAll expr mappings).map (List.map (BoundField.narrowed shape narrow)) := by
  induction mappings with
  | nil => rfl
  | cons mapping rest ih =>
    rw [List.map_cons, bindAll, bindAll, bind_narrowed, ih]
    cases mapping.bind expr with
    | error mismatch => rfl
    | ok field => cases bindAll expr rest <;> rfl

/-- A name resolves behind the gate to the gated forms of the fields that it resolves to without
it: one gate gives one shape to all of them, so they replace each other as they do on their own. -/
theorem RegistryBuilder.resolve_registerNarrowed {mappings : List (FieldMapping S)}
    (ungated : ∀ mapping ∈ mappings, mapping.shape = none) (name : String) :
    (empty.registerNarrowed shape narrow mappings).freeze.resolve name
      = ((empty.registerAll mappings).freeze.resolve name).map
          (List.map (FieldMapping.narrowed shape narrow)) := by
  have slots : lastOfEachSlot (fun mapping => (mapping.narrowed shape narrow).slot) mappings
      = lastOfEachSlot FieldMapping.slot mappings := by
    apply lastOfEachSlot_congr
    intro a mem b mem'
    simp [FieldMapping.slot, FieldMapping.narrowed, FieldMapping.key, ungated a mem,
      ungated b mem']
  rw [registerNarrowed, resolve_freeze_registerAll, resolve_freeze_registerAll,
    lastOfEachSlot_map, slots, List.filter_map, ← nonempty?_map]
  rfl

theorem RegistryBuilder.bind_registerNarrowed {mappings : List (FieldMapping S)}
    (ungated : ∀ mapping ∈ mappings, mapping.shape = none) (expr : Expr) :
    (empty.registerNarrowed shape narrow mappings).freeze.bind expr
      = ((empty.registerAll mappings).freeze.bind expr).map (Predicate.narrowed shape narrow) := by
  rw [Registry.bind, Registry.bind, resolve_registerNarrowed shape narrow ungated]
  cases (empty.registerAll mappings).freeze.resolve expr.field with
  | none => rfl
  | some found =>
    rw [Option.map_some]
    dsimp only
    rw [FieldMapping.bindAll_narrowed]
    cases FieldMapping.bindAll expr found <;> rfl

end Gate

theorem TypedField.shape_mapping {S : Type} (field : TypedField S) :
    field.mapping.shape = none := by
  cases field <;> rfl

theorem RegistryBuilder.eq_of_resolve_register {R : Type} {mapping : FieldMapping R} {name : String}
    {found : List (FieldMapping R)}
    (resolved : (empty.register mapping).freeze.resolve name = some found) : found = [mapping] := by
  have alone : (empty.register mapping).freeze = Registry.ofMappings [mapping] := rfl
  rw [alone, Registry.resolve_ofMappings, nonempty?_eq_some_iff] at resolved
  obtain ⟨rfl, filled⟩ := resolved
  by_cases named : mapping.key = Unicode.lowercase name
  · simp [named]
  · simp [named] at filled

theorem TypedField.accepts_iff {S : Type} {field : TypedField S} {expr : Expr}
    {predicate : Predicate S}
    (bound : (RegistryBuilder.empty.register field.mapping).freeze.bind expr = .ok predicate)
    (part : S) :
    predicate.accepts part = true ↔ expr.Accepts field.isCollection (field.values part) := by
  obtain ⟨mappings, fields, resolved, -, -⟩ := Registry.bind_eq_ok_iff.1 bound
  obtain rfl := RegistryBuilder.eq_of_resolve_register resolved
  obtain ⟨one, first, accepts⟩ := Registry.accepts_of_only bound resolved
  have declared : (Declaration.typed field).mapping.bind expr = .ok one := first
  rw [accepts, Declaration.holds_iff_accepts declared]
  rfl

/-- A field of a shaped part is queried behind a gate as it is without it: a term is refused for the
same cause or bound in both, and then the predicate behind the gate accepts the records whose part
the other one accepts. So a record without the part is accepted by no term, while the negation of a
collection that has no elements is accepted in every record that has the part. -/
theorem TypedField.gating_commutes {R S : Type} (shape : Shape) (narrow : R → Option S)
    (field : TypedField S) (expr : Expr) :
    let gated := (RegistryBuilder.empty.registerNarrowed shape narrow [field.mapping]).freeze
    let direct := (RegistryBuilder.empty.register field.mapping).freeze
    (∃ error, gated.bind expr = .error error ∧ direct.bind expr = .error error)
      ∨ ∃ behind alone, gated.bind expr = .ok behind ∧ direct.bind expr = .ok alone
        ∧ (∀ record, behind.accepts record = true
          ↔ ∃ part, narrow record = some part ∧ alone.accepts part = true)
        ∧ (∀ record, narrow record = none → behind.accepts record = false)
        ∧ (expr.isNegation = true → field.isCollection = true → ∀ record part,
          narrow record = some part → field.values part = [] → behind.accepts record = true) := by
  intro gated direct
  have ungated : ∀ mapping ∈ [field.mapping], mapping.shape = none := by
    simpa using field.shape_mapping
  have lifted : gated.bind expr = (direct.bind expr).map (Predicate.narrowed shape narrow) :=
    RegistryBuilder.bind_registerNarrowed shape narrow ungated expr
  cases bound : direct.bind expr with
  | error error =>
    rw [bound] at lifted
    exact .inl ⟨error, lifted, rfl⟩
  | ok alone =>
    rw [bound] at lifted
    have accepts (record : R) : (alone.narrowed shape narrow).accepts record
        = (narrow record).any alone.accepts := alone.accepts_narrowed shape narrow record
    refine .inr ⟨_, alone, lifted, rfl, ?_, ?_, ?_⟩
    · intro record
      rw [accepts, Option.any_eq_true]
    · intro record without
      rw [accepts, without]
      rfl
    · intro negated collection record part has empty
      have negation : alone.accepts part = true := by
        rw [field.accepts_iff bound, collection, empty]
        cases expr with
        | negation name => simp [Expr.Accepts]
        | _ => cases negated
      rw [accepts, has, Option.any_some, negation]

end RecordQuery
