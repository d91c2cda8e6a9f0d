import RecordQuery.Proofs.BindingTable

/-!
# The order of registration

Two runs of calls on a builder may register the same fields in any order, and may differ in what
they overwrite on the way: as long as each slot, a name up to letter case with a shape, is last
taken by the same field in both, every term is bound or refused in both and accepts the same
records. The lists that a name resolves to differ in their order alone, success asks something of
every mapping in such a list, and a record is accepted by way of any of them. What does depend on
the order is which of several refusals is reported, and how a name is spelled in the list of names.
-/
namespace RecordQuery

universe u v

section Slots

variable {α : Type u} {σ : Type v} [DecidableEq σ]

def lastIn (slot : α → σ) (s : σ) (items : List α) : Option α :=
  items.reverse.find? fun item => slot item = s

theorem lastIn_cons (slot : α → σ) (s : σ) (first : α) (later : List α) :
    lastIn slot s (first :: later)
      = (lastIn slot s later).or (if slot first = s then some first else none) := by
  rw [lastIn, List.reverse_cons, List.find?_append]
  by_cases here : slot first = s <;> simp [lastIn, here]

theorem lastIn_eq_none_iff {slot : α → σ} {s : σ} {items : List α} :
    lastIn slot s items = none ↔ s ∉ items.map slot := by
  simp [lastIn]

theorem slot_of_lastIn {slot : α → σ} {s : σ} {items : List α} {item : α}
    (last : lastIn slot s items = some item) : slot item = s := by
  simpa using List.find?_some last

theorem mem_lastOfEachSlot_iff {slot : α → σ} {items : List α} {item : α} :
    item ∈ lastOfEachSlot slot items ↔ lastIn slot (slot item) items = some item := by
  induction items with
  | nil => simp [lastOfEachSlot, lastIn]
  | cons first later ih =>
    rw [lastOfEachSlot, lastIn_cons]
    by_cases same : slot first = slot item
    · rw [if_pos same]
      by_cases taken : slot item ∈ later.map slot
      · rw [if_pos (same ▸ taken), ih]
        cases last : lastIn slot (slot item) later with
        | none => exact absurd taken (lastIn_eq_none_iff.1 last)
        | some other => simp
      · have none := lastIn_eq_none_iff.2 taken
        rw [if_neg (same ▸ taken), List.mem_cons, ih, none]
        simp [eq_comm]
    · have other : item ≠ first := fun equal => same (equal ▸ rfl)
      rw [if_neg same, Option.or_none]
      split
      · exact ih
      · rw [List.mem_cons, ih]
        simp [other]

end Slots

namespace FieldMapping

variable {R : Type u}

/-- Two mappings are one field: they are registered for one slot, have one type and one form, and
read the same values out of the same records. They may spell the name differently. -/
structure SameField (mapping mapping' : FieldMapping R) : Prop where
  slot_eq : mapping.slot = mapping'.slot
  type_eq : mapping.type = mapping'.type
  form_eq : mapping.isCollection = mapping'.isCollection
  probe_eq : ∀ record test, mapping.probe record test = mapping'.probe record test
  applies_eq : ∀ record, mapping.applies record = mapping'.applies record

theorem SameField.symm {mapping mapping' : FieldMapping R} (same : SameField mapping mapping') :
    SameField mapping' mapping where
  slot_eq := same.slot_eq.symm
  type_eq := same.type_eq.symm
  form_eq := same.form_eq.symm
  probe_eq record test := (same.probe_eq record test).symm
  applies_eq record := (same.applies_eq record).symm

theorem SameField.exists_bind {mapping mapping' : FieldMapping R}
    (same : SameField mapping mapping') {expr : Expr} {field : BoundField R}
    (bound : mapping.bind expr = .ok field) :
    ∃ field', mapping'.bind expr = .ok field'
      ∧ ∀ record, field.holds record = field'.holds record := by
  obtain ⟨test, typed, rfl⟩ := bind_eq_ok_iff.1 bound
  refine ⟨_, bind_eq_ok_iff.2 ⟨test, same.type_eq ▸ typed, rfl⟩, ?_⟩
  intro record
  rw [same.form_eq]
  split <;> simp only [BoundField.holds, same.probe_eq, same.applies_eq]

/-- Each slot is last taken by the same field in both lists, or by none in either. -/
def SameLast (registered registered' : List (FieldMapping R)) : Prop :=
  ∀ s : String × Option Shape, Option.Rel SameField (lastIn slot s registered)
    (lastIn slot s registered')

variable {registered registered' : List (FieldMapping R)}

theorem SameLast.symm (same : SameLast registered registered') :
    SameLast registered' registered := by
  intro s
  have both := same s
  generalize lastIn slot s registered = last, lastIn slot s registered' = last' at both
  cases both with
  | none => exact .none
  | some same => exact .some same.symm

theorem SameLast.mem_keys (same : SameLast registered registered') {key : String}
    (mem : key ∈ registered.map FieldMapping.key) : key ∈ registered'.map FieldMapping.key := by
  obtain ⟨mapping, registers, rfl⟩ := List.mem_map.1 mem
  have both := same mapping.slot
  cases last : lastIn slot mapping.slot registered with
  | none => exact absurd (List.mem_map_of_mem registers) (lastIn_eq_none_iff.1 last)
  | some one =>
    cases last' : lastIn slot mapping.slot registered' with
    | none =>
      rw [last, last'] at both
      cases both
    | some other =>
      have key_eq : other.key = mapping.key := congrArg Prod.fst (slot_of_lastIn last')
      have registers' : other ∈ registered' :=
        List.mem_reverse.1 (List.mem_of_find?_eq_some last')
      exact key_eq ▸ List.mem_map_of_mem registers'

theorem SameLast.exists_inForce (same : SameLast registered registered') {name : String}
    {mapping : FieldMapping R} (mem : mapping ∈ inForce name registered) :
    ∃ mapping' ∈ inForce name registered', SameField mapping mapping' := by
  obtain ⟨last, named⟩ := List.mem_filter.1 mem
  have both := same mapping.slot
  rw [mem_lastOfEachSlot_iff.1 last] at both
  cases found : lastIn slot mapping.slot registered' with
  | none =>
    rw [found] at both
    cases both
  | some mapping' =>
    rw [found] at both
    cases both with
    | some field =>
      have key_eq : mapping'.key = mapping.key := congrArg Prod.fst field.slot_eq.symm
      refine ⟨mapping', List.mem_filter.2 ⟨mem_lastOfEachSlot_iff.2 ?_, ?_⟩, field⟩
      · rw [← field.slot_eq, found]
      · rw [key_eq]
        exact named

theorem SameLast.inForce_eq_nil (same : SameLast registered registered') {name : String}
    (none : inForce name registered = []) : inForce name registered' = [] := by
  rw [List.eq_nil_iff_forall_not_mem] at none ⊢
  intro mapping' mem'
  obtain ⟨mapping, mem, -⟩ := same.symm.exists_inForce mem'
  exact none mapping mem

theorem SameLast.inForce_eq_nil_iff (same : SameLast registered registered') {name : String} :
    inForce name registered = [] ↔ inForce name registered' = [] :=
  ⟨same.inForce_eq_nil, same.symm.inForce_eq_nil⟩

end FieldMapping

namespace Registry

open FieldMapping (SameLast inForce)

variable {R : Type u} {registry registry' : Registry R}
  {registered registered' : List (FieldMapping R)}

theorem accepts_iff_exists_mapping {expr : Expr} {predicate : Predicate R}
    {mappings : List (FieldMapping R)} (bound : registry.bind expr = .ok predicate)
    (resolves : registry.resolve expr.field = some mappings) (record : R) :
    predicate.accepts record = true
      ↔ ∃ mapping ∈ mappings, ∃ field, mapping.bind expr = .ok field
        ∧ field.holds record = true := by
  obtain ⟨mappings', fields, found, each, rfl⟩ := bind_eq_ok_iff.1 bound
  obtain rfl : mappings = mappings' := Option.some.inj (resolves.symm.trans found)
  clear bound found resolves
  simp only [Predicate.accepts]
  induction each with
  | nil => simp
  | cons first _ ih =>
    rw [List.any_cons, Bool.or_eq_true, ih, List.exists_mem_cons_iff]
    simp [first]

theorem Holds.resolve_eq_none_iff_of_sameLast (holds : registry.Holds registered)
    (holds' : registry'.Holds registered') (same : SameLast registered registered')
    (name : String) : registry.resolve name = none ↔ registry'.resolve name = none := by
  rw [holds.resolve_eq_none, holds'.resolve_eq_none, same.inForce_eq_nil_iff]

theorem Holds.contains_eq_of_sameLast (holds : registry.Holds registered)
    (holds' : registry'.Holds registered') (same : SameLast registered registered')
    (name : String) : registry.contains name = registry'.contains name := by
  have none := holds.resolve_eq_none_iff_of_sameLast holds' same name
  rw [contains_eq_isSome_resolve, contains_eq_isSome_resolve, Bool.eq_iff_iff,
    Option.isSome_iff_ne_none, Option.isSome_iff_ne_none, ne_eq, ne_eq, none]

theorem Holds.size_eq_of_sameLast (holds : registry.Holds registered)
    (holds' : registry'.Holds registered') (same : SameLast registered registered') :
    registry.size = registry'.size := by
  rw [holds.size_eq, holds'.size_eq]
  congr 1
  ext key
  rw [List.mem_toFinset, List.mem_toFinset]
  exact ⟨same.mem_keys, same.symm.mem_keys⟩

/-- A term that is bound on one side is bound on the other: the types that have to accept it are
the same. -/
theorem Holds.exists_bind_of_sameLast (holds : registry.Holds registered)
    (holds' : registry'.Holds registered') (same : SameLast registered registered') {expr : Expr}
    (succeeds : ∃ predicate, registry.bind expr = .ok predicate) :
    ∃ predicate', registry'.bind expr = .ok predicate' := by
  rw [exists_bind_eq_ok_iff] at succeeds ⊢
  obtain ⟨mappings, resolves, accepted⟩ := succeeds
  obtain ⟨rfl, filled⟩ := holds.resolve_eq_some.1 resolves
  refine ⟨_, holds'.resolve_eq_some.2 ⟨rfl, mt same.inForce_eq_nil_iff.2 filled⟩, ?_⟩
  intro mapping' mem'
  obtain ⟨mapping, mem, field⟩ := same.symm.exists_inForce mem'
  rw [field.type_eq]
  exact accepted mapping mem

theorem Holds.accepts_of_sameLast (holds : registry.Holds registered)
    (holds' : registry'.Holds registered') (same : SameLast registered registered') {expr : Expr}
    {predicate predicate' : Predicate R} (bound : registry.bind expr = .ok predicate)
    (bound' : registry'.bind expr = .ok predicate') {record : R}
    (accepted : predicate.accepts record = true) : predicate'.accepts record = true := by
  obtain ⟨mappings, _, resolves, -⟩ := bind_eq_ok_iff.1 bound
  obtain ⟨mappings', _, resolves', -⟩ := bind_eq_ok_iff.1 bound'
  rw [accepts_iff_exists_mapping bound resolves] at accepted
  rw [accepts_iff_exists_mapping bound' resolves']
  obtain ⟨rfl, -⟩ := holds.resolve_eq_some.1 resolves
  obtain ⟨rfl, -⟩ := holds'.resolve_eq_some.1 resolves'
  obtain ⟨mapping, mem, field, typed, here⟩ := accepted
  obtain ⟨mapping', mem', one⟩ := same.exists_inForce mem
  obtain ⟨field', typed', alike⟩ := one.exists_bind typed
  exact ⟨mapping', mem', field', typed', alike record ▸ here⟩

/-- Registries that hold the same fields come to the same kind of result for every term, and then
accept the same records. -/
theorem Holds.boundAlike_of_sameLast (holds : registry.Holds registered)
    (holds' : registry'.Holds registered') (same : SameLast registered registered')
    (expr : Expr) :
    BoundAlike Predicate.AcceptsSame (registry.bind expr) (registry'.bind expr) := by
  refine boundAlike_of_bind rfl ?_ ?_ ?_
  · exact holds.resolve_eq_none_iff_of_sameLast holds' same expr.field
  · exact ⟨holds'.exists_bind_of_sameLast holds same.symm,
      holds.exists_bind_of_sameLast holds' same⟩
  · intro predicate predicate' bound bound' record
    rw [Bool.eq_iff_iff]
    exact ⟨holds.accepts_of_sameLast holds' same bound bound',
      holds'.accepts_of_sameLast holds same.symm bound' bound⟩

end Registry

theorem Predicate.AcceptsSame.filter_eq {R : Type u} {α : Type v}
    {predicate predicate' : Predicate R} (same : predicate.AcceptsSame predicate')
    (record : α → R) (source : List α) :
    predicate.filter record source = predicate'.filter record source := by
  unfold Predicate.filter
  exact List.filter_congr fun item _ => same (record item)

/-- Two runs of calls that leave each slot to the same field give registries with the same names.
Every term is bound by both, or refused by both for its name or for a mismatch, which may be with
another field of the name. Once bound, it accepts the same records, of every source. -/
theorem BuilderCall.freeze_run_alike_of_sameLast {R : Type} {calls calls' : List (BuilderCall R)}
    (same : FieldMapping.SameLast (registered calls) (registered calls')) :
    (∀ name, (run calls).freeze.contains name = (run calls').freeze.contains name)
      ∧ (run calls).freeze.size = (run calls').freeze.size
      ∧ (∀ expr, BoundAlike Predicate.AcceptsSame ((run calls).freeze.bind expr)
        ((run calls').freeze.bind expr))
      ∧ ∀ expr predicate predicate', (run calls).freeze.bind expr = .ok predicate →
        (run calls').freeze.bind expr = .ok predicate' →
        ∀ (α : Type) (record : α → R) (source : List α),
          predicate.filter record source = predicate'.filter record source := by
  have holds := Registry.ofMappings_lastOfEachSlot_holds (registered calls)
  have holds' := Registry.ofMappings_lastOfEachSlot_holds (registered calls')
  rw [← mappings_run, ← RegistryBuilder.freeze] at holds holds'
  have alike := holds.boundAlike_of_sameLast holds' same
  refine ⟨holds.contains_eq_of_sameLast holds' same, holds.size_eq_of_sameLast holds' same, alike,
    ?_⟩
  intro expr predicate predicate' bound bound' α record source
  have both := alike expr
  rw [bound, bound'] at both
  cases both with
  | bound accepts => exact accepts.filter_eq record source

/-- A name with two shapes, registered in either order, once with a text field in between that is
overwritten and once in another spelling. -/
theorem BuilderCall.freeze_run_alike_of_two_shapes :
    let single (name : String) : BuilderCall (List Value) :=
      .register (.computed name .integer fun values => values.headD .null)
    let each : BuilderCall (List Value) :=
      .registerNarrowed ⟨"Listed"⟩ some [.computedOfEach "Size" .decimal id id]
    let calls := [single "Size", each]
    let calls' := [each, .register (.computed "SIZE" .text fun _ => .null), single "sIZe"]
    FieldMapping.SameLast (registered calls) (registered calls')
      ∧ (run calls).freeze.size = (run calls').freeze.size
      ∧ ∃ predicate predicate',
        (run calls).freeze.bind (.comparison "size" .less (.integer 3)) = .ok predicate
          ∧ (run calls').freeze.bind (.comparison "size" .less (.integer 3)) = .ok predicate'
          ∧ predicate.filter id [[.integer 5], [.integer 5, .integer 2], []]
            = predicate'.filter id [[.integer 5], [.integer 5, .integer 2], []] := by
  intro single each calls calls'
  have same : FieldMapping.SameLast (registered calls) (registered calls') := by
    intro s
    by_cases unshaped : s = ("size", none)
    · subst unshaped
      exact .some ⟨by decide +kernel, rfl, rfl, fun _ _ => rfl, fun _ => rfl⟩
    · by_cases listed : s = ("size", some ⟨"Listed"⟩)
      · subst listed
        exact .some ⟨rfl, rfl, rfl, fun _ _ => rfl, fun _ => rfl⟩
      · have slots : (registered calls).map FieldMapping.slot
            = [("size", none), ("size", some ⟨"Listed"⟩)] := by decide +kernel
        have slots' : (registered calls').map FieldMapping.slot
            = [("size", some ⟨"Listed"⟩), ("size", none), ("size", none)] := by decide +kernel
        rw [lastIn_eq_none_iff.2 (by simp [slots, unshaped, listed]),
          lastIn_eq_none_iff.2 (by simp [slots', unshaped, listed])]
        exact .none
  obtain ⟨-, size, -, filters⟩ := freeze_run_alike_of_sameLast same
  exact ⟨same, size, _, _, rfl, rfl,
    filters (.comparison "size" .less (.integer 3)) _ _ rfl rfl _ id _⟩

end RecordQuery
