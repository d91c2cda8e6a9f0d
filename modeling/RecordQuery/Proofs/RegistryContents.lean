import Mathlib.Data.Finset.Card
import Mathlib.Data.Finset.Dedup
import Mathlib.Data.String.Basic
import RecordQuery.Proofs.ByteOrder
import RecordQuery.Proofs.Resolution

/-!
# What a registry holds

A run of calls on a builder registers a sequence of mappings. Of those, the registry holds the ones
that no later one of the same name, up to letter case, and the same shape has replaced. Its names
are the names ever registered, for a replacement is of the same name, and it lists each of them once
as the first mapping that it holds for the name spells it.
-/
namespace RecordQuery

universe u v

section Slots

variable {α : Type u} {σ : Type v} [DecidableEq σ]

theorem lastOfEachSlot_sublist (slot : α → σ) (items : List α) :
    (lastOfEachSlot slot items).Sublist items := by
  induction items with
  | nil => exact List.Sublist.refl []
  | cons item later ih =>
    rw [lastOfEachSlot]
    split
    · exact ih.cons item
    · exact ih.cons_cons item

theorem mem_map_lastOfEachSlot_iff {slot : α → σ} {items : List α} {s : σ} :
    s ∈ (lastOfEachSlot slot items).map slot ↔ s ∈ items.map slot := by
  induction items with
  | nil => exact Iff.rfl
  | cons item later ih =>
    rw [lastOfEachSlot]
    split
    · rename_i taken
      rw [ih, List.map_cons, List.mem_cons]
      constructor
      · exact .inr
      · rintro (rfl | mem)
        · exact taken
        · exact mem
    · rw [List.map_cons, List.map_cons, List.mem_cons, List.mem_cons, ih]

theorem nodup_map_lastOfEachSlot (slot : α → σ) (items : List α) :
    ((lastOfEachSlot slot items).map slot).Nodup := by
  induction items with
  | nil => exact List.nodup_nil
  | cons item later ih =>
    rw [lastOfEachSlot]
    split
    · exact ih
    · rename_i free
      exact List.nodup_cons.2 ⟨fun mem => free (mem_map_lastOfEachSlot_iff.1 mem), ih⟩

end Slots

namespace Registry

variable {R : Type u}

theorem mem_keys_foldl_add {registry : Registry R} {mappings : List (FieldMapping R)}
    {key : String} :
    key ∈ (mappings.foldl add registry).entries.map RegistryEntry.key
      ↔ key ∈ registry.entries.map RegistryEntry.key ∨ key ∈ mappings.map FieldMapping.key := by
  induction mappings generalizing registry with
  | nil => simp
  | cons mapping rest ih =>
    have step : key ∈ (registry.add mapping).entries.map RegistryEntry.key
        ↔ key ∈ registry.entries.map RegistryEntry.key ∨ key = mapping.key := by
      rw [add, RegistryEntry.keys_file]
      split
      · rename_i known
        constructor
        · exact .inl
        · rintro (mem | rfl)
          · exact mem
          · exact known
      · rw [List.mem_append, List.mem_singleton]
    rw [List.foldl_cons, ih, step, List.map_cons, List.mem_cons, or_assoc]

theorem mem_keys_ofMappings {mappings : List (FieldMapping R)} {key : String} :
    key ∈ (ofMappings mappings).entries.map RegistryEntry.key
      ↔ key ∈ mappings.map FieldMapping.key := by
  rw [ofMappings, mem_keys_foldl_add]
  simp [empty]

theorem size_ofMappings (mappings : List (FieldMapping R)) :
    (ofMappings mappings).size = (mappings.map FieldMapping.key).toFinset.card := by
  have same : ((ofMappings mappings).entries.map RegistryEntry.key).toFinset
      = (mappings.map FieldMapping.key).toFinset := by
    ext key
    rw [List.mem_toFinset, List.mem_toFinset, mem_keys_ofMappings]
  rw [← same, List.toFinset_card_of_nodup (ofMappings mappings).nodup, List.length_map]
  rfl

theorem isEmpty_iff (registry : Registry R) : registry.isEmpty = true ↔ registry.size = 0 := by
  rw [isEmpty, List.isEmpty_iff, size, List.length_eq_zero_iff]

theorem find?_entries {entries : List (RegistryEntry R)}
    (nodup : (entries.map RegistryEntry.key).Nodup) {entry : RegistryEntry R}
    (mem : entry ∈ entries) : entries.find? (fun other => other.key == entry.key) = some entry := by
  induction entries with
  | nil => cases mem
  | cons first rest ih =>
    rw [List.map_cons, List.nodup_cons] at nodup
    rcases List.mem_cons.1 mem with rfl | mem
    · simp
    · have other : first.key ≠ entry.key := fun same =>
        nodup.1 (same ▸ List.mem_map_of_mem mem)
      rw [List.find?_cons_of_neg (by simpa using other), ih nodup.2 mem]

theorem resolve_of_mem {registry : Registry R} {entry : RegistryEntry R}
    (mem : entry ∈ registry.entries) {name : String} (found : Unicode.lowercase name = entry.key) :
    registry.resolve name = some entry.mappings := by
  rw [resolve, found, find?_entries registry.nodup mem]
  rfl

theorem exists_resolve_of_mem {mappings : List (FieldMapping R)} {entry : RegistryEntry R}
    (mem : entry ∈ (ofMappings mappings).entries) :
    ∃ mapping ∈ mappings, mapping.key = entry.key
      ∧ (ofMappings mappings).resolve mapping.name = some entry.mappings := by
  obtain ⟨mapping, registered, same⟩ :=
    List.mem_map.1 (mem_keys_ofMappings.1 (List.mem_map_of_mem mem))
  exact ⟨mapping, registered, same, resolve_of_mem mem same⟩

theorem key_first_of_mem {mappings : List (FieldMapping R)} {entry : RegistryEntry R}
    (mem : entry ∈ (ofMappings mappings).entries) : entry.first.key = entry.key := by
  obtain ⟨mapping, -, same, resolves⟩ := exists_resolve_of_mem mem
  rw [resolve_ofMappings, nonempty?_eq_some_iff] at resolves
  have first : entry.first
      ∈ mappings.filter fun other => other.key = Unicode.lowercase mapping.name := by
    rw [resolves.1]
    exact List.mem_cons_self
  rw [← same]
  exact of_decide_eq_true (List.mem_filter.1 first).2

theorem mem_fieldNames_ofMappings {mappings : List (FieldMapping R)} {spelling : String} :
    spelling ∈ (ofMappings mappings).fieldNames
      ↔ ∃ mapping ∈ mappings, ∃ first others,
        (ofMappings mappings).resolve mapping.name = some (first :: others)
          ∧ first.name = spelling := by
  rw [fieldNames, List.mem_mergeSort, List.mem_map]
  constructor
  · rintro ⟨entry, mem, rfl⟩
    obtain ⟨mapping, registered, -, resolves⟩ := exists_resolve_of_mem mem
    exact ⟨mapping, registered, entry.first, entry.others, resolves, rfl⟩
  · rintro ⟨mapping, -, first, others, resolves, rfl⟩
    obtain ⟨entry, found, same⟩ := Option.map_eq_some_iff.1 resolves
    refine ⟨entry, List.mem_of_find?_eq_some found, ?_⟩
    rw [(List.cons.inj same).1]

theorem nodup_fieldNames_ofMappings (mappings : List (FieldMapping R)) :
    (ofMappings mappings).fieldNames.Nodup := by
  rw [fieldNames, (List.mergeSort_perm _ _).nodup_iff]
  have keys : ((ofMappings mappings).entries.map fun entry => entry.first.name).map
        Unicode.lowercase
      = (ofMappings mappings).entries.map RegistryEntry.key := by
    rw [List.map_map]
    exact List.map_congr_left fun entry mem => key_first_of_mem mem
  exact List.Nodup.of_map Unicode.lowercase (keys ▸ (ofMappings mappings).nodup)

theorem pairwise_fieldNames_ofMappings (mappings : List (FieldMapping R)) :
    (ofMappings mappings).fieldNames.Pairwise fun a b => Unicode.bytes a < Unicode.bytes b := by
  have sorted : (ofMappings mappings).fieldNames.Pairwise fun a b => a ≤ b := by
    have ordered : (ofMappings mappings).fieldNames.Pairwise fun a b => decide (a ≤ b) = true := by
      apply List.pairwise_mergeSort
      · intro a b c ab bc
        exact decide_eq_true (le_trans (of_decide_eq_true ab) (of_decide_eq_true bc))
      · intro a b
        simpa using le_total a b
    exact ordered.imp of_decide_eq_true
  have distinct := nodup_fieldNames_ofMappings mappings
  exact (sorted.and distinct).imp fun h => Unicode.bytes_lt_bytes (lt_of_le_of_ne h.1 h.2)

end Registry

/-- One call on a builder: a mapping of any kind, or mappings of a shaped part. -/
inductive BuilderCall (R : Type) : Type 1
  | register (mapping : FieldMapping R)
  | registerNarrowed {S : Type} (shape : Shape) (narrow : R → Option S)
      (mappings : List (FieldMapping S))

namespace BuilderCall

variable {R : Type}

def mappings : BuilderCall R → List (FieldMapping R)
  | register mapping => [mapping]
  | registerNarrowed shape narrow inner => inner.map (.narrowed shape narrow)

def enter (builder : RegistryBuilder R) : BuilderCall R → RegistryBuilder R
  | register mapping => builder.register mapping
  | registerNarrowed shape narrow inner => builder.registerNarrowed shape narrow inner

def run (calls : List (BuilderCall R)) : RegistryBuilder R := calls.foldl enter .empty

def registered (calls : List (BuilderCall R)) : List (FieldMapping R) := calls.flatMap mappings

theorem enter_eq_registerAll (builder : RegistryBuilder R) (call : BuilderCall R) :
    enter builder call = builder.registerAll call.mappings := by
  cases call <;> rfl

theorem foldl_enter_eq_registerAll (builder : RegistryBuilder R) (calls : List (BuilderCall R)) :
    calls.foldl enter builder = builder.registerAll (registered calls) := by
  induction calls generalizing builder with
  | nil => rfl
  | cons call rest ih =>
    rw [List.foldl_cons, ih, enter_eq_registerAll]
    simp [RegistryBuilder.registerAll, registered, List.foldl_append]

/-- A run of calls leaves the mappings whose slot no later one takes. -/
theorem mappings_run (calls : List (BuilderCall R)) :
    (run calls).mappings = lastOfEachSlot FieldMapping.slot (registered calls) := by
  have start : (RegistryBuilder.empty : RegistryBuilder R).mappings
      = lastOfEachSlot FieldMapping.slot [] := rfl
  rw [run, foldl_enter_eq_registerAll]
  exact RegistryBuilder.mappings_registerAll start (registered calls)

end BuilderCall

/-- The mappings of a name, up to letter case, whose slot no later mapping takes. -/
def FieldMapping.inForce {R : Type u} (name : String) (registered : List (FieldMapping R)) :
    List (FieldMapping R) :=
  (lastOfEachSlot slot registered).filter fun mapping => mapping.key = Unicode.lowercase name

/-- What a registry holds of the mappings registered for it. -/
structure Registry.Holds {R : Type u} (registry : Registry R) (registered : List (FieldMapping R)) :
    Prop where
  resolve_eq_some {name : String} {found : List (FieldMapping R)} :
    registry.resolve name = some found ↔ FieldMapping.inForce name registered = found ∧ found ≠ []
  resolve_eq_none {name : String} :
    registry.resolve name = none ↔ FieldMapping.inForce name registered = []
  contains_iff {name : String} :
    registry.contains name = true ↔ ∃ found, registry.resolve name = some found
  size_eq : registry.size = (registered.map FieldMapping.key).toFinset.card
  isEmpty_iff : registry.isEmpty = true ↔ registry.size = 0
  ascending : registry.fieldNames.Pairwise fun a b => Unicode.bytes a < Unicode.bytes b
  length_fieldNames : registry.fieldNames.length = registry.size
  /-- A name is listed as the first mapping that it resolves to spells it. -/
  mem_fieldNames {spelling : String} :
    spelling ∈ registry.fieldNames
      ↔ ∃ mapping ∈ registered, ∃ first others,
        registry.resolve mapping.name = some (first :: others) ∧ first.name = spelling

theorem FieldMapping.mem_keys_lastOfEachSlot {R : Type u} {registered : List (FieldMapping R)}
    {key : String} :
    key ∈ (lastOfEachSlot slot registered).map FieldMapping.key
      ↔ key ∈ registered.map FieldMapping.key := by
  have keys (mappings : List (FieldMapping R)) :
      mappings.map FieldMapping.key = (mappings.map slot).map Prod.fst := by
    rw [List.map_map]
    rfl
  rw [keys, keys, List.mem_map, List.mem_map]
  simp only [mem_map_lastOfEachSlot_iff]

theorem Registry.ofMappings_lastOfEachSlot_holds {R : Type u} (registered : List (FieldMapping R)) :
    (ofMappings (lastOfEachSlot FieldMapping.slot registered)).Holds registered where
  resolve_eq_some := by
    intro name found
    rw [resolve_ofMappings, nonempty?_eq_some_iff, FieldMapping.inForce]
  resolve_eq_none := by
    intro name
    rw [resolve_ofMappings, FieldMapping.inForce]
    cases List.filter _ (lastOfEachSlot FieldMapping.slot registered) <;> simp [nonempty?]
  contains_iff := by
    intro name
    rw [contains_eq_isSome_resolve, Option.isSome_iff_exists]
  size_eq := by
    rw [size_ofMappings]
    congr 1
    ext key
    rw [List.mem_toFinset, List.mem_toFinset, FieldMapping.mem_keys_lastOfEachSlot]
  isEmpty_iff := Registry.isEmpty_iff _
  ascending := pairwise_fieldNames_ofMappings _
  length_fieldNames := length_fieldNames _
  mem_fieldNames := by
    intro spelling
    rw [mem_fieldNames_ofMappings]
    constructor
    · rintro ⟨mapping, mem, resolves⟩
      exact ⟨mapping, (lastOfEachSlot_sublist _ registered).subset mem, resolves⟩
    · rintro ⟨mapping, mem, resolves⟩
      -- The mapping may have been replaced, and then by one of the same key.
      obtain ⟨other, mem', same⟩ := List.mem_map.1
        (FieldMapping.mem_keys_lastOfEachSlot.2 (List.mem_map_of_mem mem))
      exact ⟨other, mem', by rwa [resolve_congr _ same]⟩

/-- After every run of calls, the registry holds for each name the mappings that no later one of the
same name and shape has replaced, and the builder has no slot twice. -/
theorem BuilderCall.freeze_run_holds {R : Type} (calls : List (BuilderCall R)) :
    (run calls).freeze.Holds (registered calls)
      ∧ ((run calls).mappings.map FieldMapping.slot).Nodup := by
  rw [RegistryBuilder.freeze, mappings_run]
  exact ⟨Registry.ofMappings_lastOfEachSlot_holds (registered calls),
    nodup_map_lastOfEachSlot FieldMapping.slot (registered calls)⟩

end RecordQuery
