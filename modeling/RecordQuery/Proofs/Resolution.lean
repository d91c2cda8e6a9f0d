import RecordQuery.Registry.Builder

/-!
# What a name resolves to

A mapping stays in force until a later one takes its slot, which is its name up to letter case
together with its shape. A name resolves to the mappings in force that have it, in the order of
their registration, and to nothing if there is none.
-/
namespace RecordQuery

universe u v w

/-- The items whose slot no later item takes. -/
def lastOfEachSlot {α : Type u} {σ : Type v} [DecidableEq σ] (slot : α → σ) : List α → List α
  | [] => []
  | item :: later =>
    if slot item ∈ later.map slot then lastOfEachSlot slot later
    else item :: lastOfEachSlot slot later

def nonempty? {α : Type u} : List α → Option (List α)
  | [] => none
  | item :: rest => some (item :: rest)

section Lists

variable {α : Type u} {β : Type w} {σ : Type v} [DecidableEq σ]

theorem lastOfEachSlot_append_singleton (slot : α → σ) (items : List α) (item : α) :
    lastOfEachSlot slot (items ++ [item])
      = (lastOfEachSlot slot items).filter (fun earlier => slot earlier ≠ slot item) ++ [item] := by
  induction items with
  | nil => simp [lastOfEachSlot]
  | cons first rest ih =>
    rw [List.cons_append, lastOfEachSlot, lastOfEachSlot, ih]
    by_cases taken : slot first ∈ rest.map slot
    · have later : slot first ∈ (rest ++ [item]).map slot := by simp_all
      rw [if_pos taken, if_pos later]
    · rw [if_neg taken]
      by_cases same : slot first = slot item
      · rw [if_pos (by simp [same])]
        simp [same]
      · rw [if_neg (by simp_all)]
        simp [same]

theorem lastOfEachSlot_map (slot : β → σ) (f : α → β) (items : List α) :
    lastOfEachSlot slot (items.map f)
      = (lastOfEachSlot (fun item => slot (f item)) items).map f := by
  induction items with
  | nil => rfl
  | cons first rest ih =>
    have slots : (rest.map f).map slot = rest.map fun item => slot (f item) := List.map_map
    rw [List.map_cons, lastOfEachSlot, lastOfEachSlot, slots, ih]
    by_cases taken : slot (f first) ∈ rest.map fun item => slot (f item)
    · rw [if_pos taken, if_pos taken]
    · rw [if_neg taken, if_neg taken, List.map_cons]

theorem lastOfEachSlot_congr {τ : Type w} [DecidableEq τ] {slot : α → σ} {slot' : α → τ}
    {items : List α}
    (same : ∀ a ∈ items, ∀ b ∈ items, slot a = slot b ↔ slot' a = slot' b) :
    lastOfEachSlot slot items = lastOfEachSlot slot' items := by
  induction items with
  | nil => rfl
  | cons first rest ih =>
    have taken : slot first ∈ rest.map slot ↔ slot' first ∈ rest.map slot' := by
      rw [List.mem_map, List.mem_map]
      apply exists_congr
      intro item
      refine and_congr_right fun mem => ?_
      exact same item (List.mem_cons_of_mem _ mem) first List.mem_cons_self
    have later := ih fun a mem b mem' =>
      same a (List.mem_cons_of_mem _ mem) b (List.mem_cons_of_mem _ mem')
    rw [lastOfEachSlot, lastOfEachSlot, later]
    simp only [taken]

theorem nonempty?_map (f : α → β) (items : List α) :
    nonempty? (items.map f) = (nonempty? items).map (List.map f) := by
  cases items <;> rfl

theorem nonempty?_eq_some_iff {items found : List α} :
    nonempty? items = some found ↔ items = found ∧ found ≠ [] := by
  cases items with
  | nil => simp [nonempty?, eq_comm]
  | cons item rest =>
    simp only [nonempty?, Option.some.injEq]
    constructor
    · rintro rfl
      simp
    · exact And.left

end Lists

/-- The name, up to letter case, and the shape that a mapping is registered for. -/
def FieldMapping.slot {R : Type u} (mapping : FieldMapping R) : String × Option Shape :=
  (mapping.key, mapping.shape)

namespace RegistryBuilder

variable {R : Type u}

theorem sameSlot_eq (a b : FieldMapping R) : sameSlot a b = decide (a.slot = b.slot) := by
  by_cases name : a.key = b.key <;> by_cases shape : a.shape = b.shape <;>
    simp [sameSlot, FieldMapping.slot, name, shape]

theorem mappings_register {builder : RegistryBuilder R} {seen : List (FieldMapping R)}
    (h : builder.mappings = lastOfEachSlot FieldMapping.slot seen) (mapping : FieldMapping R) :
    (builder.register mapping).mappings
      = lastOfEachSlot FieldMapping.slot (seen ++ [mapping]) := by
  rw [lastOfEachSlot_append_singleton, ← h]
  simp [register, sameSlot_eq]

/-- A run of registrations leaves the mappings in force. -/
theorem mappings_registerAll {builder : RegistryBuilder R} {seen : List (FieldMapping R)}
    (h : builder.mappings = lastOfEachSlot FieldMapping.slot seen)
    (mappings : List (FieldMapping R)) :
    (builder.registerAll mappings).mappings
      = lastOfEachSlot FieldMapping.slot (seen ++ mappings) := by
  induction mappings generalizing builder seen with
  | nil => simpa [registerAll] using h
  | cons mapping rest ih =>
    have step := ih (mappings_register h mapping)
    rw [List.append_assoc, List.singleton_append] at step
    exact step

end RegistryBuilder

namespace RegistryEntry

variable {R : Type u}

def lookup (key : String) (entries : List (RegistryEntry R)) : Option (List (FieldMapping R)) :=
  (entries.find? fun entry => entry.key == key).map mappings

theorem lookup_ne_some_nil (key : String) (entries : List (RegistryEntry R)) :
    lookup key entries ≠ some [] := by
  simp [lookup, mappings]

/-- Filing a mapping adds it behind those of its key and changes nothing for other keys. -/
theorem lookup_file (key : String) (mapping : FieldMapping R) (entries : List (RegistryEntry R)) :
    lookup key (file mapping entries)
      = if mapping.key = key then some ((lookup key entries).getD [] ++ [mapping])
        else lookup key entries := by
  induction entries with
  | nil =>
    by_cases h : mapping.key = key <;> simp [file, lookup, mappings, h]
  | cons entry rest ih =>
    unfold lookup at ih ⊢
    by_cases filed : entry.key = mapping.key
    · rw [file, if_pos filed]
      by_cases h : mapping.key = key
      · simp [mappings, filed, h]
      · simp [filed, h]
    · rw [file, if_neg filed, List.find?_cons, List.find?_cons]
      by_cases found : entry.key = key
      · have other : mapping.key ≠ key := fun h => filed (found.trans h.symm)
        simp [found, other]
      · have other : (entry.key == key) = false := by simpa using found
        rw [other]
        exact ih

end RegistryEntry

namespace Registry

variable {R : Type u}

theorem resolve_foldl_add (registry : Registry R) (mappings : List (FieldMapping R))
    (name : String) :
    (mappings.foldl add registry).resolve name
      = nonempty? ((registry.resolve name).getD []
          ++ mappings.filter fun mapping => mapping.key = Unicode.lowercase name) := by
  induction mappings generalizing registry with
  | nil =>
    have filled := RegistryEntry.lookup_ne_some_nil (Unicode.lowercase name) registry.entries
    change registry.resolve name ≠ some [] at filled
    cases found : registry.resolve name with
    | none => simp [found, nonempty?]
    | some found' =>
      rw [found] at filled
      cases found' with
      | nil => exact absurd rfl filled
      | cons mapping rest => simp [found, nonempty?]
  | cons mapping rest ih =>
    have step : (registry.add mapping).resolve name
        = if mapping.key = Unicode.lowercase name
          then some ((registry.resolve name).getD [] ++ [mapping]) else registry.resolve name :=
      RegistryEntry.lookup_file (Unicode.lowercase name) mapping registry.entries
    rw [List.foldl_cons, ih, step]
    by_cases h : mapping.key = Unicode.lowercase name <;> simp [h]

/-- What a name resolves to depends on its lower-case form alone. -/
theorem resolve_congr (registry : Registry R) {a b : String}
    (same : Unicode.lowercase a = Unicode.lowercase b) :
    registry.resolve a = registry.resolve b := by
  rw [resolve, resolve, same]

theorem resolve_ofMappings (mappings : List (FieldMapping R)) (name : String) :
    (ofMappings mappings).resolve name
      = nonempty? (mappings.filter fun mapping => mapping.key = Unicode.lowercase name) :=
  resolve_foldl_add empty mappings name

end Registry

namespace RegistryBuilder

variable {R : Type u}

/-- A name resolves to the mappings in force that have it, or to nothing. -/
theorem resolve_freeze_registerAll (mappings : List (FieldMapping R)) (name : String) :
    (empty.registerAll mappings).freeze.resolve name
      = nonempty? ((lastOfEachSlot FieldMapping.slot mappings).filter
          fun mapping => mapping.key = Unicode.lowercase name) := by
  have start : (empty : RegistryBuilder R).mappings = lastOfEachSlot FieldMapping.slot [] := rfl
  have inForce : (empty.registerAll mappings).mappings
      = lastOfEachSlot FieldMapping.slot mappings := mappings_registerAll start mappings
  rw [freeze, Registry.resolve_ofMappings, inForce]

end RegistryBuilder
end RecordQuery
