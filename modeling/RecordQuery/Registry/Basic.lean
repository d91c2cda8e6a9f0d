import RecordQuery.FieldMapping

/-!
# Registries

A registry holds, for each field name without regard to letter case, the mappings of that name in
the order of their registration. There is at least one mapping to a name; several differ in the
shape of record that they read.
-/
namespace RecordQuery

universe u

structure RegistryEntry (R : Type u) where
  key : String
  first : FieldMapping R
  others : List (FieldMapping R)

namespace RegistryEntry

variable {R : Type u}

def mappings (entry : RegistryEntry R) : List (FieldMapping R) := entry.first :: entry.others

/-- Adds a mapping to the entry of its name, or as a new entry at the end. -/
def file (mapping : FieldMapping R) : List (RegistryEntry R) → List (RegistryEntry R)
  | [] => [⟨mapping.key, mapping, []⟩]
  | entry :: rest =>
    if entry.key = mapping.key then { entry with others := entry.others ++ [mapping] } :: rest
    else entry :: file mapping rest

theorem keys_file (mapping : FieldMapping R) (entries : List (RegistryEntry R)) :
    (file mapping entries).map key
      = if mapping.key ∈ entries.map key then entries.map key
        else entries.map key ++ [mapping.key] := by
  induction entries with
  | nil => simp [file]
  | cons entry rest ih =>
    by_cases h : entry.key = mapping.key
    · simp [file, h]
    · have h' : mapping.key ≠ entry.key := Ne.symm h
      simp only [file, h, if_false, List.map_cons, ih, List.mem_cons, h', false_or]
      split <;> simp

theorem nodup_keys_file {mapping : FieldMapping R} {entries : List (RegistryEntry R)}
    (h : (entries.map key).Nodup) : ((file mapping entries).map key).Nodup := by
  rw [keys_file]
  split
  · exact h
  · rename_i new
    refine List.nodup_append.2 ⟨h, by simp, ?_⟩
    rintro a mem b mem' rfl
    exact new (List.mem_singleton.1 mem' ▸ mem)

end RegistryEntry

/-- One entry for each name, in the order in which the names came first. -/
structure Registry (R : Type u) where
  entries : List (RegistryEntry R)
  nodup : (entries.map RegistryEntry.key).Nodup

namespace Registry

variable {R : Type u}

def empty : Registry R := ⟨[], List.nodup_nil⟩

def add (registry : Registry R) (mapping : FieldMapping R) : Registry R :=
  ⟨RegistryEntry.file mapping registry.entries, RegistryEntry.nodup_keys_file registry.nodup⟩

def ofMappings (mappings : List (FieldMapping R)) : Registry R := mappings.foldl add empty

/-- The mappings of a name, or nothing if there is none. -/
def resolve (registry : Registry R) (name : String) : Option (List (FieldMapping R)) :=
  (registry.entries.find? fun entry => entry.key == Unicode.lowercase name).map
    RegistryEntry.mappings

def contains (registry : Registry R) (name : String) : Bool :=
  registry.entries.any fun entry => entry.key == Unicode.lowercase name

def size (registry : Registry R) : Nat := registry.entries.length

def isEmpty (registry : Registry R) : Bool := registry.entries.isEmpty

/-- Each name as its first mapping spells it, in the order of code points. -/
def fieldNames (registry : Registry R) : List String :=
  (registry.entries.map fun entry => entry.first.name).mergeSort fun a b => decide (a ≤ b)

theorem contains_eq_isSome_resolve (registry : Registry R) (name : String) :
    registry.contains name = (registry.resolve name).isSome := by
  simp [contains, resolve, List.isSome_find?]

theorem length_fieldNames (registry : Registry R) :
    registry.fieldNames.length = registry.size := by
  simp [fieldNames, size]

end Registry
end RecordQuery
