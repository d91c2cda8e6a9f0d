import RecordQuery.Registry.Basic

/-!
# Building a registry

A builder collects mappings in order. A mapping takes the place of an earlier one with the same
name, up to letter case, and the same shape; it stands at the end nevertheless. No shape at all
counts as a shape of its own.
-/
namespace RecordQuery

universe u v

structure RegistryBuilder (R : Type u) where
  mappings : List (FieldMapping R)

namespace RegistryBuilder

variable {R : Type u} {S : Type v}

def empty : RegistryBuilder R := ⟨[]⟩

/-- Whether two mappings have the same name, up to letter case, and the same shape. -/
def sameSlot (a b : FieldMapping R) : Bool := a.key == b.key && a.shape == b.shape

/-- Adds a mapping at the end, in place of any earlier one of its name and shape. -/
def register (builder : RegistryBuilder R) (mapping : FieldMapping R) : RegistryBuilder R :=
  ⟨builder.mappings.filter (fun earlier => !sameSlot earlier mapping) ++ [mapping]⟩

def registerAll (builder : RegistryBuilder R) (mappings : List (FieldMapping R)) :
    RegistryBuilder R :=
  mappings.foldl register builder

/-- Adds mappings of a shaped part for the records that have it. -/
def registerNarrowed (builder : RegistryBuilder R) (shape : Shape) (narrow : R → Option S)
    (mappings : List (FieldMapping S)) : RegistryBuilder R :=
  builder.registerAll (mappings.map (FieldMapping.narrowed shape narrow))

def freeze (builder : RegistryBuilder R) : Registry R := .ofMappings builder.mappings

end RegistryBuilder
end RecordQuery
