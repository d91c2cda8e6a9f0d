import RecordQuery.ColumnType
import RecordQuery.Unicode.LowerCase

/-!
# Field mappings

A mapping gives a field's name, its declared type and a probe, which runs a test on the values that
the field has in a record. A scalar field has one value, a collection field one for each element. A
mapping may be narrowed to the records of one shape: it probes the shaped part of those, and does not
apply to others. Not applying differs from having no value, as an empty collection does.
-/
namespace RecordQuery

universe u v w

structure Shape where
  name : String
deriving DecidableEq, Repr

structure FieldMapping (R : Type u) where
  name : String
  type : FieldType
  /-- The shape that a record must have, if any. -/
  shape : Option Shape
  isCollection : Bool
  /-- Whether some value that the field has in a record passes a test. -/
  probe : R → (Value → Bool) → Bool
  /-- The condition that a narrowed mapping puts on records; without one it applies to all. -/
  gate : Option (R → Bool)

namespace FieldMapping

variable {R : Type u} {S : Type v} {E : Type w}

/-- Names are found without regard to letter case: this is what they are found by. -/
def key (mapping : FieldMapping R) : String := Unicode.lowercase mapping.name

def applies (mapping : FieldMapping R) (record : R) : Bool :=
  mapping.gate.all fun admits => admits record

def column (name : String) (type : ColumnType) (read : R → type.Carrier) : FieldMapping R where
  name := name
  type := type.fieldType
  shape := none
  isCollection := false
  probe record test := test (type.value (read record))
  gate := none

def computed (name : String) (type : FieldType) (read : R → Value) : FieldMapping R where
  name := name
  type := type
  shape := none
  isCollection := false
  probe record test := test (read record)
  gate := none

def columnOfEach (name : String) (type : ColumnType) (elements : R → List E)
    (read : E → type.Carrier) : FieldMapping R where
  name := name
  type := type.fieldType
  shape := none
  isCollection := true
  probe record test := (elements record).any fun element => test (type.value (read element))
  gate := none

def computedOfEach (name : String) (type : FieldType) (elements : R → List E)
    (read : E → Value) : FieldMapping R where
  name := name
  type := type
  shape := none
  isCollection := true
  probe record test := (elements record).any fun element => test (read element)
  gate := none

/-- A mapping of a shaped part, read from the records that have it; the innermost shape counts. -/
def narrowed (shape : Shape) (narrow : R → Option S) (mapping : FieldMapping S) :
    FieldMapping R where
  name := mapping.name
  type := mapping.type
  shape := some (mapping.shape.getD shape)
  isCollection := mapping.isCollection
  probe record test := (narrow record).any fun part => mapping.probe part test
  gate := some fun record => (narrow record).any mapping.applies

@[simp] theorem applies_narrowed (shape : Shape) (narrow : R → Option S) (mapping : FieldMapping S)
    (record : R) :
    (mapping.narrowed shape narrow).applies record = (narrow record).any mapping.applies := rfl

@[simp] theorem probe_narrowed (shape : Shape) (narrow : R → Option S) (mapping : FieldMapping S)
    (record : R) (test : Value → Bool) :
    (mapping.narrowed shape narrow).probe record test
      = (narrow record).any fun part => mapping.probe part test := rfl

end FieldMapping
end RecordQuery
