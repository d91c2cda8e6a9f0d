import RecordQuery.FieldMapping
import RecordQuery.Json.Pointer

/-!
# Fields of documents

A field of a document is the value at a pointer, or the values at a pointer within each element of
the array at another. What is no value is passed over, so such a field applies and no test on it
holds.
-/
namespace RecordQuery.FieldMapping

def pointer (name : String) (type : FieldType) (pointer : String) : FieldMapping Json where
  name := name
  type := type
  shape := none
  isCollection := false
  probe doc test := (Json.fieldValue? (doc.pointer? pointer)).any test
  gate := none

/-- The values at the pointer `element` within each element of the array at the pointer `array`. -/
def pointerOfEach (name : String) (type : FieldType) (array element : String) :
    FieldMapping Json where
  name := name
  type := type
  shape := none
  isCollection := true
  probe doc test :=
    ((doc.pointer? array).bind Json.elements?).any fun elements =>
      elements.any fun part => (Json.fieldValue? (part.pointer? element)).any test
  gate := none

end RecordQuery.FieldMapping
