/-!
# Declared field types

A field is declared with one scalar type and may allow null besides.
-/
namespace RecordQuery

inductive ScalarType
  | integer
  | decimal
  | text
  | boolean
deriving DecidableEq, Repr

namespace ScalarType

def name : ScalarType → String
  | integer => "integer"
  | decimal => "decimal"
  | text => "text"
  | boolean => "boolean"

def isNumeric : ScalarType → Bool
  | integer | decimal => true
  | text | boolean => false

end ScalarType

structure FieldType where
  scalar : ScalarType
  nullable : Bool
deriving DecidableEq, Repr

namespace FieldType

def integer : FieldType := ⟨.integer, false⟩
def decimal : FieldType := ⟨.decimal, false⟩
def text : FieldType := ⟨.text, false⟩
def boolean : FieldType := ⟨.boolean, false⟩

def orNull (type : FieldType) : FieldType := { type with nullable := true }

@[simp] theorem scalar_orNull (type : FieldType) : type.orNull.scalar = type.scalar := rfl

@[simp] theorem nullable_orNull (type : FieldType) : type.orNull.nullable = true := rfl

/-- Whether a query may ask if the field is null; every text field may be asked. -/
def admitsNull (type : FieldType) : Bool := type.nullable || type.scalar == .text

def name (type : FieldType) : String :=
  if type.nullable then "nullable " ++ type.scalar.name else type.scalar.name

end FieldType
end RecordQuery
