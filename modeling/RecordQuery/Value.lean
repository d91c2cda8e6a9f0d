import RecordQuery.Decimal
import RecordQuery.FieldType

/-!
# Values

What a field holds in a record. A value conforms to a declared type if it is of the type's class,
where integers and decimals are one class, or null where null is allowed. Nothing forces a value to
conform: the tests of a query decide what to do with one that does not.
-/
namespace RecordQuery

inductive Value
  | null
  | bool (b : Bool)
  | integer (n : Int64)
  | decimal (d : Decimal)
  | text (s : String)
deriving DecidableEq, Repr

namespace Value

def isNull : Value → Bool
  | null => true
  | _ => false

theorem isNull_eq_false_iff {value : Value} : value.isNull = false ↔ value ≠ null := by
  cases value <;> simp [isNull]

def asBool : Value → Option Bool
  | bool b => some b
  | _ => none

def asDecimal : Value → Option Decimal
  | integer n => some (.ofInt64 n)
  | decimal d => some d
  | _ => none

/-- Equality of values: an integer differs from every decimal, two decimals compare by value. -/
def Same : Value → Value → Prop
  | decimal a, decimal b => a.Same b
  | a, b => a = b

instance : DecidableRel Same := fun a b => by
  cases a <;> cases b <;> unfold Same <;> infer_instance

/-- Whether a value may stand in a field of the declared type. -/
def Conforms (value : Value) (type : FieldType) : Prop :=
  match value with
  | null => type.nullable = true
  | bool _ => type.scalar = .boolean
  | integer _ | decimal _ => type.scalar.isNumeric = true
  | text _ => type.scalar = .text

instance (value : Value) (type : FieldType) : Decidable (value.Conforms type) := by
  cases value <;> unfold Conforms <;> infer_instance

end Value
end RecordQuery
