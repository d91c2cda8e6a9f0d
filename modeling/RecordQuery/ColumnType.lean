import RecordQuery.Value

/-!
# Column types

The types of stored columns that can be mapped as they are: the integers that 64 signed bits hold,
decimals, truth values, text, and each of these with an absent value. The column type decides the
declared field type, and every stored value conforms to it.
-/
namespace RecordQuery

inductive ColumnType
  | int8
  | int16
  | int32
  | int64
  | uint8
  | uint16
  | uint32
  | decimal
  | bool
  | text
  | optional (inner : ColumnType)
deriving DecidableEq, Repr

namespace ColumnType

def Carrier : ColumnType → Type
  | int8 => Int8
  | int16 => Int16
  | int32 => Int32
  | int64 => Int64
  | uint8 => UInt8
  | uint16 => UInt16
  | uint32 => UInt32
  | decimal => Decimal
  | bool => Bool
  | text => String
  | optional inner => Option inner.Carrier

/-- The declared type of a field that is mapped to such a column. -/
def fieldType : ColumnType → FieldType
  | int8 | int16 | int32 | int64 | uint8 | uint16 | uint32 => .integer
  | decimal => .decimal
  | bool => .boolean
  | text => .text
  | optional inner => inner.fieldType.orNull

def value : (type : ColumnType) → type.Carrier → Value
  | int8, n => .integer (Int8.toInt64 n)
  | int16, n => .integer (Int16.toInt64 n)
  | int32, n => .integer (Int32.toInt64 n)
  | int64, n => .integer n
  | uint8, n => .integer (Int64.ofNat (UInt8.toNat n))
  | uint16, n => .integer (Int64.ofNat (UInt16.toNat n))
  | uint32, n => .integer (Int64.ofNat (UInt32.toNat n))
  | decimal, d => .decimal d
  | bool, b => .bool b
  | text, s => .text s
  | optional _, none => .null
  | optional inner, some entry => inner.value entry

/-- Every stored entry conforms to the declared type of its column. -/
theorem conforms_value (type : ColumnType) (entry : type.Carrier) :
    (type.value entry).Conforms type.fieldType := by
  induction type with
  | optional inner ih =>
    cases entry with
    | none => simp [value, Value.Conforms, fieldType]
    | some entry =>
      have h := ih entry
      revert h
      simp only [value, fieldType]
      cases inner.value entry <;> simp [Value.Conforms]
  | _ => rfl

end ColumnType
end RecordQuery
