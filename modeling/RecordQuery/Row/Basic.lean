import RecordQuery.ColumnType

/-!
# Rows

A row has one stored column of each column type, cells that are found by name and hold any value,
items that are rows again, and a form: plain, or one of two forms with a row as its body.
-/
namespace RecordQuery

inductive RowColumn
  | int8
  | int16
  | int32
  | int64
  | uint8
  | uint16
  | uint32
  | decimal
  | bool
  | text
  | optInt32
  | optInt64
  | optDecimal
  | optBool
  | optText
deriving DecidableEq, Repr

namespace RowColumn

def type : RowColumn → ColumnType
  | int8 => .int8
  | int16 => .int16
  | int32 => .int32
  | int64 => .int64
  | uint8 => .uint8
  | uint16 => .uint16
  | uint32 => .uint32
  | decimal => .decimal
  | bool => .bool
  | text => .text
  | optInt32 => .optional .int32
  | optInt64 => .optional .int64
  | optDecimal => .optional .decimal
  | optBool => .optional .bool
  | optText => .optional .text

/-- What a column holds if nothing is stored. -/
def blank : (column : RowColumn) → column.type.Carrier
  | int8 => (0 : Int8)
  | int16 => (0 : Int16)
  | int32 => (0 : Int32)
  | int64 => (0 : Int64)
  | uint8 => (0 : UInt8)
  | uint16 => (0 : UInt16)
  | uint32 => (0 : UInt32)
  | decimal => Decimal.ofInt64 0
  | bool => false
  | text => ""
  | optInt32 | optInt64 | optDecimal | optBool | optText => none

end RowColumn

/-- The form of a row, with the body of a row that has one. -/
inductive RowForm (Body : Type)
  | plain
  | a (body : Body)
  | b (body : Body)

/-- A record with stored columns, free cells, items and a form. -/
structure Row where
  columns : (column : RowColumn) → column.type.Carrier
  cells : List (String × Value)
  items : List Row
  form : RowForm Row

namespace Row

/-- The value of a cell; a missing cell holds null. -/
def cell (name : String) (row : Row) : Value := (row.cells.lookup name).getD .null

def flag (row : Row) : Bool := row.columns .bool

def bodyA? (row : Row) : Option Row :=
  match row.form with
  | .a body => some body
  | _ => none

def bodyB? (row : Row) : Option Row :=
  match row.form with
  | .b body => some body
  | _ => none

end Row
end RecordQuery
