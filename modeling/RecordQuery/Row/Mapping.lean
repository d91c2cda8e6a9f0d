import RecordQuery.Registry.Builder
import RecordQuery.Row.Basic

/-!
# Fields of rows

The fields of a row are its columns and cells, and the columns and cells of its items. A gate admits
some rows and reads fields from a part of them; the two gates to a body of form `a` have one shape.
-/
namespace RecordQuery

namespace FieldMapping

def rowColumn (name : String) (column : RowColumn) : FieldMapping Row :=
  .column name column.type fun row => row.columns column

def itemColumn (name : String) (column : RowColumn) : FieldMapping Row :=
  .columnOfEach name column.type Row.items fun item => item.columns column

def rowCell (name : String) (type : FieldType) (cell : String) : FieldMapping Row :=
  .computed name type (Row.cell cell)

def itemCell (name : String) (type : FieldType) (cell : String) : FieldMapping Row :=
  .computedOfEach name type Row.items (Row.cell cell)

end FieldMapping

/-- A condition on rows that leads to a part of them. -/
inductive RowGate
  | bodyA
  | bodyB
  | flaggedBodyA
  | flaggedSelf
deriving DecidableEq, Repr

namespace RowGate

def shape : RowGate → Shape
  | bodyA | flaggedBodyA => ⟨"ShapeA"⟩
  | bodyB => ⟨"ShapeB"⟩
  | flaggedSelf => ⟨"Rec"⟩

/-- The part of a row that a gate leads to, if the row is admitted. -/
def narrow : RowGate → Row → Option Row
  | bodyA, row => row.bodyA?
  | bodyB, row => row.bodyB?
  | flaggedBodyA, row => if row.flag then row.bodyA? else none
  | flaggedSelf, row => if row.flag then some row else none

def register (gate : RowGate) (fields : List (FieldMapping Row)) (builder : RegistryBuilder Row) :
    RegistryBuilder Row :=
  builder.registerNarrowed gate.shape gate.narrow fields

end RowGate
end RecordQuery
