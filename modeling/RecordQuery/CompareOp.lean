/-!
# Comparison operators

Six operators, each a test on the order of a field's value against a literal.
-/
namespace RecordQuery

inductive CompareOp
  | equal
  | notEqual
  | less
  | lessEqual
  | greater
  | greaterEqual
deriving DecidableEq, Repr

namespace CompareOp

/-- Every operator, in the order in which they are documented. -/
def all : List CompareOp := [equal, notEqual, less, lessEqual, greater, greaterEqual]

def symbol : CompareOp → String
  | equal => "="
  | notEqual => "!="
  | less => "<"
  | lessEqual => "<="
  | greater => ">"
  | greaterEqual => ">="

def ofSymbol? (symbol : String) : Option CompareOp := all.find? (·.symbol == symbol)

def isEquality : CompareOp → Bool
  | equal | notEqual => true
  | _ => false

theorem isEquality_iff {op : CompareOp} : op.isEquality = true ↔ op = equal ∨ op = notEqual := by
  cases op <;> simp [isEquality]

/-- Whether the operator holds when the value stands in this order to the literal. -/
def holds : CompareOp → Ordering → Bool
  | equal, order => order == .eq
  | notEqual, order => order != .eq
  | less, order => order == .lt
  | lessEqual, order => order != .gt
  | greater, order => order == .gt
  | greaterEqual, order => order != .lt

end CompareOp
end RecordQuery
