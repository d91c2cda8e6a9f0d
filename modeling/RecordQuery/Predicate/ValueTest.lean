import RecordQuery.CompareOp
import RecordQuery.Value

/-!
# Tests on a value

A test is what a term has become once it is bound to a declared type. Null differs from every
operand and is ordered with none. A value of another class than the operand is not comparable, and
no comparison holds of it, not even `!=`.
-/
namespace RecordQuery

inductive Operand
  | integer (n : Int64)
  | decimal (d : Decimal)
  | text (s : String)
  | bool (b : Bool)
deriving DecidableEq, Repr

namespace Operand

/-- How a value stands to the operand, if they are of one class; numbers are compared exactly. -/
def order? : Operand → Value → Option Ordering
  | integer n, .integer m => some (compare m.toInt n.toInt)
  | integer n, value => value.asDecimal.map fun d => d.cmp (.ofInt64 n)
  | decimal operand, value => value.asDecimal.map fun d => d.cmp operand
  | text operand, .text s => some (compare s operand)
  | bool operand, .bool b => some (compare b operand)
  | _, _ => none

end Operand

inductive ValueTest
  | compare (op : CompareOp) (operand : Operand)
  | isNull
  | isNotNull
  | isTrue
  | isFalse
deriving DecidableEq, Repr

namespace ValueTest

def passes : ValueTest → Value → Bool
  | compare op _, .null => op == .notEqual
  | compare op operand, value => (operand.order? value).any op.holds
  | isNull, value => value.isNull
  | isNotNull, value => !value.isNull
  | isTrue, value => value.asBool == some true
  | isFalse, value => value.asBool == some false

@[simp] theorem passes_compare_null (op : CompareOp) (operand : Operand) :
    (compare op operand).passes .null = (op == .notEqual) := rfl

theorem passes_compare {op : CompareOp} {operand : Operand} {value : Value}
    (h : value.isNull = false) :
    (compare op operand).passes value = (operand.order? value).any op.holds := by
  cases value <;> first | rfl | cases h

end ValueTest
end RecordQuery
