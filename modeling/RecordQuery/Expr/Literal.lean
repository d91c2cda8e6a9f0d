import RecordQuery.Decimal

/-!
# Literals

The value on the right of a comparison. A number without a point is an integer if 64 bits hold it
and a decimal otherwise; text stands between single quotes as it is, without escapes.
-/
namespace RecordQuery

inductive Literal
  | integer (n : Int64)
  | decimal (d : Decimal)
  | text (s : String)
  | bool (b : Bool)
  | null
deriving DecidableEq, Repr

inductive LiteralKind
  | integer
  | decimal
  | text
  | boolean
  | null
deriving DecidableEq, Repr

def LiteralKind.name : LiteralKind → String
  | integer => "integer"
  | decimal => "decimal"
  | text => "text"
  | boolean => "boolean"
  | null => "null"

def integerText (n : Int64) : String := (Numeral.ofInt n.toInt).text

def boolText (b : Bool) : String := if b then "true" else "false"

namespace Literal

def kind : Literal → LiteralKind
  | integer _ => .integer
  | decimal _ => .decimal
  | text _ => .text
  | bool _ => .boolean
  | null => .null

def display : Literal → String
  | integer n => integerText n
  | decimal d => d.text
  | text s => "'" ++ s ++ "'"
  | bool b => boolText b
  | null => "null"

/-- The literal that a numeral denotes: an integer if possible, else a decimal if within range. -/
def ofNumeral? (n : Numeral) : Option Literal :=
  match n.toInt64? with
  | some i => some (integer i)
  | none => (Decimal.ofNumeral? n).map decimal

def ofNumber? (text : String) : Option Literal := (Numeral.read? text.toList).bind ofNumeral?

def ofBool? (text : String) : Option Literal :=
  if text = "true" then some (bool true) else if text = "false" then some (bool false) else none

def ofNull? (text : String) : Option Literal := if text = "null" then some null else none

/-- Equality of literals: two decimals by value, everything else as it is. -/
def Same : Literal → Literal → Prop
  | decimal a, decimal b => a.Same b
  | a, b => a = b

instance : DecidableRel Same
  | decimal a, decimal b => inferInstanceAs (Decidable (a.Same b))
  | integer a, b => inferInstanceAs (Decidable (integer a = b))
  | text a, b => inferInstanceAs (Decidable (text a = b))
  | bool a, b => inferInstanceAs (Decidable (bool a = b))
  | null, b => inferInstanceAs (Decidable (null = b))
  | decimal a, integer b => inferInstanceAs (Decidable (decimal a = integer b))
  | decimal a, text b => inferInstanceAs (Decidable (decimal a = text b))
  | decimal a, bool b => inferInstanceAs (Decidable (decimal a = bool b))
  | decimal a, null => inferInstanceAs (Decidable (decimal a = null))

@[simp] theorem Same.refl (a : Literal) : Same a a := by
  cases a <;> simp [Same]

end Literal
end RecordQuery
