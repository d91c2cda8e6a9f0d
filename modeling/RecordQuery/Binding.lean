import RecordQuery.Predicate.Basic
import RecordQuery.QueryError
import RecordQuery.Registry.Basic

/-!
# Binding terms to mappings

A term is bound to the declared type of every mapping of its field's name, and refused with the
first mapping that refuses it.

| literal | integer field | decimal field | text field | boolean field |
|---|---|---|---|---|
| integer | every operator | every operator, widened | - | - |
| decimal | every operator | every operator | - | - |
| text | - | - | `=` `!=` | - |
| truth value | - | - | - | `=` `!=` |
| null | `=` `!=` if nullable | `=` `!=` if nullable | `=` `!=` | `=` `!=` if nullable |

A bare and a negated name need a boolean field.
-/
namespace RecordQuery

universe u

/-- The operand that a literal other than null becomes, if the type can be compared with it. -/
def Literal.operand? (literal : Literal) (type : ScalarType) (op : CompareOp) : Option Operand :=
  match literal, type with
  | .integer n, .integer => some (.integer n)
  | .integer n, .decimal => some (.decimal (.ofInt64 n))
  | .decimal d, .integer | .decimal d, .decimal => some (.decimal d)
  | .text s, .text => if op.isEquality then some (.text s) else none
  | .bool b, .boolean => if op.isEquality then some (.bool b) else none
  | _, _ => none

def FieldType.bindComparison (type : FieldType) (op : CompareOp) (literal : Literal) :
    Except Mismatch ValueTest :=
  match literal with
  | .null =>
    if !op.isEquality then .error (.incomparable type .null op)
    else if !type.admitsNull then .error (.neverNull type)
    else .ok (if op = .equal then .isNull else .isNotNull)
  | _ =>
    match literal.operand? type.scalar op with
    | some operand => .ok (.compare op operand)
    | none => .error (.incomparable type literal.kind op)

def FieldType.bind (type : FieldType) : Expr → Except Mismatch ValueTest
  | .comparison _ op literal => type.bindComparison op literal
  | .booleanTest _ => if type.scalar = .boolean then .ok .isTrue else .error (.notBoolean type)
  | .negation _ => if type.scalar = .boolean then .ok .isFalse else .error (.notBoolean type)

/-- A term bound to one mapping; the negation of a collection asks that no element is true. -/
def FieldMapping.bind {R : Type u} (mapping : FieldMapping R) (expr : Expr) :
    Except Mismatch (BoundField R) :=
  match mapping.type.bind expr with
  | .error mismatch => .error mismatch
  | .ok test =>
    if mapping.isCollection && expr.isNegation then .ok ⟨mapping, .isTrue, true⟩
    else .ok ⟨mapping, test, false⟩

def FieldMapping.bindAll {R : Type u} (expr : Expr) :
    List (FieldMapping R) → Except Mismatch (List (BoundField R))
  | [] => .ok []
  | mapping :: rest =>
    match mapping.bind expr with
    | .error mismatch => .error mismatch
    | .ok field =>
      match bindAll expr rest with
      | .error mismatch => .error mismatch
      | .ok fields => .ok (field :: fields)

/-- The predicate of a term over the records that a registry describes. -/
def Registry.bind {R : Type u} (registry : Registry R) (expr : Expr) :
    Except QueryError (Predicate R) :=
  match registry.resolve expr.field with
  | none => .error (.unknownField expr.field)
  | some mappings =>
    match FieldMapping.bindAll expr mappings with
    | .error mismatch => .error (.typeMismatch expr.field mismatch)
    | .ok fields => .ok ⟨expr, fields⟩

end RecordQuery
