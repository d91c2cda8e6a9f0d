import RecordQuery.CompareOp
import RecordQuery.Expr.Literal

/-!
# Query terms

A query is one term about one field: a comparison with a literal, a bare boolean field, or a negated
boolean field. There is no conjunction and no disjunction.
-/
namespace RecordQuery

/-- One term: `field op literal`, `field` or `!field`. -/
inductive Expr
  | comparison (field : String) (op : CompareOp) (literal : Literal)
  | booleanTest (field : String)
  | negation (field : String)
deriving DecidableEq, Repr

namespace Expr

def field : Expr → String
  | comparison field _ _ | booleanTest field | negation field => field

def isNegation : Expr → Bool
  | negation _ => true
  | _ => false

def display : Expr → String
  | comparison field op literal => field ++ " " ++ op.symbol ++ " " ++ literal.display
  | booleanTest field => field
  | negation field => "!" ++ field

/-- Equality of terms: decimals by value, everything else as it is. -/
def Same : Expr → Expr → Prop
  | comparison f op l, comparison f' op' l' => f = f' ∧ op = op' ∧ l.Same l'
  | booleanTest f, booleanTest f' => f = f'
  | negation f, negation f' => f = f'
  | _, _ => False

instance : DecidableRel Same := fun a b => by
  cases a <;> cases b <;> unfold Same <;> infer_instance

@[simp] theorem Same.refl (a : Expr) : Same a a := by
  cases a <;> simp [Same]

end Expr
end RecordQuery
