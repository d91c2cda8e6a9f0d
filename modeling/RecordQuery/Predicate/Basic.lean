import RecordQuery.Expr.Basic
import RecordQuery.FieldMapping
import RecordQuery.Predicate.ValueTest

/-!
# Predicates

A predicate is a term bound to every mapping of its field's name. A record is accepted if one of the
bound fields holds in it. A complemented field, which is how `!name` is bound to a collection, holds
in the records that have the mapping's shape and in which no value passes the test.
-/
namespace RecordQuery

universe u v

structure BoundField (R : Type u) where
  mapping : FieldMapping R
  test : ValueTest
  complement : Bool

def BoundField.holds {R : Type u} (field : BoundField R) (record : R) : Bool :=
  let passed := field.mapping.probe record field.test.passes
  if field.complement then !passed && field.mapping.applies record else passed

structure Predicate (R : Type u) where
  expr : Expr
  fields : List (BoundField R)

namespace Predicate

variable {R : Type u} {α : Type v}

def accepts (predicate : Predicate R) (record : R) : Bool :=
  predicate.fields.any fun field => field.holds record

def display (predicate : Predicate R) : String := predicate.expr.display

def filter (predicate : Predicate R) (record : α → R) (source : List α) : List α :=
  source.filter fun item => predicate.accepts (record item)

/-- The first `n` accepted items, and how many items were taken from the source to find them. -/
def take (predicate : Predicate R) (record : α → R) : Nat → List α → List α × Nat
  | 0, _ => ([], 0)
  | _ + 1, [] => ([], 0)
  | n + 1, item :: rest =>
    if predicate.accepts (record item) then
      let (found, seen) := take predicate record n rest
      (item :: found, seen + 1)
    else
      let (found, seen) := take predicate record (n + 1) rest
      (found, seen + 1)

theorem take_fst (predicate : Predicate R) (record : α → R) (n : Nat) (source : List α) :
    (predicate.take record n source).1 = (predicate.filter record source).take n := by
  induction source generalizing n with
  | nil => cases n <;> simp [take, filter]
  | cons item rest ih =>
    cases n with
    | zero => simp [take]
    | succ n =>
      by_cases h : predicate.accepts (record item)
      · have := ih n
        simp_all [take, filter]
      · have := ih (n + 1)
        simp_all [take, filter]

end Predicate
end RecordQuery
