import RecordQuery.Binding
import RecordQuery.Expr.Parser
import RecordQuery.Predicate.Stream

/-!
# Queries

From a text to the accepted records of a source. Whether the query is refused is decided before the
source is looked at.
-/
namespace RecordQuery.Registry

universe u v

variable {R : Type u} {α : Type v}

def compile (registry : Registry R) (text : String) : Except QueryError (Predicate R) :=
  (Expr.parse text).bind registry.bind

/-- The items of a source whose record the query accepts, in their order. -/
def query (registry : Registry R) (text : String) (record : α → R) (source : List α) :
    Except QueryError (List α) :=
  (registry.compile text).map fun predicate => predicate.filter record source

def queryStream (registry : Registry R) (text : String) (record : α → R)
    (stream : List (Poll α)) : Except QueryError (List (Poll α)) :=
  (registry.compile text).map fun predicate => predicate.filterStream record stream

/-- The first `n` accepted items, if the query is not refused, and how many items were taken. -/
def queryFirst (registry : Registry R) (text : String) (record : α → R) (n : Nat)
    (source : List α) : Except QueryError (List α) × Nat :=
  match registry.compile text with
  | .error error => (.error error, 0)
  | .ok predicate =>
    let (found, seen) := predicate.take record n source
    (.ok found, seen)

end RecordQuery.Registry
