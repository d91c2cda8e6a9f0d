import RecordQuery.Predicate.Basic

/-!
# Sources that may have to wait

A stream is the course of its polls: each finds an item or finds that none is ready yet. Filtering
keeps the waits where they are and drops the items that are not accepted, so the accepted items
come in the order of the source however it is timed.
-/
namespace RecordQuery

universe u v

/-- What asking a source for its next item finds. -/
inductive Poll (α : Type v)
  | ready (item : α)
  | pending
deriving Repr

namespace Poll

variable {α : Type v}

def item? : Poll α → Option α
  | ready item => some item
  | pending => none

def items (stream : List (Poll α)) : List α := stream.filterMap item?

end Poll

namespace Predicate

variable {R : Type u} {α : Type v}

def filterStream (predicate : Predicate R) (record : α → R) (stream : List (Poll α)) :
    List (Poll α) :=
  stream.filter fun poll => poll.item?.all fun item => predicate.accepts (record item)

/-- A filtered stream has the items that filtering the items leaves. -/
theorem items_filterStream (predicate : Predicate R) (record : α → R) (stream : List (Poll α)) :
    Poll.items (predicate.filterStream record stream)
      = predicate.filter record (Poll.items stream) := by
  induction stream with
  | nil => rfl
  | cons poll rest ih =>
    simp only [filterStream, filter, Poll.items] at ih ⊢
    cases poll with
    | pending => simpa [Poll.item?, List.filter_cons, List.filterMap_cons] using ih
    | ready item =>
      by_cases h : predicate.accepts (record item) <;>
        simpa [Poll.item?, List.filter_cons, List.filterMap_cons, h] using ih

end Predicate
end RecordQuery
