import Mathlib.Order.Bounds.Defs
import RecordQuery.Proofs.RepeatedCalls
import RecordQuery.Query

/-!
# What a query reads of its source

Filtering reads a source on demand. Asking for one more item reads up to the next item that is
accepted, and no further; asking for the first `n` reads the shortest part of the source that holds
`n` accepted items, or all of the source if there are not as many. A query that is refused reads
nothing, and neither does one that is asked for no item.
-/
namespace RecordQuery

universe u v

variable {R : Type u} {α : Type v}

namespace Predicate

variable (predicate : Predicate R) (record : α → R)

theorem filter_cons_of_accepts {item : α} (accepted : predicate.accepts (record item) = true)
    (rest : List α) :
    predicate.filter record (item :: rest) = item :: predicate.filter record rest := by
  simp [filter, accepted]

theorem filter_cons_of_rejects {item : α} (rejected : predicate.accepts (record item) = false)
    (rest : List α) :
    predicate.filter record (item :: rest) = predicate.filter record rest := by
  simp [filter, rejected]

@[simp] theorem take_zero (source : List α) : predicate.take record 0 source = ([], 0) := by
  simp [take]

@[simp] theorem take_nil (n : Nat) : predicate.take record n [] = ([], 0) := by
  cases n <;> simp [take]

theorem take_cons_of_accepts {item : α} (accepted : predicate.accepts (record item) = true)
    (n : Nat) (rest : List α) :
    predicate.take record (n + 1) (item :: rest)
      = (item :: (predicate.take record n rest).1, (predicate.take record n rest).2 + 1) := by
  rw [take, if_pos accepted]

theorem take_cons_of_rejects {item : α} (rejected : predicate.accepts (record item) = false)
    (n : Nat) (rest : List α) :
    predicate.take record (n + 1) (item :: rest)
      = ((predicate.take record (n + 1) rest).1, (predicate.take record (n + 1) rest).2 + 1) := by
  rw [take, if_neg (Bool.eq_false_iff.1 rejected)]

/-- What is read holds the accepted items that are given, and no other accepted item. -/
theorem filter_take_seen (n : Nat) (source : List α) :
    predicate.filter record (source.take (predicate.take record n source).2)
      = (predicate.filter record source).take n := by
  induction source generalizing n with
  | nil => simp [filter]
  | cons item rest ih =>
    cases n with
    | zero => simp [filter]
    | succ n =>
      cases accepted : predicate.accepts (record item) with
      | true =>
        rw [take_cons_of_accepts _ _ accepted, List.take_succ_cons,
          filter_cons_of_accepts _ _ accepted, filter_cons_of_accepts _ _ accepted, ih,
          List.take_succ_cons]
      | false =>
        rw [take_cons_of_rejects _ _ accepted, List.take_succ_cons,
          filter_cons_of_rejects _ _ accepted, filter_cons_of_rejects _ _ accepted, ih]

theorem seen_le (n : Nat) (source : List α) :
    (predicate.take record n source).2 ≤ source.length := by
  induction source generalizing n with
  | nil => simp
  | cons item rest ih =>
    cases n with
    | zero => simp
    | succ n =>
      cases accepted : predicate.accepts (record item) with
      | true =>
        rw [take_cons_of_accepts _ _ accepted]
        exact Nat.succ_le_succ (ih n)
      | false =>
        rw [take_cons_of_rejects _ _ accepted]
        exact Nat.succ_le_succ (ih (n + 1))

theorem length_filter_take_lt {n k : Nat} {source : List α}
    (less : k < (predicate.take record n source).2) :
    (predicate.filter record (source.take k)).length < n := by
  induction source generalizing n k with
  | nil => simp at less
  | cons item rest ih =>
    cases n with
    | zero => simp at less
    | succ n =>
      cases k with
      | zero => simp [filter]
      | succ k =>
        cases accepted : predicate.accepts (record item) with
        | true =>
          rw [take_cons_of_accepts _ _ accepted] at less
          rw [List.take_succ_cons, filter_cons_of_accepts _ _ accepted, List.length_cons]
          exact Nat.succ_lt_succ (ih (Nat.lt_of_succ_lt_succ less))
        | false =>
          rw [take_cons_of_rejects _ _ accepted] at less
          rw [List.take_succ_cons, filter_cons_of_rejects _ _ accepted]
          exact ih (Nat.lt_of_succ_lt_succ less)

theorem seen_eq_length {n : Nat} {source : List α}
    (few : (predicate.filter record source).length < n) :
    (predicate.take record n source).2 = source.length := by
  induction source generalizing n with
  | nil => simp
  | cons item rest ih =>
    cases n with
    | zero => cases few
    | succ n =>
      cases accepted : predicate.accepts (record item) with
      | true =>
        rw [filter_cons_of_accepts _ _ accepted, List.length_cons] at few
        rw [take_cons_of_accepts _ _ accepted, List.length_cons, ih (Nat.lt_of_succ_lt_succ few)]
      | false =>
        rw [filter_cons_of_rejects _ _ accepted] at few
        rw [take_cons_of_rejects _ _ accepted, List.length_cons, ih few]

/-- If there are enough accepted items, the shortest part of the source that holds as many as are
asked for is read. -/
theorem isLeast_seen {n : Nat} {source : List α}
    (enough : n ≤ (predicate.filter record source).length) :
    IsLeast {k | k ≤ source.length ∧ n ≤ (predicate.filter record (source.take k)).length}
      (predicate.take record n source).2 := by
  constructor
  · have held : (predicate.filter record
        (source.take (predicate.take record n source).2)).length = n := by
      rw [filter_take_seen, List.length_take, Nat.min_eq_left enough]
    exact ⟨predicate.seen_le record n source, Nat.le_of_eq held.symm⟩
  · rintro k ⟨-, holds⟩
    apply Nat.le_of_not_lt
    intro less
    exact absurd holds (Nat.not_le_of_lt (predicate.length_filter_take_lt record less))

/-- Asks a filtered source for its next item: the first one that is accepted, and what of the source
is not read by then. -/
def request : List α → Option α × List α
  | [] => (none, [])
  | item :: rest => if predicate.accepts (record item) then (some item, rest) else request rest

theorem request_cons_of_accepts {item : α} (accepted : predicate.accepts (record item) = true)
    (rest : List α) : predicate.request record (item :: rest) = (some item, rest) := if_pos accepted

theorem request_cons_of_rejects {item : α} (rejected : predicate.accepts (record item) = false)
    (rest : List α) :
    predicate.request record (item :: rest) = predicate.request record rest :=
  if_neg (Bool.eq_false_iff.1 rejected)

theorem calls_request_snd (n : Nat) (source : List α) :
    (calls (predicate.request record) n source).2
      = source.drop (predicate.take record n source).2 := by
  induction source generalizing n with
  | nil =>
    rw [take_nil, List.drop_nil]
    exact calls_of_stuck rfl n
  | cons item rest ih =>
    cases n with
    | zero => simp
    | succ n =>
      cases accepted : predicate.accepts (record item) with
      | true =>
        rw [calls_succ, request_cons_of_accepts _ _ accepted, take_cons_of_accepts _ _ accepted,
          List.drop_succ_cons, ih]
      | false =>
        rw [take_cons_of_rejects _ _ accepted, List.drop_succ_cons, ← ih, calls_succ, calls_succ,
          request_cons_of_rejects _ _ accepted]

/-- The accepted items come one by one, and nothing comes behind the last. -/
theorem request_calls_eq (i : Nat) (source : List α) :
    (predicate.request record (calls (predicate.request record) i source).2).1
      = (predicate.filter record source)[i]? := by
  induction source generalizing i with
  | nil =>
    rw [calls_of_stuck rfl]
    rfl
  | cons item rest ih =>
    cases accepted : predicate.accepts (record item) with
    | true =>
      rw [filter_cons_of_accepts _ _ accepted]
      cases i with
      | zero =>
        rw [calls_zero, request_cons_of_accepts _ _ accepted]
        rfl
      | succ i =>
        rw [calls_succ, request_cons_of_accepts _ _ accepted, ih, List.getElem?_cons_succ]
    | false =>
      rw [filter_cons_of_rejects _ _ accepted, ← ih]
      cases i with
      | zero => rw [calls_zero, calls_zero, request_cons_of_rejects _ _ accepted]
      | succ i => rw [calls_succ, calls_succ, request_cons_of_rejects _ _ accepted]

end Predicate

/-- A query that is refused, for its text or by the registry, reads nothing of its source. Any other
query, asked for its first `n` items, gives the first `n` of all that it would give. It reads
nothing if `n` is zero, the shortest part of the source that holds `n` accepted items if there are
as many, and otherwise all of the source. Asked for one item after the other, it gives the same and
leaves the same unread. -/
theorem Registry.queryFirst_reads_least (registry : Registry R) (text : String) (record : α → R)
    (n : Nat) (source : List α) :
    (∃ error, (Expr.parse text = .error error
          ∨ ∃ expr, Expr.parse text = .ok expr ∧ registry.bind expr = .error error)
        ∧ registry.query text record source = .error error
        ∧ registry.queryFirst text record n source = (.error error, 0))
      ∨ ∃ predicate found seen, registry.compile text = .ok predicate
        ∧ registry.query text record source = .ok found
        ∧ registry.queryFirst text record n source = (.ok (found.take n), seen)
        ∧ (n = 0 → seen = 0)
        ∧ (n ≤ found.length → IsLeast {k | k ≤ source.length ∧ ∃ held,
          registry.query text record (source.take k) = .ok held ∧ n ≤ held.length} seen)
        ∧ (found.length < n → seen = source.length)
        ∧ (∀ i < n, (calls (predicate.request record) n source).1[i]? = some found[i]?)
        ∧ (calls (predicate.request record) n source).2 = source.drop seen := by
  unfold query queryFirst
  cases compiled : registry.compile text with
  | error error =>
    refine .inl ⟨error, ?_, rfl, rfl⟩
    rw [compile] at compiled
    cases read : Expr.parse text with
    | error cause =>
      rw [read] at compiled
      exact .inl (congrArg Except.error (Except.error.inj compiled))
    | ok expr =>
      rw [read] at compiled
      exact .inr ⟨expr, rfl, compiled⟩
  | ok predicate =>
    refine .inr ⟨predicate, _, (predicate.take record n source).2, rfl, rfl, ?_, ?_, ?_, ?_, ?_, ?_⟩
    · dsimp only
      rw [predicate.take_fst]
    · rintro rfl
      rw [predicate.take_zero]
    · intro enough
      have least := predicate.isLeast_seen record enough
      simpa [Except.map] using least
    · exact predicate.seen_eq_length record
    · intro i within
      rw [getElem?_calls within, predicate.request_calls_eq]
    · exact predicate.calls_request_snd record n source

end RecordQuery
