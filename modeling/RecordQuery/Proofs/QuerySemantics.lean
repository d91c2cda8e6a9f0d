import RecordQuery.Proofs.DocumentNumbers
import RecordQuery.Proofs.TermMeaning
import RecordQuery.Query

/-!
# What a query returns

The whole way from declared fields and a query text to the items that are returned. A query is
refused for its text, for its name or for the first field of the name that its term does not suit.
Any other query returns the items of the source whose record the term accepts by way of one of the
fields that the name refers to, in their order and as often as they occur, whether the source is a
list or a stream and whether it is filtered at once or by a predicate compiled before.
-/
namespace RecordQuery

universe v

variable {R : Type} {α : Type v}

/-- A number of a document contributes the number that it says, if a decimal has that value, and
otherwise nothing. -/
theorem Json.readings_number (n : Json.Number) :
    (∃ value, readings (some (.number n)) = [value] ∧ value.number? = some n.stated)
      ∨ readings (some (.number n)) = [] ∧ ∀ d : Decimal, d.toRat ≠ n.stated := by
  cases read : n.value? with
  | some value =>
    refine .inl ⟨value, ?_, Number.number?_of_value? read⟩
    rw [readings, read, Option.toList_some]
  | none =>
    refine .inr ⟨by rw [readings, read, Option.toList_none], fun d same => ?_⟩
    obtain ⟨value, found⟩ := Number.exists_value?_iff.2 ⟨d, same⟩
    rw [read] at found
    cases found

namespace Registration

def fields (registrations : List (Registration R)) (expr : Expr) : List (Declaration R) :=
  Declaration.resolved expr.field (registrations.flatMap declarations)

def Suits (registrations : List (Registration R)) (expr : Expr) : Prop :=
  fields registrations expr ≠ []
    ∧ ∀ declaration ∈ fields registrations expr,
      ∃ test, declaration.mapping.type.bind expr = .ok test

def accepted (registrations : List (Registration R)) (expr : Expr) (record : α → R)
    (items : List α) : List α :=
  items.filter fun item =>
    ∃ declaration ∈ fields registrations expr, declaration.Accepts expr (record item)

/-- Why a query text is refused. -/
inductive Refuses (registrations : List (Registration R)) (text : String) : QueryError → Prop
  | malformed {error : QueryError} (unreadable : Expr.parse text = .error error) :
      Refuses registrations text error
  | unknown {expr : Expr} (read : Expr.parse text = .ok expr)
      (none : fields registrations expr = []) :
      Refuses registrations text (.unknownField expr.field)
  | unsuitable {expr : Expr} {before after : List (Declaration R)} {declaration : Declaration R}
      {mismatch : Mismatch} (read : Expr.parse text = .ok expr)
      (split : fields registrations expr = before ++ declaration :: after)
      (suited : ∀ earlier ∈ before, ∃ test, earlier.mapping.type.bind expr = .ok test)
      (refused : declaration.mapping.type.bind expr = .error mismatch) :
      Refuses registrations text (.typeMismatch expr.field mismatch)

theorem any_holds_iff_accepts {declarations : List (Declaration R)} {expr : Expr}
    {bound : List (BoundField R)}
    (each : List.Forall₂ (fun mapping field => mapping.bind expr = .ok field)
      (declarations.map Declaration.mapping) bound) (record : R) :
    (bound.any fun field => field.holds record) = true
      ↔ ∃ declaration ∈ declarations, declaration.Accepts expr record := by
  induction declarations generalizing bound with
  | nil =>
    cases each
    simp
  | cons declaration rest ih =>
    rcases List.forall₂_cons_left_iff.1 each with ⟨field, others, first, later, rfl⟩
    rw [List.any_cons, Bool.or_eq_true, Declaration.holds_iff_accepts first record, ih later,
      List.exists_mem_cons_iff]

theorem accepts_iff_of_bind {registrations : List (Registration R)} {expr : Expr}
    {predicate : Predicate R} (bound : (registry registrations).bind expr = .ok predicate)
    (record : R) :
    predicate.accepts record = true
      ↔ ∃ declaration ∈ fields registrations expr, declaration.Accepts expr record := by
  obtain ⟨mappings, bound', resolved, each, rfl⟩ := Registry.bind_eq_ok_iff.1 bound
  rw [resolve_registry, nonempty?_eq_some_iff] at resolved
  rw [← resolved.1] at each
  exact any_holds_iff_accepts each record

theorem resolve_of_suits {registrations : List (Registration R)} {expr : Expr}
    (suits : Suits registrations expr) :
    (registry registrations).resolve expr.field
      = some ((fields registrations expr).map Declaration.mapping) := by
  rw [resolve_registry, nonempty?_eq_some_iff]
  exact ⟨rfl, by simpa using suits.1⟩

/-- Binding a term to a registry fails for its name or for the first field that it does not suit,
and otherwise gives a predicate for the records that the term accepts. -/
theorem bind_registry (registrations : List (Registration R)) {text : String} {expr : Expr}
    (read : Expr.parse text = .ok expr) :
    (∃ error, Refuses registrations text error
        ∧ (registry registrations).bind expr = .error error)
      ∨ (Suits registrations expr
        ∧ ∃ predicate, (registry registrations).bind expr = .ok predicate
        ∧ ∀ record, predicate.accepts record = true
          ↔ ∃ declaration ∈ fields registrations expr, declaration.Accepts expr record) := by
  have resolves : (registry registrations).resolve expr.field
      = nonempty? ((fields registrations expr).map Declaration.mapping) :=
    resolve_registry registrations expr.field
  by_cases none : fields registrations expr = []
  · rw [none] at resolves
    refine .inl ⟨_, .unknown read none, ?_⟩
    rw [Registry.bind, resolves]
    rfl
  · have found : (registry registrations).resolve expr.field
        = some ((fields registrations expr).map Declaration.mapping) := by
      rw [resolves, nonempty?_eq_some_iff]
      exact ⟨rfl, by simpa using none⟩
    cases bound : FieldMapping.bindAll expr
        ((fields registrations expr).map Declaration.mapping) with
    | error mismatch =>
      obtain ⟨before, mapping, after, split, suited, refused⟩ :=
        FieldMapping.bindAll_eq_error_iff.1 bound
      rcases List.map_eq_append_iff.1 split with ⟨before', after', whole, rfl, split'⟩
      rcases List.map_eq_cons_iff.1 split' with ⟨declaration, after', rfl, rfl, rfl⟩
      refine .inl ⟨_, .unsuitable read whole ?_ (FieldMapping.bind_eq_error_iff.1 refused), ?_⟩
      · intro earlier mem
        rcases suited _ (List.mem_map_of_mem mem) with ⟨field, ok⟩
        rcases FieldMapping.bind_eq_ok_iff.1 ok with ⟨test, typed, -⟩
        exact ⟨test, typed⟩
      · rw [Registry.bind, found]
        simp only [bound]
    | ok bound' =>
      have each := FieldMapping.bindAll_eq_ok_iff.1 bound
      refine .inr ⟨⟨none, ?_⟩, ⟨expr, bound'⟩, ?_, any_holds_iff_accepts each⟩
      · intro declaration mem
        rcases FieldMapping.exists_bind_of_mem each (List.mem_map_of_mem mem) with ⟨field, ok⟩
        rcases FieldMapping.bind_eq_ok_iff.1 ok with ⟨test, typed, -⟩
        exact ⟨test, typed⟩
      · rw [Registry.bind, found]
        simp only [bound]

theorem filter_eq_accepted {registrations : List (Registration R)} {expr : Expr}
    {predicate : Predicate R}
    (exactly : ∀ record, predicate.accepts record = true
      ↔ ∃ declaration ∈ fields registrations expr, declaration.Accepts expr record)
    (record : α → R) (items : List α) :
    predicate.filter record items = accepted registrations expr record items := by
  unfold Predicate.filter accepted
  apply List.filter_congr
  intro item _
  rw [Bool.eq_iff_iff, exactly, decide_eq_true_iff]

/-- A query over declared fields is refused, in every form and for the same cause, or returns in
every form exactly the items whose record its term accepts by way of one of the fields of its name. -/
theorem query_returns_accepted (registrations : List (Registration R)) (text : String)
    (record : α → R) (source : List α) (stream : List (Poll α)) :
    (∃ error, Refuses registrations text error
        ∧ (registry registrations).compile text = .error error
        ∧ (registry registrations).query text record source = .error error
        ∧ (registry registrations).queryStream text record stream = .error error)
      ∨ ∃ expr predicate found, Expr.parse text = .ok expr ∧ Suits registrations expr
        ∧ (registry registrations).resolve expr.field
          = some ((fields registrations expr).map Declaration.mapping)
        ∧ (registry registrations).compile text = .ok predicate
        ∧ (registry registrations).query text record source
          = .ok (accepted registrations expr record source)
        ∧ predicate.filter record source = accepted registrations expr record source
        ∧ (registry registrations).queryStream text record stream = .ok found
        ∧ Poll.items found = accepted registrations expr record (Poll.items stream)
        ∧ Poll.items (predicate.filterStream record stream)
          = accepted registrations expr record (Poll.items stream) := by
  unfold Registry.query Registry.queryStream Registry.compile
  cases read : Expr.parse text with
  | error error => exact .inl ⟨error, .malformed read, rfl, rfl, rfl⟩
  | ok expr =>
    rcases bind_registry registrations read with
      ⟨error, refused, failed⟩ | ⟨suits, predicate, bound, exactly⟩
    · refine .inl ⟨error, refused, ?_⟩
      simp only [Except.bind, failed, Except.map, and_self]
    · have filtered := filter_eq_accepted exactly record
      have streamed : Poll.items (predicate.filterStream record stream)
          = accepted registrations expr record (Poll.items stream) := by
        rw [Predicate.items_filterStream, filtered]
      refine .inr ⟨expr, predicate, predicate.filterStream record stream, rfl, suits,
        resolve_of_suits suits, bound, ?_, filtered source, ?_, streamed, streamed⟩
      · simp only [Except.bind, bound, Except.map, filtered]
      · simp only [Except.bind, bound, Except.map]

end Registration
end RecordQuery
