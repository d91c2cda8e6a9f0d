import RecordQuery.Expr.Basic
import RecordQuery.Token.Literal

/-!
# Places in a term

A term is read by going from place to place, one token at a time, and the first item without a step
from its place is the refusal. The places lead to the end of a term exactly along the tokens of the
term.
-/
namespace RecordQuery

/-- How much of a term has been read. -/
inductive Place
  | start
  | marked
  | named (field : String)
  | compared (field : String) (op : CompareOp)
  | closed (expr : Expr)
  | done (expr : Expr)

namespace Place

/-- The place behind one more token. -/
def step : Place → Token → Except QueryError Place
  | start, token =>
    match token.kind with
    | .exclamation => .ok marked
    | .identifier => .ok (named token.text)
    | _ => .error (.unexpected .term token)
  | marked, token =>
    match token.kind with
    | .identifier => .ok (closed (.negation token.text))
    | _ => .error (.unexpected .fieldName token)
  | named field, token =>
    match token.kind with
    | .comparison op => .ok (compared field op)
    | .endOfInput => .ok (done (.booleanTest field))
    | _ => .error (.unexpected .endOfInput token)
  | compared field op, token =>
    if token.kind.isLiteral then
      token.literal.map fun literal => closed (.comparison field op literal)
    else .error (.unexpected (.literalAfter op) token)
  | closed expr, token =>
    match token.kind with
    | .endOfInput => .ok (done expr)
    | _ => .error (.unexpected .endOfInput token)
  | done _, token => .error (.unexpected .endOfInput token)

def run (place : Place) : List (Except QueryError Token) → Except QueryError Place
  | [] => .ok place
  | .ok token :: items => (place.step token).bind fun next => next.run items
  | .error error :: _ => .error error

theorem run_cons_of_step {place next : Place} {token : Token} (h : place.step token = .ok next)
    (items : List (Except QueryError Token)) :
    place.run (.ok token :: items) = next.run items := by
  rw [run, h]
  rfl

theorem run_cons_of_refusal {place : Place} {token : Token} {error : QueryError}
    (h : place.step token = .error error) (items : List (Except QueryError Token)) :
    place.run (.ok token :: items) = .error error := by
  rw [run, h]
  rfl

theorem run_cons_eq_ok_iff {place next : Place} {token : Token}
    {items : List (Except QueryError Token)} :
    place.run (.ok token :: items) = .ok next ↔
      ∃ behind, place.step token = .ok behind ∧ behind.run items = .ok next := by
  constructor
  · intro h
    rcases step : place.step token with error | behind
    · rw [run_cons_of_refusal step] at h
      cases h
    · rw [run_cons_of_step step] at h
      exact ⟨behind, rfl, h⟩
  · rintro ⟨behind, step, h⟩
    rw [run_cons_of_step step, h]

theorem run_append (place : Place) (front rest : List (Except QueryError Token)) :
    place.run (front ++ rest) = (place.run front).bind fun middle => middle.run rest := by
  induction front generalizing place with
  | nil => rfl
  | cons item front ih =>
    cases item with
    | error error => rfl
    | ok token =>
      rw [List.cons_append, run, run]
      rcases place.step token with error | next
      · rfl
      · exact ih next

theorem run_append_of_run {place middle : Place} {front : List (Except QueryError Token)}
    (h : place.run front = .ok middle) (rest : List (Except QueryError Token)) :
    place.run (front ++ rest) = middle.run rest := by
  rw [run_append, h]
  rfl

theorem exists_run_of_append {place next : Place} {front rest : List (Except QueryError Token)}
    (h : place.run (front ++ rest) = .ok next) :
    ∃ middle, place.run front = .ok middle ∧ middle.run rest = .ok next := by
  rcases found : place.run front with error | middle
  · rw [run_append, found] at h
    cases h
  · rw [run_append_of_run found] at h
    exact ⟨middle, rfl, h⟩

theorem step_start_eq_ok_iff {token : Token} {next : Place} :
    start.step token = .ok next ↔
      token.kind = .exclamation ∧ next = marked
        ∨ token.kind = .identifier ∧ next = named token.text := by
  rw [step]
  constructor
  · intro h
    split at h
    · rename_i kind
      cases h
      exact .inl ⟨kind, rfl⟩
    · rename_i kind
      cases h
      exact .inr ⟨kind, rfl⟩
    · cases h
  · rintro (⟨kind, rfl⟩ | ⟨kind, rfl⟩)
    · rw [kind]
    · rw [kind]

theorem step_marked_eq_ok_iff {token : Token} {next : Place} :
    marked.step token = .ok next ↔
      token.kind = .identifier ∧ next = closed (.negation token.text) := by
  rw [step]
  constructor
  · intro h
    split at h
    · rename_i kind
      cases h
      exact ⟨kind, rfl⟩
    · cases h
  · rintro ⟨kind, rfl⟩
    rw [kind]

theorem step_named_eq_ok_iff {field : String} {token : Token} {next : Place} :
    (named field).step token = .ok next ↔
      (∃ op, token.kind = .comparison op ∧ next = compared field op)
        ∨ token.kind = .endOfInput ∧ next = done (.booleanTest field) := by
  rw [step]
  constructor
  · intro h
    split at h
    · rename_i op kind
      cases h
      exact .inl ⟨op, kind, rfl⟩
    · rename_i kind
      cases h
      exact .inr ⟨kind, rfl⟩
    · cases h
  · rintro (⟨op, kind, rfl⟩ | ⟨kind, rfl⟩)
    · rw [kind]
    · rw [kind]

theorem step_compared_eq_ok_iff {field : String} {op : CompareOp} {token : Token} {next : Place} :
    (compared field op).step token = .ok next ↔
      token.kind.isLiteral = true
        ∧ ∃ value, token.literal = .ok value ∧ next = closed (.comparison field op value) := by
  rw [step]
  constructor
  · intro h
    split at h
    · rename_i literal
      rcases read : token.literal with error | value
      · rw [read] at h
        cases h
      · rw [read] at h
        cases h
        exact ⟨literal, value, rfl, rfl⟩
    · cases h
  · rintro ⟨literal, value, read, rfl⟩
    rw [if_pos literal, read]
    rfl

theorem step_closed_eq_ok_iff {expr : Expr} {token : Token} {next : Place} :
    (closed expr).step token = .ok next ↔ token.kind = .endOfInput ∧ next = done expr := by
  rw [step]
  constructor
  · intro h
    split at h
    · rename_i kind
      cases h
      exact ⟨kind, rfl⟩
    · cases h
  · rintro ⟨kind, rfl⟩
    rw [kind]

theorem step_done_ne_ok {expr : Expr} {token : Token} {next : Place} :
    (done expr).step token ≠ .ok next := by
  intro h
  cases h

end Place

/-- The tokens of a term and its end. -/
inductive ReadsAs : List Token → Expr → Prop
  | booleanTest {name last : Token} (name_kind : name.kind = .identifier)
      (last_kind : last.kind = .endOfInput) : ReadsAs [name, last] (.booleanTest name.text)
  | negation {mark name last : Token} (mark_kind : mark.kind = .exclamation)
      (name_kind : name.kind = .identifier) (last_kind : last.kind = .endOfInput) :
      ReadsAs [mark, name, last] (.negation name.text)
  | comparison {name operator literal last : Token} {op : CompareOp} {value : Literal}
      (name_kind : name.kind = .identifier) (operator_kind : operator.kind = .comparison op)
      (literal_kind : literal.kind.isLiteral = true) (read : literal.literal = .ok value)
      (last_kind : last.kind = .endOfInput) :
      ReadsAs [name, operator, literal, last] (.comparison name.text op value)

namespace Place

/-- A run that gets to the end of a term from a place before it takes a step. -/
theorem exists_step_of_run {place next : Place} {items : List (Except QueryError Token)}
    (h : place.run items = .ok next) (ne : next ≠ place) :
    ∃ token rest behind, items = .ok token :: rest ∧ place.step token = .ok behind
      ∧ behind.run rest = .ok next := by
  cases items with
  | nil =>
    cases h
    exact absurd rfl ne
  | cons item rest =>
    cases item with
    | error error => cases h
    | ok token =>
      rcases run_cons_eq_ok_iff.1 h with ⟨behind, step, h⟩
      exact ⟨token, rest, behind, rfl, step, h⟩

theorem eq_of_run_done {expr : Expr} {next : Place} {items : List (Except QueryError Token)}
    (h : (done expr).run items = .ok next) : items = [] ∧ next = done expr := by
  rcases items with _ | ⟨error | token, items⟩
  · cases h
    exact ⟨rfl, rfl⟩
  · cases h
  · cases h

theorem eq_of_run_closed {expr found : Expr} {items : List (Except QueryError Token)}
    (h : (closed expr).run items = .ok (done found)) :
    ∃ last : Token, items = [.ok last] ∧ last.kind = .endOfInput ∧ found = expr := by
  rcases exists_step_of_run h Place.noConfusion with ⟨last, rest, behind, rfl, step, h⟩
  rcases step_closed_eq_ok_iff.1 step with ⟨kind, rfl⟩
  rcases eq_of_run_done h with ⟨rfl, same⟩
  cases same
  exact ⟨last, rfl, kind, rfl⟩

theorem eq_of_run_named {field : String} {found : Expr} {items : List (Except QueryError Token)}
    (h : (named field).run items = .ok (done found)) :
    (∃ last : Token, items = [.ok last] ∧ last.kind = .endOfInput
        ∧ found = .booleanTest field)
      ∨ ∃ (operator literal last : Token) (op : CompareOp) (value : Literal),
        items = [.ok operator, .ok literal, .ok last] ∧ operator.kind = .comparison op
          ∧ literal.kind.isLiteral = true ∧ literal.literal = .ok value
          ∧ last.kind = .endOfInput ∧ found = .comparison field op value := by
  rcases exists_step_of_run h Place.noConfusion with ⟨first, rest, behind, rfl, step, h⟩
  rcases step_named_eq_ok_iff.1 step with ⟨op, operator_kind, rfl⟩ | ⟨last_kind, rfl⟩
  · right
    rcases exists_step_of_run h Place.noConfusion with ⟨literal, rest, behind, rfl, step, h⟩
    rcases step_compared_eq_ok_iff.1 step with ⟨literal_kind, value, read, rfl⟩
    rcases eq_of_run_closed h with ⟨last, rfl, last_kind, same⟩
    exact ⟨first, literal, last, op, value, rfl, operator_kind, literal_kind, read, last_kind, same⟩
  · left
    rcases eq_of_run_done h with ⟨rfl, same⟩
    cases same
    exact ⟨first, rfl, last_kind, rfl⟩

theorem exists_readsAs_of_run {items : List (Except QueryError Token)} {expr : Expr}
    (h : start.run items = .ok (done expr)) :
    ∃ tokens : List Token, items = tokens.map .ok ∧ ReadsAs tokens expr := by
  rcases exists_step_of_run h Place.noConfusion with ⟨first, rest, behind, rfl, step, h⟩
  rcases step_start_eq_ok_iff.1 step with ⟨mark_kind, rfl⟩ | ⟨name_kind, rfl⟩
  · rcases exists_step_of_run h Place.noConfusion with ⟨name, rest, behind, rfl, step, h⟩
    rcases step_marked_eq_ok_iff.1 step with ⟨name_kind, rfl⟩
    rcases eq_of_run_closed h with ⟨last, rfl, last_kind, rfl⟩
    exact ⟨[first, name, last], rfl, .negation mark_kind name_kind last_kind⟩
  · rcases eq_of_run_named h with ⟨last, rfl, last_kind, rfl⟩
      | ⟨operator, literal, last, op, value, rfl, operator_kind, literal_kind, read, last_kind, rfl⟩
    · exact ⟨[first, last], rfl, .booleanTest name_kind last_kind⟩
    · exact ⟨[first, operator, literal, last], rfl,
        .comparison name_kind operator_kind literal_kind read last_kind⟩

theorem run_closed_last {expr : Expr} {last : Token} (last_kind : last.kind = .endOfInput) :
    (closed expr).run [.ok last] = .ok (done expr) := by
  rw [run_cons_of_step (step_closed_eq_ok_iff.2 ⟨last_kind, rfl⟩)]
  rfl

theorem run_of_readsAs {tokens : List Token} {expr : Expr} (h : ReadsAs tokens expr) :
    start.run (tokens.map .ok) = .ok (done expr) := by
  cases h with
  | booleanTest name_kind last_kind =>
    rw [List.map_cons, run_cons_of_step (step_start_eq_ok_iff.2 (.inr ⟨name_kind, rfl⟩)),
      List.map_cons, run_cons_of_step (step_named_eq_ok_iff.2 (.inr ⟨last_kind, rfl⟩))]
    rfl
  | negation mark_kind name_kind last_kind =>
    rw [List.map_cons, run_cons_of_step (step_start_eq_ok_iff.2 (.inl ⟨mark_kind, rfl⟩)),
      List.map_cons, run_cons_of_step (step_marked_eq_ok_iff.2 ⟨name_kind, rfl⟩)]
    exact run_closed_last last_kind
  | comparison name_kind operator_kind literal_kind read last_kind =>
    rw [List.map_cons, run_cons_of_step (step_start_eq_ok_iff.2 (.inr ⟨name_kind, rfl⟩)),
      List.map_cons, run_cons_of_step (step_named_eq_ok_iff.2 (.inl ⟨_, operator_kind, rfl⟩)),
      List.map_cons,
      run_cons_of_step (step_compared_eq_ok_iff.2 ⟨literal_kind, _, read, rfl⟩)]
    exact run_closed_last last_kind

/-- The places lead to the end of a term exactly along the tokens of the term. -/
theorem run_start_eq_done_iff {items : List (Except QueryError Token)} {expr : Expr} :
    start.run items = .ok (done expr) ↔
      ∃ tokens : List Token, items = tokens.map .ok ∧ ReadsAs tokens expr := by
  constructor
  · exact exists_readsAs_of_run
  · rintro ⟨tokens, rfl, h⟩
    exact run_of_readsAs h

end Place

end RecordQuery
