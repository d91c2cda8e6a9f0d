import RecordQuery.Proofs.LookAhead

/-!
# Beginnings of sentences

The sentences are the token sequences of terms. What can still come behind some items is what
completes the place that they lead to, so items are the beginning of a sentence exactly if they lead
to a place.
-/
namespace RecordQuery

open Lexeme (Spelled)

/-- A token that counts as a literal: a number has to denote one. -/
def Token.IsLiteral (token : Token) : Prop :=
  token.kind = .string ∨ token.kind = .boolean ∨ token.kind = .null
    ∨ token.kind = .number ∧ Literal.ofNumber? token.text ≠ none

inductive Sentence : List Token → Prop
  | name {name last : Token} (name_kind : name.kind = .identifier)
      (last_kind : last.kind = .endOfInput) : Sentence [name, last]
  | marked {mark name last : Token} (mark_kind : mark.kind = .exclamation)
      (name_kind : name.kind = .identifier) (last_kind : last.kind = .endOfInput) :
      Sentence [mark, name, last]
  | compared {name operator literal last : Token} {op : CompareOp}
      (name_kind : name.kind = .identifier) (operator_kind : operator.kind = .comparison op)
      (is_literal : literal.IsLiteral) (last_kind : last.kind = .endOfInput) :
      Sentence [name, operator, literal, last]

/-- Items that begin a sentence. -/
def Viable (items : List (Except QueryError Token)) : Prop :=
  ∃ tokens : List Token, Sentence tokens ∧ items <+: tokens.map .ok

namespace Place

inductive Completes : Place → List Token → Prop
  | start {tokens : List Token} (sentence : Sentence tokens) : Completes start tokens
  | marked {name last : Token} (name_kind : name.kind = .identifier)
      (last_kind : last.kind = .endOfInput) : Completes marked [name, last]
  | named {field : String} {last : Token} (last_kind : last.kind = .endOfInput) :
      Completes (named field) [last]
  | operator {field : String} {operator literal last : Token} {op : CompareOp}
      (operator_kind : operator.kind = .comparison op) (is_literal : literal.IsLiteral)
      (last_kind : last.kind = .endOfInput) : Completes (named field) [operator, literal, last]
  | compared {field : String} {op : CompareOp} {literal last : Token}
      (is_literal : literal.IsLiteral) (last_kind : last.kind = .endOfInput) :
      Completes (compared field op) [literal, last]
  | closed {expr : Expr} {last : Token} (last_kind : last.kind = .endOfInput) :
      Completes (closed expr) [last]
  | done {expr : Expr} : Completes (done expr) []

end Place

/-- A literal token that was read denotes a literal, unless it is a number that is none. -/
theorem Token.literal_of_spelled {token : Token} (literal : token.kind.isLiteral = true)
    (spelled : Spelled token.kind token.text.toList) :
    (∃ value, token.literal = .ok value)
      ∨ token.kind = .number ∧ Literal.ofNumber? token.text = none
        ∧ token.literal = .error .numberFormat := by
  rcases token with ⟨kind, text, position⟩
  cases kind with
  | number =>
    cases read : Literal.ofNumber? text with
    | none =>
      refine .inr ⟨rfl, rfl, ?_⟩
      simp only [Token.literal, read]
    | some value =>
      refine .inl ⟨value, ?_⟩
      simp only [Token.literal, read]
  | string => exact .inl ⟨.text text, rfl⟩
  | boolean =>
    rcases spelled with word | word
    · obtain rfl : text = "true" := String.toList_injective word
      exact .inl ⟨.bool true, rfl⟩
    · obtain rfl : text = "false" := String.toList_injective word
      exact .inl ⟨.bool false, rfl⟩
  | null =>
    obtain rfl : text = "null" := String.toList_injective spelled
    exact .inl ⟨.null, rfl⟩
  | _ => cases literal

theorem Token.exists_literal_of_isLiteral {token : Token} (is_literal : token.IsLiteral)
    (spelled : Spelled token.kind token.text.toList) :
    token.kind.isLiteral = true ∧ ∃ value, token.literal = .ok value := by
  have literal : token.kind.isLiteral = true := by
    rcases is_literal with kind | kind | kind | ⟨kind, -⟩
    all_goals
      rw [kind]
      rfl
  refine ⟨literal, ?_⟩
  rcases Token.literal_of_spelled literal spelled with denotes | ⟨number, unread, -⟩
  · exact denotes
  · rcases is_literal with kind | kind | kind | ⟨-, read⟩
    · rw [kind] at number
      cases number
    · rw [kind] at number
      cases number
    · rw [kind] at number
      cases number
    · exact absurd unread read

theorem Token.isLiteral_of_literal {token : Token} {value : Literal}
    (literal : token.kind.isLiteral = true) (read : token.literal = .ok value) :
    token.IsLiteral := by
  rcases token with ⟨kind, text, position⟩
  cases kind with
  | string => exact .inl rfl
  | boolean => exact .inr (.inl rfl)
  | null => exact .inr (.inr (.inl rfl))
  | number =>
    refine .inr (.inr (.inr ⟨rfl, ?_⟩))
    intro number
    simp only [Token.literal, number] at read
    cases read
  | _ => cases literal

namespace Place

theorem Completes.exists_step {place : Place} {token : Token} {rest : List Token}
    (completes : place.Completes (token :: rest))
    (spelled : Spelled token.kind token.text.toList) :
    ∃ next, place.step token = .ok next ∧ next.Completes rest := by
  cases completes with
  | start sentence =>
    cases sentence with
    | name name_kind last_kind =>
      exact ⟨_, step_start_eq_ok_iff.2 (.inr ⟨name_kind, rfl⟩), .named last_kind⟩
    | marked mark_kind name_kind last_kind =>
      exact ⟨_, step_start_eq_ok_iff.2 (.inl ⟨mark_kind, rfl⟩), .marked name_kind last_kind⟩
    | compared name_kind operator_kind is_literal last_kind =>
      exact ⟨_, step_start_eq_ok_iff.2 (.inr ⟨name_kind, rfl⟩),
        .operator operator_kind is_literal last_kind⟩
  | marked name_kind last_kind =>
    exact ⟨_, step_marked_eq_ok_iff.2 ⟨name_kind, rfl⟩, .closed last_kind⟩
  | named last_kind => exact ⟨_, step_named_eq_ok_iff.2 (.inr ⟨last_kind, rfl⟩), .done⟩
  | operator operator_kind is_literal last_kind =>
    exact ⟨_, step_named_eq_ok_iff.2 (.inl ⟨_, operator_kind, rfl⟩),
      .compared is_literal last_kind⟩
  | compared is_literal last_kind =>
    rcases Token.exists_literal_of_isLiteral is_literal spelled with ⟨kind, value, read⟩
    exact ⟨_, step_compared_eq_ok_iff.2 ⟨kind, value, read, rfl⟩, .closed last_kind⟩
  | closed last_kind => exact ⟨_, step_closed_eq_ok_iff.2 ⟨last_kind, rfl⟩, .done⟩

theorem completes_cons_of_step {place next : Place} {token : Token} {rest : List Token}
    (step : place.step token = .ok next) (completes : next.Completes rest) :
    place.Completes (token :: rest) := by
  cases place with
  | start =>
    rcases step_start_eq_ok_iff.1 step with ⟨mark_kind, rfl⟩ | ⟨name_kind, rfl⟩
    · cases completes with
      | marked name_kind last_kind => exact .start (.marked mark_kind name_kind last_kind)
    · cases completes with
      | named last_kind => exact .start (.name name_kind last_kind)
      | operator operator_kind is_literal last_kind =>
        exact .start (.compared name_kind operator_kind is_literal last_kind)
  | marked =>
    rcases step_marked_eq_ok_iff.1 step with ⟨name_kind, rfl⟩
    cases completes with
    | closed last_kind => exact .marked name_kind last_kind
  | named field =>
    rcases step_named_eq_ok_iff.1 step with ⟨op, operator_kind, rfl⟩ | ⟨last_kind, rfl⟩
    · cases completes with
      | compared is_literal last_kind => exact .operator operator_kind is_literal last_kind
    · cases completes with
      | done => exact .named last_kind
  | compared field op =>
    rcases step_compared_eq_ok_iff.1 step with ⟨kind, value, read, rfl⟩
    cases completes with
    | closed last_kind => exact .compared (Token.isLiteral_of_literal kind read) last_kind
  | closed expr =>
    rcases step_closed_eq_ok_iff.1 step with ⟨last_kind, rfl⟩
    cases completes with
    | done => exact .closed last_kind
  | done expr => exact absurd step step_done_ne_ok

/-- Every place can be completed. -/
theorem exists_completes (place : Place) : ∃ rest, place.Completes rest := by
  have last_kind : (Token.mk .endOfInput "" 0).kind = .endOfInput := rfl
  have name_kind : (Token.mk .identifier "name" 0).kind = .identifier := rfl
  have is_literal : (Token.mk .null "null" 0).IsLiteral := .inr (.inr (.inl rfl))
  cases place with
  | start => exact ⟨_, .start (.name name_kind last_kind)⟩
  | marked => exact ⟨_, .marked name_kind last_kind⟩
  | named field => exact ⟨_, .named last_kind⟩
  | compared field op => exact ⟨_, .compared is_literal last_kind⟩
  | closed expr => exact ⟨_, .closed last_kind⟩
  | done expr => exact ⟨_, .done⟩

theorem Completes.exists_run {place : Place} {tokens rest : List Token}
    (completes : place.Completes (tokens ++ rest))
    (spelled : ∀ token ∈ tokens, Spelled token.kind token.text.toList) :
    ∃ next, place.run (tokens.map .ok) = .ok next := by
  induction tokens generalizing place with
  | nil => exact ⟨place, rfl⟩
  | cons token tokens ih =>
    rcases completes.exists_step (spelled token (by simp)) with ⟨next, step, completes⟩
    rcases ih completes (fun other mem => spelled other (by simp [mem])) with ⟨last, run⟩
    refine ⟨last, ?_⟩
    rw [List.map_cons, run_cons_of_step step, run]

theorem exists_completes_of_run {place next : Place} {items : List (Except QueryError Token)}
    (h : place.run items = .ok next) {rest : List Token} (completes : next.Completes rest) :
    ∃ tokens : List Token, items = tokens.map .ok ∧ place.Completes (tokens ++ rest) := by
  induction items generalizing place with
  | nil =>
    cases h
    exact ⟨[], rfl, completes⟩
  | cons item items ih =>
    cases item with
    | error error => cases h
    | ok token =>
      rcases run_cons_eq_ok_iff.1 h with ⟨behind, step, h⟩
      rcases ih h with ⟨tokens, rfl, completes⟩
      exact ⟨token :: tokens, rfl, completes_cons_of_step step completes⟩

end Place

/-- Items begin a sentence exactly if they lead to a place. -/
theorem viable_iff_exists_run {items : List (Except QueryError Token)}
    (spelled : ∀ token : Token, .ok token ∈ items → Spelled token.kind token.text.toList) :
    Viable items ↔ ∃ place, Place.start.run items = .ok place := by
  constructor
  · rintro ⟨sentence, is_sentence, rest, split⟩
    rcases List.append_eq_map_iff.1 split with ⟨tokens, more, rfl, rfl, -⟩
    apply Place.Completes.exists_run (.start is_sentence)
    intro token mem
    exact spelled token (List.mem_map_of_mem mem)
  · rintro ⟨place, run⟩
    rcases place.exists_completes with ⟨rest, completes⟩
    rcases Place.exists_completes_of_run run completes with ⟨tokens, rfl, whole⟩
    cases whole with
    | start sentence =>
      refine ⟨tokens ++ rest, sentence, ?_⟩
      rw [List.map_append]
      exact List.prefix_append _ _

end RecordQuery
