import RecordQuery.Proofs.Sentence

/-!
# The refusal of the first offence

The items of a text offend where they stop being the beginning of a sentence. A text is refused
exactly if its items offend, the refusal is the one that the first offending item calls for, and
nothing behind that item matters.
-/
namespace RecordQuery

open Lexeme (Spelled)

def lastKind? (items : List (Except QueryError Token)) : Option TokenKind :=
  match items.getLast? with
  | some (.ok token) => some token.kind
  | _ => none

/-- What messages say should have come behind a token of the kind, or at the start. -/
def phraseBehind : Option TokenKind → String
  | none => "a field name or '!'"
  | some .exclamation => "a field name"
  | some (.comparison op) => "a literal after '" ++ op.symbol ++ "'"
  | some _ => "end of input"

/-- How messages mention a token: the end of the input by name, any other token by its text. -/
def mention (token : Token) : String :=
  if token.kind = .endOfInput then "end of input" else "'" ++ token.text ++ "'"

theorem Token.describe_eq_mention (token : Token) : token.describe = mention token := by
  rcases token with ⟨kind, text, position⟩
  cases kind <;> rfl

def IsNumberBehind (before : Option TokenKind) (token : Token) : Prop :=
  (∃ op, before = some (.comparison op)) ∧ token.kind = .number

/-- The refusal that an offending item calls for behind a token of the given kind. -/
inductive CallsFor (before : Option TokenKind) : Except QueryError Token → QueryError → Prop
  | item (error : QueryError) : CallsFor before (.error error) error
  | number {token : Token} (is_number : IsNumberBehind before token)
      (unread : Literal.ofNumber? token.text = none) : CallsFor before (.ok token) .numberFormat
  | token {token : Token} {fault : Fault} (other : ¬IsNumberBehind before token)
      (detail : fault.detail = "Expected " ++ phraseBehind before ++ ", got " ++ mention token) :
      CallsFor before (.ok token) (.malformed fault token.position)

namespace Place

def expectation : Place → Expectation
  | start => .term
  | marked => .fieldName
  | compared _ op => .literalAfter op
  | named _ | closed _ | done _ => .endOfInput

/-- The kind of the token that leads to a place, if it matters. -/
def Behind (before : Option TokenKind) (place : Place) : Prop :=
  phraseBehind before = place.expectation.phrase
    ∧ ∀ op, before = some (.comparison op) ↔ ∃ field, place = compared field op

theorem behind_of_step {place next : Place} {token : Token} (step : place.step token = .ok next) :
    Behind (some token.kind) next := by
  cases place with
  | start =>
    rcases step_start_eq_ok_iff.1 step with ⟨kind, rfl⟩ | ⟨kind, rfl⟩
    · rw [kind]
      exact ⟨rfl, by simp⟩
    · rw [kind]
      exact ⟨rfl, by simp⟩
  | marked =>
    rcases step_marked_eq_ok_iff.1 step with ⟨kind, rfl⟩
    rw [kind]
    exact ⟨rfl, by simp⟩
  | named field =>
    rcases step_named_eq_ok_iff.1 step with ⟨op, kind, rfl⟩ | ⟨kind, rfl⟩
    · rw [kind]
      exact ⟨rfl, by simp⟩
    · rw [kind]
      exact ⟨rfl, by simp⟩
  | compared field op =>
    rcases step_compared_eq_ok_iff.1 step with ⟨literal, value, -, rfl⟩
    cases kind : token.kind with
    | number | string | boolean | null => exact ⟨rfl, by simp⟩
    | _ =>
      rw [kind] at literal
      cases literal
  | closed expr =>
    rcases step_closed_eq_ok_iff.1 step with ⟨kind, rfl⟩
    rw [kind]
    exact ⟨rfl, by simp⟩
  | done expr => exact absurd step step_done_ne_ok

theorem behind_of_run {place : Place} {items : List (Except QueryError Token)}
    (h : start.run items = .ok place) : Behind (lastKind? items) place := by
  -- only the last step matters, so the items are split at their end
  rcases List.eq_nil_or_concat items with rfl | ⟨front, item, rfl⟩
  · cases h
    exact ⟨rfl, by simp [lastKind?]⟩
  · rw [List.concat_eq_append] at h ⊢
    rcases exists_run_of_append h with ⟨middle, -, last⟩
    cases item with
    | error error => cases last
    | ok token =>
      rcases run_cons_eq_ok_iff.1 last with ⟨behind, step, same⟩
      cases same
      rw [lastKind?, List.getLast?_concat]
      exact behind_of_step step

theorem unread_of_literal {token : Token} {error : QueryError}
    (spelled : Spelled token.kind token.text.toList) (literal : token.kind.isLiteral = true)
    (h : token.literal = .error error) :
    token.kind = .number ∧ Literal.ofNumber? token.text = none ∧ error = .numberFormat := by
  rcases Token.literal_of_spelled literal spelled with ⟨value, read⟩ | ⟨number, unread, refused⟩
  · rw [h] at read
    cases read
  · rw [h] at refused
    cases refused
    exact ⟨number, unread, rfl⟩

/-- A token without a step is not what the place expects, or it is a literal that is none. -/
theorem refusal_of_step {place : Place} {token : Token} {error : QueryError}
    (h : place.step token = .error error) :
    (error = .unexpected place.expectation token
        ∧ ∀ field op, place = compared field op → token.kind.isLiteral = false)
      ∨ ∃ field op, place = compared field op ∧ token.kind.isLiteral = true
        ∧ token.literal = .error error := by
  cases place with
  | compared field op =>
    rw [step] at h
    split at h
    · rename_i literal
      right
      refine ⟨field, op, rfl, literal, ?_⟩
      rcases read : token.literal with found | value
      · rw [read] at h
        cases h
        rfl
      · rw [read] at h
        cases h
    · rename_i other
      left
      cases h
      refine ⟨rfl, ?_⟩
      intro _ _ _
      exact Bool.not_eq_true _ ▸ other
  | done expr =>
    left
    cases h
    refine ⟨rfl, ?_⟩
    intro field op same
    cases same
  | _ =>
    left
    rw [step] at h
    split at h <;> cases h
    refine ⟨rfl, ?_⟩
    intro field op same
    cases same

theorem callsFor_of_step {place : Place} {before : Option TokenKind} {token : Token}
    {error : QueryError} (behind : Behind before place)
    (spelled : Spelled token.kind token.text.toList) (h : place.step token = .error error) :
    CallsFor before (.ok token) error := by
  rcases behind with ⟨phrase, operator⟩
  rcases refusal_of_step h with ⟨rfl, no_literal⟩ | ⟨field, op, rfl, literal, refused⟩
  · refine .token ?_ ?_
    · rintro ⟨⟨op, same⟩, number⟩
      rcases (operator op).1 same with ⟨field, place_eq⟩
      have none := no_literal field op place_eq
      rw [number] at none
      cases none
    · rw [phrase, ← token.describe_eq_mention]
      rfl
  · rcases unread_of_literal spelled literal refused with ⟨number, unread, rfl⟩
    exact .number ⟨⟨op, (operator op).2 ⟨field, rfl⟩⟩, number⟩ unread

end Place

theorem viable_iff_exists_place {text : String} {front : List (Except QueryError Token)}
    (within : front <+: tokenize text) :
    Viable front ↔ ∃ place, Place.start.run front = .ok place := by
  apply viable_iff_exists_run
  intro token mem
  exact Lexer.spelled_of_mem_items (within.subset mem)

theorem Expr.exists_error_iff_not_viable (text : String) :
    (∃ error, Expr.parse text = .error error) ↔ ¬Viable (tokenize text) := by
  rw [viable_iff_exists_place (List.prefix_refl _), ← Expr.map_done_parse]
  rcases Expr.parse text with error | expr
  · constructor
    · rintro - ⟨place, same⟩
      cases same
    · intro _
      exact ⟨error, rfl⟩
  · constructor
    · rintro ⟨error, same⟩
      cases same
    · intro none
      exact absurd ⟨_, rfl⟩ none

theorem Viable.front {front items : List (Except QueryError Token)} (h : Viable items)
    (within : front <+: items) : Viable front := by
  rcases h with ⟨tokens, sentence, whole⟩
  exact ⟨tokens, sentence, within.trans whole⟩

theorem viable_nil : Viable [] := by
  rcases Place.start.exists_completes with ⟨rest, completes⟩
  cases completes with
  | start sentence => exact ⟨rest, sentence, List.nil_prefix⟩

/-- The first offending item decides the result, whatever comes behind it. -/
theorem Expr.parse_of_offence {text : String} {front rest : List (Except QueryError Token)}
    {item : Except QueryError Token} (split : tokenize text = front ++ item :: rest)
    (viable : Viable front) (offends : ¬Viable (front ++ [item])) :
    ∃ error, CallsFor (lastKind? front) item error
      ∧ ∀ other behind, tokenize other = front ++ item :: behind →
        Expr.parse other = .error error := by
  have within : front ++ [item] <+: tokenize text := by
    refine ⟨rest, ?_⟩
    rw [split, List.append_assoc]
    rfl
  have before : front <+: tokenize text := (List.prefix_append _ _).trans within
  rcases (viable_iff_exists_place before).1 viable with ⟨place, run⟩
  have refused {error : QueryError} (h : ∀ behind, place.run (item :: behind) = .error error) :
      ∀ other behind, tokenize other = front ++ item :: behind →
        Expr.parse other = .error error := by
    intro other behind same
    rw [Expr.parse_eq_iff_run, same, Place.run_append_of_run run]
    exact h behind
  cases item with
  | error error => exact ⟨error, .item error, refused fun _ => rfl⟩
  | ok token =>
    rcases step : place.step token with error | next
    · have spelled : Spelled token.kind token.text.toList := by
        apply Lexer.spelled_of_mem_items
        exact within.subset (by simp)
      exact ⟨error, Place.callsFor_of_step (Place.behind_of_run run) spelled step,
        refused (Place.run_cons_of_refusal step)⟩
    · refine absurd ((viable_iff_exists_place within).2 ⟨next, ?_⟩) offends
      rw [Place.run_append_of_run run, Place.run_cons_of_step step]
      rfl

theorem Place.exists_step_of_run_eq_error {place : Place} {error : QueryError}
    {items : List (Except QueryError Token)} (h : place.run items = .error error) :
    .error error ∈ items ∨ ∃ (before : Place) (token : Token), before.step token = .error error
      ∧ .ok token ∈ items := by
  induction items generalizing place with
  | nil => cases h
  | cons item items ih =>
    cases item with
    | error found =>
      cases h
      exact .inl (by simp)
    | ok token =>
      rcases step : place.step token with found | next
      · rw [run_cons_of_refusal step] at h
        cases h
        exact .inr ⟨place, token, step, by simp⟩
      · rw [run_cons_of_step step] at h
        rcases ih h with mem | ⟨before, other, refused, mem⟩
        · exact .inl (List.mem_cons_of_mem _ mem)
        · exact .inr ⟨before, other, refused, List.mem_cons_of_mem _ mem⟩

theorem Expr.parse_ne_unexpected_literal (text : String) (found : Found) (position : Nat) :
    Expr.parse text ≠ .error (.malformed (.unexpectedToken .literal found) position) := by
  intro h
  rcases Place.exists_step_of_run_eq_error (Expr.parse_eq_iff_run.1 h) with
    mem | ⟨place, token, step, mem⟩
  · exact Lexer.ne_unexpectedToken_of_mem_items mem .literal found position rfl
  · rcases Place.refusal_of_step step with ⟨same, -⟩ | ⟨field, op, -, literal, refused⟩
    · rw [QueryError.unexpected] at same
      injection same with fault
      injection fault with expected
      cases place <;> cases expected
    · rcases Place.unread_of_literal (Lexer.spelled_of_mem_items mem) literal refused with
        ⟨-, -, same⟩
      cases same

/-- The place of the first item that no sentence goes on with. -/
def OffendsFirst (items : List (Except QueryError Token)) (k : Nat) : Prop :=
  ¬Viable (items.take (k + 1)) ∧ ∀ j < k, Viable (items.take (j + 1))

theorem OffendsFirst.viable_take {items : List (Except QueryError Token)} {k : Nat}
    (h : OffendsFirst items k) : Viable (items.take k) := by
  cases k with
  | zero => exact viable_nil
  | succ k => exact h.2 k (Nat.lt_succ_self k)

/-- A text is refused exactly if some of its first items begin no sentence. The first item with
which they do not calls for the refusal, and what comes behind that item does not matter. -/
theorem Expr.parse_refuses_first_offence (text : String) :
    ((∃ error, Expr.parse text = .error error) ↔
        ∃ k < (tokenize text).length, ¬Viable ((tokenize text).take (k + 1)))
      ∧ (∀ k item, (tokenize text)[k]? = some item → OffendsFirst (tokenize text) k →
          (∃ error, Expr.parse text = .error error
            ∧ CallsFor (lastKind? ((tokenize text).take k)) item error)
          ∧ ∀ other, (tokenize other).take (k + 1) = (tokenize text).take (k + 1) →
            Expr.parse other = Expr.parse text)
      ∧ ∀ found position,
          Expr.parse text ≠ .error (.malformed (.unexpectedToken .literal found) position) := by
  refine ⟨?_, ?_, Expr.parse_ne_unexpected_literal text⟩
  · rw [Expr.exists_error_iff_not_viable]
    constructor
    · intro offends
      have pos : 0 < (tokenize text).length :=
        List.length_pos_iff.2 (Lexer.ofText text).items_ne_nil
      refine ⟨(tokenize text).length - 1, by omega, ?_⟩
      rw [List.take_of_length_le (by omega)]
      exact offends
    · rintro ⟨k, -, offends⟩ viable
      exact offends (viable.front (List.take_prefix _ _))
  · intro k item here first
    rcases List.getElem?_eq_some_iff.1 here with ⟨lt, rfl⟩
    have split : (tokenize text).take (k + 1) = (tokenize text).take k ++ [(tokenize text)[k]] :=
      List.take_succ_eq_append_getElem lt
    have behind (other : String)
        (same : (tokenize other).take (k + 1) = (tokenize text).take (k + 1)) :
        tokenize other = (tokenize text).take k
          ++ (tokenize text)[k] :: (tokenize other).drop (k + 1) := by
      rw [List.append_cons, ← split, ← same, List.take_append_drop]
    rcases Expr.parse_of_offence (behind text rfl) first.viable_take (split ▸ first.1) with
      ⟨error, calls, refused⟩
    have refused_text := refused text _ (behind text rfl)
    constructor
    · exact ⟨error, refused_text, calls⟩
    · intro other same
      rw [refused other _ (behind other same), refused_text]

end RecordQuery
