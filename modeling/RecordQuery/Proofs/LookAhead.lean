import RecordQuery.Expr.Parser
import RecordQuery.Proofs.Places
import RecordQuery.Proofs.Tokenization

/-!
# Reading terms with a token ahead

The parser holds the next token while it accepts the one before. What it gives is still what the
places of a term give: no token is judged before all the tokens in front of it are accepted.
-/
namespace RecordQuery

namespace Parser

def items (parser : Parser) : List (Except QueryError Token) :=
  .ok parser.current :: Lexer.following (.ok parser.current) parser.lexer

/-- An action gives what the items from the parser on give behind the place. -/
def Follows (place : Place) (action : Action Expr) : Prop :=
  ∀ parser : Parser, (action.run parser).1.map .done = place.run parser.items

def finish (expr : Expr) : Action Expr := do
  let _ ← require (· == .endOfInput) .endOfInput
  return expr

theorem run_require (accepts : TokenKind → Bool) (expected : Expectation) (parser : Parser) :
    (require accepts expected).run parser =
      if accepts parser.current.kind then (.ok parser.current, parser)
      else (.error (.unexpected expected parser.current), parser) := by
  change (if accepts parser.current.kind then peek parser else refuse expected parser) = _
  split <;> rfl

theorem run_pass (parser : Parser) :
    pass.run parser = match parser.lexer.next with
      | (.ok token, lexer) => (.ok (), ⟨lexer, token⟩)
      | (.error error, lexer) => (.error error, { parser with lexer }) := rfl

/-- An action that requires a token which the place refuses is refused there. -/
theorem run_require_bind_of_refuses {place : Place} {accepts : TokenKind → Bool}
    {expected : Expectation} {action : Token → Action Expr} {parser : Parser}
    (refuses : accepts parser.current.kind = false)
    (step : place.step parser.current = .error (.unexpected expected parser.current)) :
    ((require accepts expected >>= action).run parser).1.map .done = place.run parser.items := by
  rw [run_bind, run_require, refuses, items, Place.run_cons_of_refusal step]
  rfl

theorem run_require_bind_of_accepts {accepts : TokenKind → Bool} {expected : Expectation}
    {action : Token → Action Expr} {parser : Parser} (h : accepts parser.current.kind = true) :
    (require accepts expected >>= action).run parser = (action parser.current).run parser := by
  rw [run_bind, run_require, h]
  rfl

theorem run_pass_bind {place next : Place} {action : Action Expr} {parser : Parser}
    (going : parser.current.kind ≠ .endOfInput) (step : place.step parser.current = .ok next)
    (follows : Follows next action) :
    ((pass >>= fun _ => action).run parser).1.map .done = place.run parser.items := by
  rw [items, Place.run_cons_of_step step, Lexer.following_of_ne going, run_bind, run_pass]
  rcases found : parser.lexer.next with ⟨error | token, after⟩
  · rw [Lexer.items_of_next found]
    rfl
  · rw [Lexer.items_of_next found]
    exact follows ⟨after, token⟩

theorem follows_finish (expr : Expr) : Follows (.closed expr) (finish expr) := by
  intro parser
  by_cases last : parser.current.kind = .endOfInput
  · have step : Place.step (.closed expr) parser.current = .ok (.done expr) := by
      rw [Place.step, last]
    rw [finish, run_require_bind_of_accepts (by rw [last]; rfl), items,
      Place.run_cons_of_step step, Lexer.following_of_last last]
    rfl
  · apply run_require_bind_of_refuses
    · exact beq_eq_false_iff_ne.2 last
    · rw [Place.step]
      split
      · contradiction
      · rfl

theorem run_fieldName_bind {place next : Place} {action : String → Action Expr} {parser : Parser}
    (name : parser.current.kind = .identifier) (step : place.step parser.current = .ok next)
    (follows : Follows next (action parser.current.text)) :
    ((fieldName >>= action).run parser).1.map .done = place.run parser.items := by
  have going : parser.current.kind ≠ .endOfInput := by
    rw [name]
    decide
  rw [fieldName, bind_assoc, run_require_bind_of_accepts (by rw [name]; rfl), bind_assoc]
  exact run_pass_bind going step follows

theorem follows_marked :
    Follows .marked (fieldName >>= fun field => finish (.negation field)) := by
  intro parser
  by_cases name : parser.current.kind = .identifier
  · apply run_fieldName_bind name
    · rw [Place.step, name]
    · exact follows_finish _
  · rw [fieldName, bind_assoc]
    apply run_require_bind_of_refuses
    · exact beq_eq_false_iff_ne.2 name
    · rw [Place.step]
      split
      · contradiction
      · rfl

theorem follows_compared (field : String) (op : CompareOp) :
    Follows (.compared field op)
      (literalAfter op >>= fun literal => finish (.comparison field op literal)) := by
  intro parser
  rw [literalAfter, bind_assoc]
  by_cases literal : parser.current.kind.isLiteral = true
  · have going : parser.current.kind ≠ .endOfInput := by
      intro last
      rw [last] at literal
      cases literal
    rw [run_require_bind_of_accepts literal, bind_assoc]
    -- a number that denotes nothing is refused before the next token is taken
    rcases read : parser.current.literal with error | value
    · have step : Place.step (.compared field op) parser.current = .error error := by
        rw [Place.step, if_pos literal, read]
        rfl
      rw [items, Place.run_cons_of_refusal step]
      rfl
    · have step : Place.step (.compared field op) parser.current
          = .ok (.closed (.comparison field op value)) := by
        rw [Place.step, if_pos literal, read]
        rfl
      have lifted : (liftM (Except.ok value : Except QueryError Literal) : Action Literal)
          = pure value := rfl
      rw [lifted, pure_bind, bind_assoc]
      exact run_pass_bind going step (follows_finish _)
  · apply run_require_bind_of_refuses
    · exact Bool.not_eq_true _ ▸ literal
    · rw [Place.step, if_neg literal]

theorem follows_named (field : String) :
    Follows (.named field)
      (peek >>= fun token => afterField field token.kind >>= finish) := by
  intro parser
  change Except.map Place.done
    ((afterField field parser.current.kind >>= finish).run parser).1 = _
  cases kind : parser.current.kind with
  | comparison op =>
    have going : parser.current.kind ≠ .endOfInput := by
      rw [kind]
      exact TokenKind.noConfusion
    have step : Place.step (.named field) parser.current = .ok (.compared field op) := by
      rw [Place.step, kind]
    simp only [afterField, bind_assoc, pure_bind]
    exact run_pass_bind going step (follows_compared field op)
  | endOfInput =>
    have step : Place.step (.named field) parser.current = .ok (.done (.booleanTest field)) := by
      rw [Place.step, kind]
    change Except.map Place.done ((finish (.booleanTest field)).run parser).1 = _
    rw [finish, run_require_bind_of_accepts (by rw [kind]; rfl), items,
      Place.run_cons_of_step step, Lexer.following_of_last kind]
    rfl
  | _ =>
    change Except.map Place.done ((finish (.booleanTest field)).run parser).1 = _
    apply run_require_bind_of_refuses
    · rw [kind]
      rfl
    · rw [Place.step, kind]

theorem follows_start : Follows .start term := by
  intro parser
  change Except.map Place.done ((termFrom parser.current.kind >>= finish).run parser).1 = _
  cases kind : parser.current.kind with
  | exclamation =>
    have going : parser.current.kind ≠ .endOfInput := by
      rw [kind]
      decide
    have step : Place.step .start parser.current = .ok .marked := by
      rw [Place.step, kind]
    simp only [termFrom, negation, bind_assoc, pure_bind]
    exact run_pass_bind going step follows_marked
  | identifier =>
    have step : Place.step .start parser.current = .ok (.named parser.current.text) := by
      rw [Place.step, kind]
    rw [termFrom, fieldTerm, bind_assoc]
    apply run_fieldName_bind kind step
    rw [bind_assoc]
    exact follows_named parser.current.text
  | _ =>
    have step : Place.step .start parser.current = .error (.unexpected .term parser.current) := by
      rw [Place.step, kind]
    rw [items, Place.run_cons_of_refusal step]
    rfl

end Parser

/-- Reading a text as a term is going through the places with the items of the text. -/
theorem Expr.map_done_parse (text : String) :
    (Expr.parse text).map .done = Place.start.run (tokenize text) := by
  rw [Expr.parse, Parser.start, tokenize]
  rcases found : (Lexer.ofText text).next with ⟨error | token, after⟩
  · rw [Lexer.items_of_next found]
    rfl
  · rw [Lexer.items_of_next found]
    exact Parser.follows_start ⟨after, token⟩

theorem Place.eq_of_map_done {a b : Except QueryError Expr} (same : a.map done = b.map done) :
    a = b := by
  cases a with
  | error error =>
    cases b with
    | error other => exact congrArg Except.error (Except.error.inj same)
    | ok expr =>
      have same : (Except.error error : Except QueryError Place) = .ok (.done expr) := same
      cases same
  | ok expr =>
    cases b with
    | error other =>
      have same : (Except.ok (.done expr) : Except QueryError Place) = .error other := same
      cases same
    | ok found => exact congrArg Except.ok (Place.done.inj (Except.ok.inj same))

theorem Expr.parse_eq_iff_run {text : String} {result : Except QueryError Expr} :
    Expr.parse text = result ↔ Place.start.run (tokenize text) = result.map .done := by
  rw [← Expr.map_done_parse]
  exact ⟨congrArg _, Place.eq_of_map_done⟩

/-- A text is read as a term exactly if its tokens are those of the term. -/
theorem Expr.parse_eq_ok_iff {text : String} {expr : Expr} :
    Expr.parse text = .ok expr ↔
      ∃ tokens : List Token, tokenize text = tokens.map .ok ∧ ReadsAs tokens expr := by
  rw [Expr.parse_eq_iff_run]
  exact Place.run_start_eq_done_iff

end RecordQuery
