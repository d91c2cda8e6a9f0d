import RecordQuery.Proofs.RepeatedReading

/-!
# Reading on in the middle of a text

What has been taken of a text counts only through how much it was. A lexer that has been called some
times, with whatever result, goes on as a lexer at the start of the remaining text does, and so does
a parser on it: the positions of all tokens and refusals are higher by what was taken, and nothing
else differs. This is shown action by action, for two actions of which one works on a parser that
stands further on.
-/
namespace RecordQuery

variable {α β γ δ : Type}

def Token.shift (offset : Nat) (token : Token) : Token :=
  { token with position := token.position + offset }

def Lexer.shift (offset : Nat) (lexer : Lexer) : Lexer :=
  { lexer with offset := lexer.offset + offset }

def Parser.shift (offset : Nat) (parser : Parser) : Parser :=
  ⟨parser.lexer.shift offset, parser.current.shift offset⟩

/-- A result with its value taken along and its refusal `offset` characters further on. -/
def shiftResult (offset : Nat) (onValue : α → β) : Except QueryError α → Except QueryError β
  | .ok a => .ok (onValue a)
  | .error error => .error (error.shift offset)

namespace Lexer

theorem advance_shift (n offset : Nat) (lexer : Lexer) :
    (lexer.shift offset).advance n = (lexer.advance n).shift offset := by
  simp only [advance, shift, Nat.add_right_comm]

theorem skipBlanks_shift (offset : Nat) (lexer : Lexer) :
    (lexer.shift offset).skipBlanks = lexer.skipBlanks.shift offset :=
  advance_shift _ offset lexer

/-- What a call takes does not depend on the position, and what it gives stands where it is. -/
theorem next_shift (offset : Nat) (lexer : Lexer) :
    (lexer.shift offset).next
      = (shiftResult offset (Token.shift offset) lexer.next.1, lexer.next.2.shift offset) := by
  have ahead : (lexer.skipBlanks.shift offset).rest = lexer.skipBlanks.rest := rfl
  rw [next, next, skipBlanks_shift, ahead]
  split
  · rw [advance_shift]
    rfl
  · rw [advance_shift]
    rfl
  · rfl

theorem run_shift (times offset : Nat) (lexer : Lexer) :
    run times (lexer.shift offset)
      = ((run times lexer).1.map (shiftResult offset (Token.shift offset)),
        (run times lexer).2.shift offset) := by
  simp only [run_eq_calls]
  exact calls_map (next_shift offset) times lexer

/-- A lexer in a text stands at the start of the remaining text, moved by what was taken. -/
theorem StandsIn.eq_shift {text : String} {lexer : Lexer} (stands : lexer.StandsIn text.toList) :
    lexer = (ofText (String.ofList (text.toList.drop lexer.offset))).shift lexer.offset := by
  rw [ofText, shift, String.toList_ofList, stands.rest_eq, Nat.zero_add]

end Lexer

namespace Parser

/-- On a parser that stands `offset` characters further on, the second action does what the first
one does. -/
def ShiftsTo (offset : Nat) (onValue : α → β) (action : Action α) (moved : Action β) : Prop :=
  ∀ parser : Parser, moved.run (parser.shift offset)
    = (shiftResult offset onValue (action.run parser).1, (action.run parser).2.shift offset)

variable {offset : Nat}

theorem shiftsTo_pure (onValue : α → β) (a : α) :
    ShiftsTo offset onValue (pure a) (pure (onValue a)) := fun _ => rfl

theorem ShiftsTo.bind {onFirst : α → γ} {onSecond : β → δ} {first : Action α} {first' : Action γ}
    {second : α → Action β} {second' : γ → Action δ} (one : ShiftsTo offset onFirst first first')
    (two : ∀ a, ShiftsTo offset onSecond (second a) (second' (onFirst a))) :
    ShiftsTo offset onSecond (first >>= second) (first' >>= second') := by
  intro parser
  rw [run_bind, run_bind, one parser]
  rcases first.run parser with ⟨error | a, after⟩
  · rfl
  · exact two a after

theorem shiftsTo_refuse (onValue : α → β) (expected : Expectation) :
    ShiftsTo offset onValue (refuse expected) (refuse expected) := fun _ => rfl

theorem shiftsTo_peek : ShiftsTo offset (Token.shift offset) peek peek := fun _ => rfl

theorem shiftsTo_require (accepts : TokenKind → Bool) (expected : Expectation) :
    ShiftsTo offset (Token.shift offset) (require accepts expected) (require accepts expected) := by
  intro parser
  have kind : (parser.shift offset).current.kind = parser.current.kind := rfl
  rw [run_require, run_require, kind]
  split
  · rfl
  · rfl

theorem shiftsTo_pass : ShiftsTo offset id pass pass := by
  intro parser
  have moved : (parser.shift offset).lexer.next
      = (shiftResult offset (Token.shift offset) parser.lexer.next.1,
        parser.lexer.next.2.shift offset) := Lexer.next_shift offset parser.lexer
  rw [run_pass, run_pass, moved]
  rcases parser.lexer.next with ⟨error | token, lexer⟩ <;> rfl

theorem literal_shift (offset : Nat) (token : Token) :
    (token.shift offset).literal = shiftResult offset id token.literal := by
  rcases token with ⟨kind, text, position⟩
  cases kind with
  | number =>
    simp only [Token.literal, Token.shift]
    cases Literal.ofNumber? text <;> rfl
  | null =>
    simp only [Token.literal, Token.shift]
    cases Literal.ofNull? text <;> rfl
  | boolean =>
    simp only [Token.literal, Token.shift]
    cases Literal.ofBool? text <;> rfl
  | _ => rfl

theorem shiftsTo_literal (token : Token) :
    ShiftsTo offset id (liftM token.literal : Action Literal)
      (liftM (token.shift offset).literal : Action Literal) := by
  intro parser
  rw [literal_shift]
  cases token.literal <;> rfl

theorem shiftsTo_fieldName : ShiftsTo offset id fieldName fieldName := by
  apply (shiftsTo_require _ _).bind
  intro token
  apply shiftsTo_pass.bind
  intro _
  exact shiftsTo_pure id token.text

theorem shiftsTo_negation : ShiftsTo offset id negation negation := by
  apply shiftsTo_pass.bind
  intro _
  apply shiftsTo_fieldName.bind
  intro field
  exact shiftsTo_pure id (Expr.negation field)

theorem shiftsTo_literalAfter (op : CompareOp) :
    ShiftsTo offset id (literalAfter op) (literalAfter op) := by
  apply (shiftsTo_require _ _).bind
  intro token
  apply (shiftsTo_literal token).bind
  intro literal
  apply shiftsTo_pass.bind
  intro _
  exact shiftsTo_pure id literal

theorem shiftsTo_afterField (field : String) (kind : TokenKind) :
    ShiftsTo offset id (afterField field kind) (afterField field kind) := by
  cases kind with
  | comparison op =>
    apply shiftsTo_pass.bind
    intro _
    apply (shiftsTo_literalAfter op).bind
    intro literal
    exact shiftsTo_pure id (Expr.comparison field op literal)
  | _ => exact shiftsTo_pure id (Expr.booleanTest field)

theorem shiftsTo_fieldTerm : ShiftsTo offset id fieldTerm fieldTerm := by
  apply shiftsTo_fieldName.bind
  intro field
  apply shiftsTo_peek.bind
  intro token
  exact shiftsTo_afterField field token.kind

theorem shiftsTo_termFrom (kind : TokenKind) :
    ShiftsTo offset id (termFrom kind) (termFrom kind) := by
  cases kind with
  | exclamation => exact shiftsTo_negation
  | identifier => exact shiftsTo_fieldTerm
  | _ => exact shiftsTo_refuse id .term

theorem shiftsTo_term : ShiftsTo offset id term term := by
  apply shiftsTo_peek.bind
  intro first
  apply (shiftsTo_termFrom first.kind).bind
  intro expr
  apply (shiftsTo_require _ _).bind
  intro _
  exact shiftsTo_pure id expr

theorem parse_shift (offset : Nat) (parser : Parser) :
    (parser.shift offset).parse
      = (shiftResult offset id parser.parse.1, parser.parse.2.shift offset) :=
  shiftsTo_term parser

theorem run_shift (times offset : Nat) (parser : Parser) :
    run times (parser.shift offset)
      = ((run times parser).1.map (shiftResult offset id), (run times parser).2.shift offset) := by
  simp only [run_eq_calls]
  exact calls_map (parse_shift offset) times parser

theorem start_shift (offset : Nat) (lexer : Lexer) :
    start (lexer.shift offset) = shiftResult offset (shift offset) (start lexer) := by
  rw [start, start, Lexer.next_shift]
  rcases lexer.next with ⟨error | token, after⟩ <;> rfl

end Parser

/-- Wherever a lexer has got to in a text, it goes on as on the text from there: every call gives
the same token or refusal, with the position higher by what was taken. A parser starts on it as on
the remaining text, and every call of the parser gives the same term or refusal, likewise. -/
theorem Lexer.goes_on_as_from_start (text : String) (taken : Nat) :
    let here := (run taken (ofText text)).2
    let fresh := ofText (String.ofList (text.toList.drop here.offset))
    (∀ times, run times here
        = ((run times fresh).1.map (shiftResult here.offset (Token.shift here.offset)),
          (run times fresh).2.shift here.offset))
      ∧ ((∃ error, Parser.start fresh = .error error
          ∧ Parser.start here = .error (error.shift here.offset))
        ∨ ∃ parser, Parser.start fresh = .ok parser
          ∧ Parser.start here = .ok (parser.shift here.offset)
          ∧ ∀ times, Parser.run times (parser.shift here.offset)
            = ((Parser.run times parser).1.map (shiftResult here.offset id),
              (Parser.run times parser).2.shift here.offset)) := by
  intro here fresh
  have moved : here = fresh.shift here.offset := ((standsIn_ofText text).run taken).eq_shift
  have started : Parser.start here
      = shiftResult here.offset (Parser.shift here.offset) (Parser.start fresh) := by
    have shifted := Parser.start_shift here.offset fresh
    rwa [← moved] at shifted
  constructor
  · intro times
    have shifted := run_shift times here.offset fresh
    rwa [← moved] at shifted
  · cases found : Parser.start fresh with
    | error error =>
      rw [found] at started
      exact .inl ⟨error, rfl, started⟩
    | ok parser =>
      rw [found] at started
      exact .inr ⟨parser, rfl, started, fun times => Parser.run_shift times here.offset parser⟩

end RecordQuery
