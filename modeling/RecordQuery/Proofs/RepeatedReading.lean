import RecordQuery.Proofs.LexerProgress
import RecordQuery.Proofs.LookAhead

/-!
# Reading again with one parser

A parser that has read a term, or has been refused, can be asked again and goes on from where it
stands. What a call does is to pass some tokens and then to stop, either because the grammar decides
there or because the lexer fails on the next token; in both cases the current token is the one that
was reached. So a call leaves the parser as it is, and then every later call does the same, or it
takes some of the text, and there is only so much of it. A term ends at the end of the text, which
is no start of another.
-/
namespace RecordQuery

namespace Parser

/-- Passing some tokens, none of them the end of the input, leads from one parser to another. -/
inductive Passes : Parser → Parser → Prop
  | refl (parser : Parser) : Passes parser parser
  | step {parser reached : Parser} {token : Token} {lexer : Lexer}
      (going : parser.current.kind ≠ .endOfInput) (taken : parser.lexer.next = (.ok token, lexer))
      (passes : Passes ⟨lexer, token⟩ reached) : Passes parser reached

/-- How a call stops, at a parser that it reached by passing tokens: the grammar decides there, or
the lexer fails on the token behind the current one, which stays the current one. -/
inductive Stops {α : Type} (parser : Parser) : Except QueryError α × Parser → Prop
  | decided {reached : Parser} {result : Except QueryError α} (passes : Passes parser reached)
      (grammatical : ∀ error, result = .error error → ¬error.IsLexical) :
      Stops parser (result, reached)
  | failed {reached : Parser} {error : QueryError} {lexer : Lexer} (passes : Passes parser reached)
      (fails : reached.lexer.next = (.error error, lexer)) :
      Stops parser (.error error, ⟨lexer, reached.current⟩)

theorem Passes.trans {parser middle reached : Parser} (first : Passes parser middle)
    (second : Passes middle reached) : Passes parser reached := by
  induction first with
  | refl => exact second
  | step going taken _ ih => exact .step going taken (ih second)

theorem Stops.after {α : Type} {parser reached : Parser} {stop : Except QueryError α × Parser}
    (passes : Passes parser reached) (stops : Stops reached stop) : Stops parser stop := by
  cases stops with
  | decided further grammatical => exact .decided (passes.trans further) grammatical
  | failed further fails => exact .failed (passes.trans further) fails

theorem stops_ok {α : Type} (a : α) (parser : Parser) :
    Stops parser ((.ok a : Except QueryError α), parser) := by
  refine .decided (.refl parser) ?_
  rintro error ⟨⟩

theorem stops_bind {α β : Type} {first : Action α} {second : α → Action β} {parser : Parser}
    (one : Stops parser (first.run parser))
    (two : ∀ a reached, first.run parser = (.ok a, reached) →
      Stops reached ((second a).run reached)) :
    Stops parser ((first >>= second).run parser) := by
  rw [run_bind]
  rcases found : first.run parser with ⟨error | a, reached⟩
  · rw [found] at one
    cases one with
    | decided passes grammatical =>
      refine .decided passes ?_
      rintro error' ⟨⟩
      exact grammatical error rfl
    | failed passes fails => exact .failed passes fails
  · rw [found] at one
    cases one with
    | decided passes grammatical => exact (two a reached found).after passes

theorem not_isLexical_unexpected (expected : Expectation) (token : Token) :
    ¬(QueryError.unexpected expected token).IsLexical := by
  rw [QueryError.unexpected]
  rintro ⟨position, same | ⟨c, same⟩⟩ <;> cases same

theorem stops_require (accepts : TokenKind → Bool) (expected : Expectation) (parser : Parser) :
    Stops parser ((require accepts expected).run parser) := by
  rw [run_require]
  split
  · exact stops_ok _ parser
  · refine .decided (.refl parser) ?_
    rintro error ⟨⟩
    exact not_isLexical_unexpected expected parser.current

theorem eq_of_run_require {accepts : TokenKind → Bool} {expected : Expectation}
    {parser reached : Parser} {token : Token}
    (found : (require accepts expected).run parser = (.ok token, reached)) :
    reached = parser ∧ token = parser.current ∧ accepts parser.current.kind = true := by
  rw [run_require] at found
  split at found
  · rename_i accepted
    cases found
    exact ⟨rfl, rfl, accepted⟩
  · cases found

theorem stops_pass {parser : Parser} (going : parser.current.kind ≠ .endOfInput) :
    Stops parser (pass.run parser) := by
  rw [run_pass]
  rcases found : parser.lexer.next with ⟨error | token, lexer⟩
  · exact .failed (.refl parser) found
  · refine .decided (.step going found (.refl _)) ?_
    rintro error ⟨⟩

theorem stops_fieldName (parser : Parser) : Stops parser (fieldName.run parser) := by
  refine stops_bind (stops_require _ _ parser) ?_
  intro token reached found
  obtain ⟨rfl, rfl, name⟩ := eq_of_run_require found
  have going : reached.current.kind ≠ .endOfInput := by
    intro last
    rw [last] at name
    cases name
  exact stops_bind (stops_pass going) fun _ reached' _ => stops_ok _ reached'

theorem not_isLexical_of_literal {token : Token} {error : QueryError}
    (refused : token.literal = .error error) : ¬error.IsLexical := by
  have cause : error = .numberFormat ∨ error = .unexpected .literal token := by
    unfold Token.literal at refused
    simp only at refused
    split at refused
    · split at refused
      · cases refused
      · cases refused
        exact .inl rfl
    · cases refused
    · split at refused
      · cases refused
      · cases refused
        exact .inr rfl
    · split at refused
      · cases refused
      · cases refused
        exact .inr rfl
    · cases refused
      exact .inr rfl
  rcases cause with rfl | rfl
  · rintro ⟨position, same | ⟨c, same⟩⟩ <;> cases same
  · exact not_isLexical_unexpected .literal token

theorem stops_literalAfter (op : CompareOp) (parser : Parser) :
    Stops parser ((literalAfter op).run parser) := by
  refine stops_bind (stops_require _ _ parser) ?_
  intro token reached found
  obtain ⟨rfl, rfl, literal⟩ := eq_of_run_require found
  have going : reached.current.kind ≠ .endOfInput := by
    intro last
    rw [last] at literal
    cases literal
  have lifted : (liftM reached.current.literal : Action Literal).run reached
      = (reached.current.literal, reached) := by
    cases reached.current.literal <;> rfl
  refine stops_bind ?_ ?_
  · rw [lifted]
    exact .decided (.refl reached) fun error => not_isLexical_of_literal
  · intro value reached' found'
    rw [lifted] at found'
    obtain ⟨-, rfl⟩ := Prod.mk.inj found'
    exact stops_bind (stops_pass going) fun _ behind _ => stops_ok _ behind

theorem stops_afterField (field : String) (parser : Parser) :
    Stops parser ((afterField field parser.current.kind).run parser) := by
  cases kind : parser.current.kind with
  | comparison op =>
    have going : parser.current.kind ≠ .endOfInput := by
      rw [kind]
      exact TokenKind.noConfusion
    refine stops_bind (stops_pass going) ?_
    intro _ reached _
    exact stops_bind (stops_literalAfter op reached) fun _ behind _ => stops_ok _ behind
  | _ => exact stops_ok _ parser

theorem stops_termFrom (parser : Parser) :
    Stops parser ((termFrom parser.current.kind).run parser) := by
  have refused : Stops parser ((refuse .term : Action Expr).run parser) := by
    refine .decided (.refl parser) ?_
    rintro error ⟨⟩
    exact not_isLexical_unexpected .term parser.current
  cases kind : parser.current.kind with
  | exclamation =>
    have going : parser.current.kind ≠ .endOfInput := by
      rw [kind]
      exact TokenKind.noConfusion
    refine stops_bind (stops_pass going) ?_
    intro _ reached _
    exact stops_bind (stops_fieldName reached) fun _ behind _ => stops_ok _ behind
  | identifier =>
    refine stops_bind (stops_fieldName parser) ?_
    intro field reached _
    exact stops_afterField field reached
  | _ => exact refused

theorem parse_eq_run (parser : Parser) :
    parser.parse = (termFrom parser.current.kind >>= finish).run parser := rfl

theorem stops_parse (parser : Parser) : Stops parser parser.parse := by
  rw [parse_eq_run]
  refine stops_bind (stops_termFrom parser) ?_
  intro expr reached _
  exact stops_bind (stops_require _ _ reached) fun _ behind _ => stops_ok expr behind

/-- What a parser can still take: the characters ahead, and the current token if it is not the
last. -/
def remaining (parser : Parser) : Nat :=
  parser.lexer.rest.length + if parser.current.kind = .endOfInput then 0 else 1

theorem remaining_le_of_next {before lexer : Lexer} {token : Token}
    (taken : before.next = (.ok token, lexer)) :
    remaining ⟨lexer, token⟩ ≤ before.rest.length := by
  rw [remaining]
  by_cases last : token.kind = .endOfInput
  · rw [if_pos last]
    have moved := before.eq_or_length_lt_of_next
    rw [taken] at moved
    rcases moved with rfl | less
    · exact Nat.le_refl _
    · exact Nat.le_of_lt less
  · rw [if_neg last]
    exact Lexer.length_rest_lt_of_next taken last

theorem remaining_lt_of_next {parser : Parser} {token : Token} {lexer : Lexer}
    (going : parser.current.kind ≠ .endOfInput) (taken : parser.lexer.next = (.ok token, lexer)) :
    remaining ⟨lexer, token⟩ < parser.remaining := by
  have le := remaining_le_of_next taken
  rw [remaining.eq_def parser, if_neg going]
  exact Nat.lt_succ_of_le le

theorem Passes.eq_or_remaining_lt {parser reached : Parser} (passes : Passes parser reached) :
    reached = parser ∨ reached.remaining < parser.remaining := by
  induction passes with
  | refl => exact .inl rfl
  | step going taken _ ih =>
    have less := remaining_lt_of_next going taken
    rcases ih with rfl | further
    · exact .inr less
    · exact .inr (Nat.lt_trans further less)

/-- A call leaves the parser as it is, or with less to take. -/
theorem parse_eq_or_remaining_lt (parser : Parser) :
    parser.parse.2 = parser ∨ parser.parse.2.remaining < parser.remaining := by
  have stops := stops_parse parser
  generalize parser.parse = stop at stops
  cases stops with
  | decided passes _ => exact passes.eq_or_remaining_lt
  | @failed reached error lexer passes fails =>
    have step := reached.lexer.eq_or_length_lt_of_next
    rw [fails] at step
    rcases step with same | less
    · have unmoved : (⟨lexer, reached.current⟩ : Parser) = reached := by
        rw [show lexer = reached.lexer from same]
      rw [unmoved]
      exact passes.eq_or_remaining_lt
    · have shorter : remaining ⟨lexer, reached.current⟩ < reached.remaining :=
        Nat.add_lt_add_right less _
      rcases passes.eq_or_remaining_lt with rfl | further
      · exact .inr shorter
      · exact .inr (Nat.lt_trans shorter further)

structure StandsIn (parser : Parser) (text : List Char) : Prop where
  lexer : parser.lexer.StandsIn text
  last : parser.current.kind = .endOfInput → parser.current.position = text.length

theorem standsIn_of_next {text : List Char} {before lexer : Lexer} {token : Token}
    (stands : before.StandsIn text) (taken : before.next = (.ok token, lexer)) :
    StandsIn ⟨lexer, token⟩ text where
  lexer := by
    have behind := stands.next
    rwa [taken] at behind
  last := by
    intro last
    exact (Lexer.closes_of_last stands.rest_eq stands.offset_le taken last).2.stop_eq_length

theorem Passes.standsIn {parser reached : Parser} {text : List Char}
    (passes : Passes parser reached) (stands : parser.StandsIn text) : reached.StandsIn text := by
  induction passes with
  | refl => exact stands
  | step _ taken _ ih => exact ih (standsIn_of_next stands.lexer taken)

theorem StandsIn.parse {parser : Parser} {text : List Char} (stands : parser.StandsIn text) :
    parser.parse.2.StandsIn text := by
  have stops := stops_parse parser
  generalize parser.parse = stop at stops
  cases stops with
  | decided passes _ => exact passes.standsIn stands
  | @failed reached error lexer passes fails =>
    have reaches := passes.standsIn stands
    refine ⟨?_, reaches.last⟩
    have behind := reaches.lexer.next
    rwa [fails] at behind

theorem parse_of_last {parser : Parser} (last : parser.current.kind = .endOfInput) :
    parser.parse
      = (.error (.malformed (.unexpectedToken .term .endOfInput) parser.current.position),
        parser) := by
  have found : parser.current.found = .endOfInput := by rw [Token.found, last]
  rw [parse_eq_run, last, run_bind, ← found]
  rfl

theorem last_of_parse {parser reached : Parser} {expr : Expr}
    (read : parser.parse = (.ok expr, reached)) : reached.current.kind = .endOfInput := by
  rw [parse_eq_run, run_bind] at read
  split at read
  · rename_i first behind _
    rw [finish, run_bind, run_require] at read
    by_cases last : behind.current.kind = .endOfInput
    · rw [last] at read
      cases read
      exact last
    · rw [if_neg (by simpa using last)] at read
      cases read
  · cases read

theorem run_succ (times : Nat) (parser : Parser) :
    run (times + 1) parser
      = (parser.parse.1 :: (run times parser.parse.2).1, (run times parser.parse.2).2) := rfl

theorem run_eq_calls (times : Nat) (parser : Parser) :
    run times parser = calls parse times parser := by
  induction times generalizing parser with
  | zero => rfl
  | succ times ih => rw [run_succ, calls_succ, ih]

theorem run_add (m n : Nat) (parser : Parser) :
    (run (m + n) parser).2 = (run n (run m parser).2).2 := by
  simp only [run_eq_calls, calls_add]

theorem length_run (times : Nat) (parser : Parser) : (run times parser).1.length = times := by
  rw [run_eq_calls, length_calls]

theorem getElem?_run {i times : Nat} (within : i < times) (parser : Parser) :
    (run times parser).1[i]? = some (run i parser).2.parse.1 := by
  rw [run_eq_calls, run_eq_calls, getElem?_calls within]

theorem StandsIn.run {parser : Parser} {text : List Char} (stands : parser.StandsIn text)
    (times : Nat) : (Parser.run times parser).2.StandsIn text := by
  rw [run_eq_calls]
  exact calls_keeps (P := (StandsIn · text)) (fun _ => StandsIn.parse) stands times

theorem run_of_parse_eq {parser : Parser} (stuck : parser.parse.2 = parser) (times : Nat) :
    (run times parser).2 = parser := by
  rw [run_eq_calls, calls_of_stuck stuck]

/-- After as many calls as there is text to take, no call does anything. -/
theorem parse_run_eq {times : Nat} {parser : Parser} (enough : parser.remaining ≤ times) :
    (run times parser).2.parse.2 = (run times parser).2 := by
  rw [run_eq_calls]
  exact stuck_calls remaining parse_eq_or_remaining_lt enough

theorem standsIn_of_start {text : List Char} {lexer : Lexer} {parser : Parser}
    (stands : lexer.StandsIn text) (started : start lexer = .ok parser) :
    parser.StandsIn text ∧ parser.remaining ≤ text.length := by
  rw [start] at started
  split at started
  · rename_i token after taken
    cases started
    refine ⟨standsIn_of_next stands taken, ?_⟩
    have ahead := congrArg List.length stands.rest_eq
    rw [List.length_drop] at ahead
    have le := remaining_le_of_next taken
    omega
  · cases started

theorem last_of_getElem?_run {i times : Nat} {parser : Parser} {expr : Expr}
    (read : (run times parser).1[i]? = some (.ok expr)) :
    (run (i + 1) parser).2.current.kind = .endOfInput := by
  have within : i < times := lt_of_getElem?_calls (run_eq_calls times parser ▸ read)
  rw [getElem?_run within] at read
  rw [run_add]
  exact last_of_parse (Prod.ext (Option.some.inj read) rfl)

/-- Behind a term that was read, every call is refused at the end of the text. -/
theorem getElem?_run_of_ok {text : List Char} {i j times : Nat} {parser : Parser} {expr : Expr}
    (stands : parser.StandsIn text) (read : (run times parser).1[i]? = some (.ok expr))
    (later : i < j) (within : j < times) :
    (run times parser).1[j]?
      = some (.error (.malformed (.unexpectedToken .term .endOfInput) text.length)) := by
  obtain ⟨k, rfl⟩ := Nat.exists_eq_add_of_lt later
  have last := last_of_getElem?_run read
  have stuck : (run (i + 1) parser).2.parse.2 = (run (i + 1) parser).2 := by
    rw [parse_of_last last]
  rw [getElem?_run within, Nat.add_right_comm, run_add, run_of_parse_eq stuck, parse_of_last last,
    (stands.run (i + 1)).last last]

/-- A call that is refused by the lexer keeps the token at which the lexer failed. -/
theorem exists_passes_parse (parser : Parser) :
    ∃ reached, Passes parser reached
      ∧ (parser.parse.2 = reached
          ∧ (∀ error, parser.parse.1 = .error error → ¬error.IsLexical)
        ∨ ∃ error, reached.lexer.next = (.error error, parser.parse.2.lexer)
          ∧ parser.parse.1 = .error error ∧ error.IsLexical
          ∧ parser.parse.2.current = reached.current
          ∧ ∀ position, error = .malformed .unterminatedString position →
            parser.parse.2.lexer.rest = []) := by
  have stops := stops_parse parser
  generalize parser.parse = stop at stops
  cases stops with
  | @decided reached result passes grammatical =>
    exact ⟨reached, passes, .inl ⟨rfl, grammatical⟩⟩
  | @failed reached error lexer passes fails =>
    refine ⟨reached, passes, .inr ⟨error, fails, rfl, Lexer.isLexical_of_next fails, rfl, ?_⟩⟩
    rintro position rfl
    exact Lexer.rest_eq_nil_of_unterminated fails

/-- However often a parser is asked, and wherever in a text it started, at most one call reads a
term, and the calls behind that one are refused at the end of the text. After as many calls as the
text has characters, all calls give the same. In each call some tokens are passed, and if the lexer
fails on the next one, the last one that was reached stays current, even where the failure took the
rest of the text. -/
theorem run_succeeds_once_and_settles {text : String} {taken times : Nat} {parser : Parser}
    (started : start (Lexer.run taken (.ofText text)).2 = .ok parser) :
    (run times parser).1.length = times
      ∧ (∀ (i j : Nat) (expr expr' : Expr), (run times parser).1[i]? = some (.ok expr) →
        (run times parser).1[j]? = some (.ok expr') → i = j)
      ∧ (∀ (i j : Nat) (expr : Expr), (run times parser).1[i]? = some (.ok expr) → i < j →
        j < times → (run times parser).1[j]?
          = some (.error (.malformed (.unexpectedToken .term .endOfInput) text.length)))
      ∧ (Fault.unexpectedToken .term .endOfInput).detail
        = "Expected a field name or '!', got end of input"
      ∧ (∀ i j, text.length ≤ i → i < times → text.length ≤ j → j < times →
        (run times parser).1[i]? = (run times parser).1[j]?)
      ∧ ∀ i < times, ∃ reached, Passes (run i parser).2 reached
        ∧ ((run (i + 1) parser).2 = reached
            ∧ (∀ error, (run times parser).1[i]? = some (.error error) → ¬error.IsLexical)
          ∨ ∃ error, reached.lexer.next = (.error error, (run (i + 1) parser).2.lexer)
            ∧ (run times parser).1[i]? = some (.error error) ∧ error.IsLexical
            ∧ (run (i + 1) parser).2.current = reached.current
            ∧ ∀ position, error = .malformed .unterminatedString position →
              (run (i + 1) parser).2.lexer.rest = []) := by
  obtain ⟨stands, enough⟩ := standsIn_of_start ((Lexer.standsIn_ofText text).run taken) started
  rw [String.length_toList] at enough
  have behind (i j : Nat) (expr : Expr) (read : (run times parser).1[i]? = some (.ok expr))
      (later : i < j) (within : j < times) :
      (run times parser).1[j]?
        = some (.error (.malformed (.unexpectedToken .term .endOfInput) text.length)) := by
    rw [getElem?_run_of_ok stands read later within, String.length_toList]
  refine ⟨length_run times parser, ?_, behind, rfl, ?_, ?_⟩
  · intro i j expr expr' read read'
    have bound := (List.getElem?_eq_some_iff.1 read).1
    have bound' := (List.getElem?_eq_some_iff.1 read').1
    rw [length_run] at bound bound'
    rcases Nat.lt_trichotomy i j with less | same | more
    · rw [behind i j expr read less bound'] at read'
      cases read'
    · exact same
    · rw [behind j i expr' read' more bound] at read
      cases read
  · have settled (i : Nat) (late : text.length ≤ i) :
        (run i parser).2 = (run text.length parser).2 := by
      obtain ⟨k, rfl⟩ := Nat.exists_eq_add_of_le late
      rw [run_add, run_of_parse_eq (parse_run_eq enough)]
    intro i j late within late' within'
    rw [getElem?_run within, getElem?_run within', settled i late, settled j late']
  · intro i within
    have next : (run (i + 1) parser).2 = (run i parser).2.parse.2 := by
      rw [run_add]
      rfl
    simp only [getElem?_run within, next, Option.some.injEq]
    exact (run i parser).2.exists_passes_parse

/-- Behind a name, an open quote takes the rest of the text; the name is read by the next call. -/
theorem run_settles_behind_open_quote :
    ∃ parser, start (Lexer.run 0 (.ofText "a 'b")).2 = .ok parser
      ∧ (run 3 parser).1[0]? = some (.error (.malformed .unterminatedString 2))
      ∧ (run 3 parser).1[1]? = some (.ok (.booleanTest "a"))
      ∧ (run 3 parser).1[2]?
        = some (.error (.malformed (.unexpectedToken .term .endOfInput) "a 'b".length)) := by
  have started : start (Lexer.run 0 (.ofText "a 'b")).2
      = .ok ⟨⟨[' ', '\'', 'b'], 1⟩, ⟨.identifier, "a", 0⟩⟩ := by rfl
  have second : (run 3 ⟨⟨[' ', '\'', 'b'], 1⟩, ⟨.identifier, "a", 0⟩⟩).1[1]?
      = some (.ok (.booleanTest "a")) := by rfl
  obtain ⟨-, -, behind, -⟩ := @run_succeeds_once_and_settles "a 'b" 0 3 _ started
  exact ⟨_, started, by rfl, second, behind 1 2 _ second (by decide) (by decide)⟩

end Parser
end RecordQuery
