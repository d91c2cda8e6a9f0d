import RecordQuery.Expr.Basic
import RecordQuery.Token.Lexer
import RecordQuery.Token.Literal

/-!
# Reading terms

    term := '!' name | name operator literal | name

A parser holds the current token and the lexer behind it. Passing the current token reads the next
one first, so a fault in the next token is reported before the grammar looks at the place. A refused
step keeps the current token, and the lexer where the refusal left it, for the next call.
-/
namespace RecordQuery

/-- A place in a token sequence. -/
structure Parser where
  lexer : Lexer
  current : Token
deriving DecidableEq, Repr

namespace Parser

/-- A step that may be refused; what it did to the parser stays done. -/
abbrev Action := ExceptT QueryError (StateM Parser)

def start (lexer : Lexer) : Except QueryError Parser :=
  match lexer.next with
  | (.ok token, lexer) => .ok ⟨lexer, token⟩
  | (.error error, _) => .error error

def peek : Action Token := fun parser => (.ok parser.current, parser)

def refuse {α : Type} (expected : Expectation) : Action α := fun parser =>
  (.error (.unexpected expected parser.current), parser)

/-- The current token, refused unless its kind is accepted. -/
def require (accepts : TokenKind → Bool) (expected : Expectation) : Action Token := fun parser =>
  if accepts parser.current.kind then peek parser else refuse expected parser

def pass : Action Unit := fun parser =>
  match parser.lexer.next with
  | (.ok token, lexer) => (.ok (), ⟨lexer, token⟩)
  | (.error error, lexer) => (.error error, { parser with lexer })

/-- `name` -/
def fieldName : Action String := do
  let token ← require (· == .identifier) .fieldName
  pass
  return token.text

/-- `'!' name`, on the exclamation mark. -/
def negation : Action Expr := do
  pass
  let field ← fieldName
  return .negation field

/-- `literal`, behind an operator. -/
def literalAfter (op : CompareOp) : Action Literal := do
  let token ← require TokenKind.isLiteral (.literalAfter op)
  let literal ← token.literal
  pass
  return literal

/-- `operator literal` or nothing, behind a field's name and on a token of the given kind. -/
def afterField (field : String) : TokenKind → Action Expr
  | .comparison op => do
    pass
    let literal ← literalAfter op
    return .comparison field op literal
  | _ => return .booleanTest field

/-- `name operator literal` or `name` -/
def fieldTerm : Action Expr := do
  let field ← fieldName
  let token ← peek
  afterField field token.kind

def termFrom : TokenKind → Action Expr
  | .exclamation => negation
  | .identifier => fieldTerm
  | _ => refuse .term

def term : Action Expr := do
  let first ← peek
  let expr ← termFrom first.kind
  let _ ← require (· == .endOfInput) .endOfInput
  return expr

def parse (parser : Parser) : Except QueryError Expr × Parser := term.run parser

def run : Nat → Parser → List (Except QueryError Expr) × Parser
  | 0, parser => ([], parser)
  | n + 1, parser =>
    let (result, parser) := parser.parse
    let (results, parser) := run n parser
    (result :: results, parser)

/-- A second step starts where the first one left the parser, unless the first was refused. -/
theorem run_bind {α β : Type} (first : Action α) (second : α → Action β) (parser : Parser) :
    (first >>= second).run parser =
      match first.run parser with
      | (.ok a, after) => (second a).run after
      | (.error error, after) => (.error error, after) := by
  simp only [ExceptT.run, bind, ExceptT.bind, ExceptT.mk, StateT.bind, ExceptT.bindCont]
  rcases first parser with ⟨_ | _, _⟩ <;> rfl

end Parser

namespace Expr

def parse (text : String) : Except QueryError Expr :=
  (Parser.start (.ofText text)).bind fun parser => parser.parse.1

/-- Equality of what reading gave: the same term, or the same refusal. -/
def SameResult : Except QueryError Expr → Except QueryError Expr → Prop
  | .ok a, .ok b => a.Same b
  | .error a, .error b => a = b
  | _, _ => False

instance : DecidableRel SameResult := fun a b => by
  cases a <;> cases b <;> unfold SameResult <;> infer_instance

end Expr

end RecordQuery
