import RecordQuery.QueryError
import RecordQuery.Token.Lexeme

/-!
# Reading tokens

A lexer is what remains of a text and the number of characters before it. Each step passes over
blanks and takes one lexeme. A character that starts no lexeme is not taken, so the same refusal
comes again; a quote without its partner takes the rest of the text. The main lemma says that a step
which returns a token other than the end leaves less text.
-/
namespace RecordQuery

/-- What remains of a text, and how many characters were before it. -/
structure Lexer where
  rest : List Char
  offset : Nat
deriving DecidableEq, Repr

namespace Lexer

def ofText (text : String) : Lexer := ⟨text.toList, 0⟩

def advance (n : Nat) (lexer : Lexer) : Lexer := ⟨lexer.rest.drop n, lexer.offset + n⟩

def skipBlanks (lexer : Lexer) : Lexer :=
  lexer.advance (lexer.rest.takeWhile Unicode.isWhiteSpace).length

def next (lexer : Lexer) : Except QueryError Token × Lexer :=
  let start := lexer.skipBlanks
  match Lexeme.first start.rest with
  | .token kind contents =>
    (.ok ⟨kind, String.ofList contents, start.offset⟩,
      start.advance (Lexeme.spelling kind contents).length)
  | .unterminated =>
    (.error (.malformed .unterminatedString start.offset), start.advance start.rest.length)
  | .unexpected c => (.error (.malformed (.unexpectedCharacter c) start.offset), start)

theorem length_rest_advance_le (n : Nat) (lexer : Lexer) :
    (lexer.advance n).rest.length ≤ lexer.rest.length := by
  simp [advance]

/-- A token other than the end takes at least one character. -/
theorem length_rest_lt_of_next {lexer after : Lexer} {token : Token}
    (h : lexer.next = (.ok token, after)) (hk : token.kind ≠ .endOfInput) :
    after.rest.length < lexer.rest.length := by
  unfold next at h
  simp only at h
  split at h
  · rename_i kind contents found
    cases h
    have spelled := Lexeme.spelling_prefix_of_first found
    have taken := List.length_pos_iff.2 (Lexeme.spelling_ne_nil_of_first found hk)
    have fits := spelled.length_le
    have skipped := length_rest_advance_le
      (lexer.rest.takeWhile Unicode.isWhiteSpace).length lexer
    change (lexer.skipBlanks.rest.drop _).length < _
    rw [List.length_drop]
    unfold skipBlanks at *
    omega
  · cases h
  · cases h

/-- Takes `n` tokens, going on after refusals. -/
def run : Nat → Lexer → List (Except QueryError Token) × Lexer
  | 0, lexer => ([], lexer)
  | n + 1, lexer =>
    let (item, lexer) := lexer.next
    let (items, lexer) := run n lexer
    (item :: items, lexer)

/-- The tokens up to and including the end of the input or the first refusal. -/
def items (lexer : Lexer) : List (Except QueryError Token) :=
  match _ : lexer.next with
  | (.ok token, after) =>
    if _ : token.kind = .endOfInput then [.ok token] else .ok token :: items after
  | (.error error, _) => [.error error]
termination_by lexer.rest.length
decreasing_by exact length_rest_lt_of_next ‹_› ‹_›

end Lexer

def tokenize (text : String) : List (Except QueryError Token) := (Lexer.ofText text).items

end RecordQuery
