import RecordQuery.CompareOp

/-!
# Tokens

A token has a kind, a text and the position of its first character, counted in characters from
zero. The text of quoted text is what stands between the quotes.
-/
namespace RecordQuery

inductive TokenKind
  | identifier
  | number
  | string
  | boolean
  | null
  | comparison (op : CompareOp)
  | exclamation
  | endOfInput
deriving DecidableEq, Repr

/-- Whether a token of the kind may stand on the right of a comparison. -/
def TokenKind.isLiteral : TokenKind → Bool
  | number | string | boolean | null => true
  | _ => false

structure Token where
  kind : TokenKind
  text : String
  position : Nat
deriving DecidableEq, Repr

/-- What a message says it met: the end of the input, or a token's text. -/
inductive Found
  | endOfInput
  | text (s : String)
deriving DecidableEq, Repr

def Found.describe : Found → String
  | endOfInput => "end of input"
  | text s => "'" ++ s ++ "'"

namespace Token

def found (token : Token) : Found :=
  match token.kind with
  | .endOfInput => .endOfInput
  | _ => .text token.text

def describe (token : Token) : String := token.found.describe

end Token
end RecordQuery
