import RecordQuery.Expr.Literal
import RecordQuery.FieldType
import RecordQuery.Token.Basic

/-!
# Why a query is refused

A query is refused for its text (a fault at a position, or a malformed number), for its field's
name, or because its literal or form does not suit the field's declared type. Each cause has one
wording.
-/
namespace RecordQuery

inductive Expectation
  | term
  | fieldName
  | literalAfter (op : CompareOp)
  | literal
  | endOfInput
deriving DecidableEq, Repr

def Expectation.phrase : Expectation → String
  | term => "a field name or '!'"
  | fieldName => "a field name"
  | literalAfter op => "a literal after '" ++ op.symbol ++ "'"
  | literal => "a literal"
  | endOfInput => "end of input"

inductive Fault
  | unterminatedString
  | unexpectedCharacter (c : Char)
  | unexpectedToken (expected : Expectation) (found : Found)
deriving DecidableEq, Repr

def Fault.detail : Fault → String
  | unterminatedString => "Unterminated string: missing closing quote"
  | unexpectedCharacter c => "Unexpected character '" ++ c.toString ++ "'"
  | unexpectedToken expected found => "Expected " ++ expected.phrase ++ ", got " ++ found.describe

inductive Mismatch
  | notBoolean (type : FieldType)
  | incomparable (type : FieldType) (literal : LiteralKind) (op : CompareOp)
  | neverNull (type : FieldType)
deriving DecidableEq, Repr

def Mismatch.detail : Mismatch → String
  | notBoolean type => "expected a boolean field, found " ++ type.name
  | incomparable type literal op =>
    "cannot compare " ++ type.name ++ " field with " ++ literal.name ++ " literal using '"
      ++ op.symbol ++ "'"
  | neverNull type => type.name ++ " field cannot be null"

inductive QueryError
  | malformed (fault : Fault) (position : Nat)
  | numberFormat
  | unknownField (name : String)
  | typeMismatch (field : String) (mismatch : Mismatch)
deriving DecidableEq, Repr

namespace QueryError

def message : QueryError → String
  | malformed fault position =>
    "Syntax error at position " ++ (Numeral.ofInt position).text ++ ": " ++ fault.detail
  | numberFormat => "Invalid number format."
  | unknownField name => "Unknown field '" ++ name ++ "'"
  | typeMismatch field mismatch =>
    "Type mismatch on field '" ++ field ++ "': " ++ mismatch.detail

def unexpected (expected : Expectation) (token : Token) : QueryError :=
  malformed (.unexpectedToken expected token.found) token.position

/-- A refusal with its position, if it has one, moved by `offset` characters. -/
def shift (offset : Nat) : QueryError → QueryError
  | malformed fault position => malformed fault (position + offset)
  | error => error

end QueryError
end RecordQuery
