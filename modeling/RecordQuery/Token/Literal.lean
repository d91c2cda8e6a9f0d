import RecordQuery.QueryError

/-!
# The literal of a token

A number token that is no number is a malformed number; any other token that denotes no literal is
refused in its place.
-/
namespace RecordQuery.Token

def literal (token : Token) : Except QueryError Literal :=
  let orUnexpected : Option Literal → Except QueryError Literal
    | some literal => .ok literal
    | none => .error (.unexpected .literal token)
  match token.kind with
  | .number =>
    match Literal.ofNumber? token.text with
    | some literal => .ok literal
    | none => .error .numberFormat
  | .string => .ok (.text token.text)
  | .null => orUnexpected (Literal.ofNull? token.text)
  | .boolean => orUnexpected (Literal.ofBool? token.text)
  | _ => orUnexpected none

end RecordQuery.Token
