import RecordQuery.Json.Basic

/-!
# Pointers into documents

A pointer is empty, and then leads to the whole document, or a sequence of steps that each follow a
slash; any other text leads nowhere. A step is a member's name in an object and a position in an
array, written without a sign or needless zeros. Within a step `~1` stands for a slash and `~0` for
a tilde.
-/
namespace RecordQuery.Json

def splitSlashes : List Char → List (List Char)
  | [] => [[]]
  | c :: rest =>
    if c = '/' then [] :: splitSlashes rest
    else
      match splitSlashes rest with
      | [] => [[c]]
      | part :: parts => (c :: part) :: parts

/-- A step with its escapes resolved; a tilde before anything but `0` or `1` stands for itself. -/
def unescapeStep : List Char → List Char
  | '~' :: '0' :: rest => '~' :: unescapeStep rest
  | '~' :: '1' :: rest => '/' :: unescapeStep rest
  | c :: rest => c :: unescapeStep rest
  | [] => []

def pointerSteps? (pointer : String) : Option (List String) :=
  match pointer.toList with
  | [] => some []
  | '/' :: rest => some ((splitSlashes rest).map fun step => String.ofList (unescapeStep step))
  | _ => none

/-- The position that a step denotes in an array; positions have 64 bits. -/
def position? (step : String) : Option Nat :=
  let digits := step.toList
  if digits.all Char.isDigit && Numeral.isWholePart digits then
    let position := Nat.ofDigitChars 10 digits 0
    if position < UInt64.size then some position else none
  else none

def step? (doc : Json) (step : String) : Option Json :=
  match doc with
  | object _ => doc.member? step
  | array elements => (position? step).bind fun position => elements[position]?
  | _ => none

def follow? (doc : Json) : List String → Option Json
  | [] => some doc
  | step :: steps => (doc.step? step).bind fun part => part.follow? steps

def pointer? (doc : Json) (pointer : String) : Option Json :=
  (pointerSteps? pointer).bind doc.follow?

theorem follow?_append (doc : Json) (first second : List String) :
    doc.follow? (first ++ second) = (doc.follow? first).bind (·.follow? second) := by
  induction first generalizing doc with
  | nil => rfl
  | cons step steps ih =>
    simp only [List.cons_append, follow?]
    cases doc.step? step with
    | none => rfl
    | some part => exact ih part

end RecordQuery.Json
