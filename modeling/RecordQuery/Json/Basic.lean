import RecordQuery.Json.Number

/-!
# Documents

A document is null, a truth value, a number, text, an array or an object. Where an object repeats a
name, the last member of that name counts.
-/
namespace RecordQuery

inductive Json
  | null
  | bool (b : Bool)
  | number (n : Json.Number)
  | string (s : String)
  | array (elements : List Json)
  | object (members : List (String × Json))

namespace Json

def member? (name : String) : Json → Option Json
  | object members => members.reverse.lookup name
  | _ => none

def elements? : Json → Option (List Json)
  | array elements => some elements
  | _ => none

/-- The field value of what was found in a document: a part that is missing counts as null, and an
array, an object or a number that cannot be held exactly is no value. -/
def fieldValue? : Option Json → Option Value
  | none | some null => some .null
  | some (bool b) => some (.bool b)
  | some (number n) => n.value?
  | some (string s) => some (.text s)
  | some (array _) | some (object _) => none

end Json
end RecordQuery
