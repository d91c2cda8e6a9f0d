import RecordQuery.Json.Basic

/-!
# Reading documents

The text form of documents. Between the parts of a document only spaces, tabs and line ends may
stand; within quotes a backslash starts an escape, and characters beyond 16 bits are escaped as
pairs. Every step uses up fuel, of which two units for each character are enough.
-/
namespace RecordQuery.Json.Reader

def skipBlanks (text : List Char) : List Char :=
  text.dropWhile fun c => c == ' ' || c == '\t' || c == '\n' || c == '\r'

def hexDigit? (c : Char) : Option Nat :=
  if c.isDigit then some (c.toNat - '0'.toNat)
  else if 'a' ≤ c ∧ c ≤ 'f' then some (c.toNat - 'a'.toNat + 10)
  else if 'A' ≤ c ∧ c ≤ 'F' then some (c.toNat - 'A'.toNat + 10)
  else none

def unit? : List Char → Option (Nat × List Char)
  | a :: b :: c :: d :: rest => do
    let a ← hexDigit? a
    let b ← hexDigit? b
    let c ← hexDigit? c
    let d ← hexDigit? d
    return (((a * 16 + b) * 16 + c) * 16 + d, rest)
  | _ => none

/-- The character of a code point that is no half of a pair. -/
def character? (code : Nat) : Option Char :=
  if code.isValidChar then some (Char.ofNat code) else none

/-- Reads a character written by its code, or by a pair of halves. -/
def codedCharacter? (text : List Char) : Option (Char × List Char) := do
  let (high, rest) ← unit? text
  if 0xD800 ≤ high ∧ high < 0xDC00 then
    match rest with
    | '\\' :: 'u' :: rest =>
      let (low, rest) ← unit? rest
      if 0xDC00 ≤ low ∧ low < 0xE000 then
        return (← character? (0x10000 + (high - 0xD800) * 0x400 + (low - 0xDC00)), rest)
      else none
    | _ => none
  else return (← character? high, rest)

def escaped? : List Char → Option (Char × List Char)
  | '"' :: rest => some ('"', rest)
  | '\\' :: rest => some ('\\', rest)
  | '/' :: rest => some ('/', rest)
  | 'b' :: rest => some ('\x08', rest)
  | 'f' :: rest => some ('\x0c', rest)
  | 'n' :: rest => some ('\n', rest)
  | 'r' :: rest => some ('\r', rest)
  | 't' :: rest => some ('\t', rest)
  | 'u' :: rest => codedCharacter? rest
  | _ => none

/-- Reads a quoted text from behind its opening quote to behind its closing quote. -/
def contents? : Nat → List Char → Option (List Char × List Char)
  | 0, _ => none
  | fuel + 1, text =>
    match text with
    | '"' :: rest => some ([], rest)
    | '\\' :: rest => do
      let (c, rest) ← escaped? rest
      let (cs, rest) ← contents? fuel rest
      return (c :: cs, rest)
    | c :: rest =>
      if c < ' ' then none
      else do
        let (cs, rest) ← contents? fuel rest
        return (c :: cs, rest)
    | [] => none

def number? (text : List Char) : Option (Json × List Char) :=
  let inNumber (c : Char) : Bool := c.isDigit || ['-', '+', '.', 'e', 'E'].contains c
  (Number.read? (text.takeWhile inNumber)).map fun n => (.number n, text.dropWhile inNumber)

mutual

def value? : Nat → List Char → Option (Json × List Char)
  | 0, _ => none
  | fuel + 1, text =>
    match skipBlanks text with
    | 'n' :: 'u' :: 'l' :: 'l' :: rest => some (.null, rest)
    | 't' :: 'r' :: 'u' :: 'e' :: rest => some (.bool true, rest)
    | 'f' :: 'a' :: 'l' :: 's' :: 'e' :: rest => some (.bool false, rest)
    | '"' :: rest => (contents? fuel rest).map fun (cs, rest) => (.string (String.ofList cs), rest)
    | '[' :: rest =>
      match skipBlanks rest with
      | ']' :: rest => some (.array [], rest)
      | rest => (elements? fuel rest).map fun (elements, rest) => (.array elements, rest)
    | '{' :: rest =>
      match skipBlanks rest with
      | '}' :: rest => some (.object [], rest)
      | rest => (members? fuel rest).map fun (members, rest) => (.object members, rest)
    | rest => number? rest

def elements? : Nat → List Char → Option (List Json × List Char)
  | 0, _ => none
  | fuel + 1, text => do
    let (element, rest) ← value? fuel text
    match skipBlanks rest with
    | ',' :: rest =>
      let (elements, rest) ← elements? fuel rest
      return (element :: elements, rest)
    | ']' :: rest => return ([element], rest)
    | _ => none

def members? : Nat → List Char → Option (List (String × Json) × List Char)
  | 0, _ => none
  | fuel + 1, text =>
    match skipBlanks text with
    | '"' :: rest => do
      let (name, rest) ← contents? fuel rest
      match skipBlanks rest with
      | ':' :: rest =>
        let (element, rest) ← value? fuel rest
        let member := (String.ofList name, element)
        match skipBlanks rest with
        | ',' :: rest =>
          let (members, rest) ← members? fuel rest
          return (member :: members, rest)
        | '}' :: rest => return ([member], rest)
        | _ => none
      | _ => none
    | _ => none

end

end Reader

/-- Reads a text that is one document and nothing else. -/
def read? (text : String) : Option Json := do
  let chars := text.toList
  let (doc, rest) ← Reader.value? (2 * chars.length + 2) chars
  if (Reader.skipBlanks rest).isEmpty then some doc else none

end RecordQuery.Json
