import RecordQuery.Predicate.Basic
import RecordQuery.Registry.Basic
import RecordQuery.Unicode.Printable

/-!
# Debug texts

One-line texts of predicates and registries that show their parts by name. Text stands in double
quotes; what is not printable, or would join the character before it, is shown by its code.
-/
namespace RecordQuery

universe u

/-- A character within double quotes. -/
def debugChar (c : Char) : List Char :=
  if c = '"' then ['\\', '"']
  else if c = '\\' then ['\\', '\\']
  else if c = '\n' then ['\\', 'n']
  else if c = '\r' then ['\\', 'r']
  else if c = '\t' then ['\\', 't']
  else if c = '\x00' then ['\\', '0']
  else if Unicode.isPrintable c then [c]
  else ['\\', 'u', '\x7b'] ++ Nat.toDigits 16 c.toNat ++ ['\x7d']

def debugString (s : String) : String :=
  "\"" ++ String.ofList (s.toList.flatMap debugChar) ++ "\""

def debugList (items : List String) : String := "[" ++ ", ".intercalate items ++ "]"

/-- Parts under their names, in braces behind the name of the whole. -/
def debugParts (name : String) (parts : List (String × String)) : String :=
  name ++ " \x7b " ++ ", ".intercalate (parts.map fun (label, part) => label ++ ": " ++ part)
    ++ " \x7d"

def CompareOp.debug : CompareOp → String
  | equal => "Equal"
  | notEqual => "NotEqual"
  | less => "LessThan"
  | lessEqual => "LessEqual"
  | greater => "GreaterThan"
  | greaterEqual => "GreaterEqual"

def Literal.debug : Literal → String
  | integer n => "Integer(" ++ integerText n ++ ")"
  | decimal d => "Decimal(" ++ d.text ++ ")"
  | text s => "Text(" ++ debugString s ++ ")"
  | bool b => "Bool(" ++ boolText b ++ ")"
  | null => "Null"

def Expr.debug : Expr → String
  | comparison field op literal =>
    debugParts "Comparison"
      [("field", debugString field), ("op", op.debug), ("literal", literal.debug)]
  | booleanTest field => debugParts "ImplicitBooleanTest" [("field", debugString field)]
  | negation field => debugParts "Negation" [("field", debugString field)]

def ScalarType.debug : ScalarType → String
  | integer => "Integer"
  | decimal => "Decimal"
  | text => "Text"
  | boolean => "Bool"

def FieldType.debug (type : FieldType) : String :=
  debugParts "FieldType" [("scalar", type.scalar.debug), ("nullable", boolText type.nullable)]

def FieldMapping.debug {R : Type u} (mapping : FieldMapping R) : String :=
  let shape :=
    match mapping.shape with
    | none => "None"
    | some shape => "Some(" ++ debugString shape.name ++ ")"
  debugParts "FieldMapping"
    [("name", debugString mapping.name), ("field_type", mapping.type.debug), ("shape", shape),
      ("collection", boolText mapping.isCollection)]

def Operand.debug : Operand → String
  | integer n => "Integer(" ++ integerText n ++ ")"
  | decimal d => "Decimal(" ++ d.text ++ ")"
  | text s => "Text(" ++ debugString s ++ ")"
  | bool b => "Bool(" ++ boolText b ++ ")"

def ValueTest.debug : ValueTest → String
  | compare op operand => debugParts "Compare" [("op", op.debug), ("operand", operand.debug)]
  | isNull => "IsNull"
  | isNotNull => "IsNotNull"
  | isTrue => "IsTrue"
  | isFalse => "IsFalse"

def BoundField.debug {R : Type u} (field : BoundField R) : String :=
  "(" ++ field.mapping.debug ++ ", " ++ field.test.debug ++ ", " ++ boolText field.complement ++ ")"

def Predicate.debug {R : Type u} (predicate : Predicate R) : String :=
  debugParts "Predicate"
    [("expr", predicate.expr.debug),
      ("mappings", debugList (predicate.fields.map BoundField.debug))]

def RegistryEntry.debug {R : Type u} (entry : RegistryEntry R) : String :=
  debugString entry.key ++ ": " ++ debugList (entry.mappings.map FieldMapping.debug)

def Registry.debug {R : Type u} (registry : Registry R) : String :=
  let entries := ", ".intercalate (registry.entries.map RegistryEntry.debug)
  debugParts "MappingRegistry" [("fields", "\x7b" ++ entries ++ "\x7d")]

end RecordQuery
