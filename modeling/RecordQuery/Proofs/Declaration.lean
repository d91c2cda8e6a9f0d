import RecordQuery.Json.Mapping
import RecordQuery.Proofs.Resolution

/-!
# Declared fields and the values they read

What a caller registers, as data: stored and computed fields, single or for each element of a
collection, the same for a shaped part of the records, and pointers into documents. Each declared
field reads a list of values out of a record, or does not apply to it. The mapping that registration
makes of a declared field has only a probe and a gate; both are determined by these values.
-/
namespace RecordQuery

/-- A stored or computed field of records of type `R`, or such a field of each element. -/
inductive TypedField (R : Type) : Type 1
  | column (name : String) (type : ColumnType) (read : R → type.Carrier)
  | computed (name : String) (type : FieldType) (read : R → Value)
  | columnOfEach {E : Type} (name : String) (type : ColumnType) (elements : R → List E)
      (read : E → type.Carrier)
  | computedOfEach {E : Type} (name : String) (type : FieldType) (elements : R → List E)
      (read : E → Value)

namespace TypedField

variable {R : Type}

def mapping : TypedField R → FieldMapping R
  | column name type read => .column name type read
  | computed name type read => .computed name type read
  | columnOfEach name type elements read => .columnOfEach name type elements read
  | computedOfEach name type elements read => .computedOfEach name type elements read

def isCollection : TypedField R → Bool
  | column .. | computed .. => false
  | columnOfEach .. | computedOfEach .. => true

def values : TypedField R → R → List Value
  | column _ type read, record => [type.value (read record)]
  | computed _ _ read, record => [read record]
  | columnOfEach _ type elements read, record =>
    (elements record).map fun element => type.value (read element)
  | computedOfEach _ _ elements read, record => (elements record).map read

theorem probe_mapping (field : TypedField R) (record : R) (test : Value → Bool) :
    field.mapping.probe record test = (field.values record).any test := by
  cases field with
  | column name type read => simp [mapping, values, FieldMapping.column]
  | computed name type read => simp [mapping, values, FieldMapping.computed]
  | columnOfEach name type elements read =>
    simp [mapping, values, FieldMapping.columnOfEach, List.any_map, Function.comp_def]
  | computedOfEach name type elements read =>
    simp [mapping, values, FieldMapping.computedOfEach, List.any_map, Function.comp_def]

theorem applies_mapping (field : TypedField R) (record : R) :
    field.mapping.applies record = true := by
  cases field <;> rfl

end TypedField

/-- The values that a part of a document contributes: a missing part counts as null, and an array,
an object or a number that no value holds exactly contributes nothing. -/
def Json.readings : Option Json → List Value
  | none => [.null]
  | some .null => [.null]
  | some (.bool b) => [.bool b]
  | some (.string s) => [.text s]
  | some (.number n) => n.value?.toList
  | some (.array _) => []
  | some (.object _) => []

theorem Json.any_readings (part : Option Json) (test : Value → Bool) :
    (readings part).any test = (fieldValue? part).any test := by
  cases part with
  | none => simp [readings, fieldValue?]
  | some part =>
    cases part with
    | number n => cases found : n.value? <;> simp [readings, fieldValue?, found]
    | _ => simp [readings, fieldValue?]

/-- One declared field of records of type `R`. -/
inductive Declaration : Type → Type 1
  | typed {R : Type} (field : TypedField R) : Declaration R
  | narrowed {R S : Type} (shape : Shape) (narrow : R → Option S) (field : TypedField S) :
      Declaration R
  | pointer (name : String) (type : FieldType) (path : String) : Declaration Json
  | pointerOfEach (name : String) (type : FieldType) (array element : String) : Declaration Json

namespace Declaration

variable {R : Type}

def mapping : {R : Type} → Declaration R → FieldMapping R
  | _, typed field => field.mapping
  | _, narrowed shape narrow field => field.mapping.narrowed shape narrow
  | _, pointer name type path => .pointer name type path
  | _, pointerOfEach name type array element => .pointerOfEach name type array element

def isCollection : {R : Type} → Declaration R → Bool
  | _, typed field => field.isCollection
  | _, narrowed _ _ field => field.isCollection
  | _, pointer .. => false
  | _, pointerOfEach .. => true

/-- The values that the field has in a record, or nothing if the record lacks the shape. -/
def values? : {R : Type} → Declaration R → R → Option (List Value)
  | _, typed field, record => some (field.values record)
  | _, narrowed _ narrow field, record => (narrow record).map field.values
  | _, pointer _ _ path, doc => some (Json.readings (doc.pointer? path))
  | _, pointerOfEach _ _ array element, doc =>
    match doc.pointer? array with
    | some (.array parts) => some (parts.flatMap fun part => Json.readings (part.pointer? element))
    | _ => some []

theorem isCollection_mapping (declaration : Declaration R) :
    declaration.mapping.isCollection = declaration.isCollection := by
  cases declaration with
  | typed field => cases field <;> rfl
  | narrowed shape narrow field => cases field <;> rfl
  | pointer name type path => rfl
  | pointerOfEach name type array element => rfl

/-- The mapping's probe asks whether one of the values passes. -/
theorem probe_mapping (declaration : Declaration R) (record : R) (test : Value → Bool) :
    declaration.mapping.probe record test
      = (declaration.values? record).any fun values => values.any test := by
  cases declaration with
  | typed field => simpa [mapping, values?] using field.probe_mapping record test
  | narrowed shape narrow field =>
    cases part : narrow record with
    | none => simp [mapping, values?, part]
    | some part' => simp [mapping, values?, part, field.probe_mapping]
  | pointer name type path =>
    simp [mapping, values?, FieldMapping.pointer, Json.any_readings]
  | pointerOfEach name type array element =>
    have elements (parts : List Json) :
        (parts.flatMap fun part => Json.readings (part.pointer? element)).any test
          = parts.any fun part => (Json.fieldValue? (part.pointer? element)).any test := by
      rw [List.any_flatMap]
      simp only [Json.any_readings]
    cases found : record.pointer? array with
    | none => simp [mapping, values?, FieldMapping.pointerOfEach, found]
    | some part =>
      cases part <;>
        simp [mapping, values?, FieldMapping.pointerOfEach, found, Json.elements?, elements]

/-- The mapping applies to the records in which the field has values, be they none at all. -/
theorem applies_mapping (declaration : Declaration R) (record : R) :
    declaration.mapping.applies record = (declaration.values? record).isSome := by
  cases declaration with
  | typed field => exact field.applies_mapping record
  | narrowed shape narrow field =>
    cases part : narrow record with
    | none => simp [mapping, values?, part]
    | some part' => simp [mapping, values?, part, field.applies_mapping]
  | pointer name type path => rfl
  | pointerOfEach name type array element =>
    cases found : record.pointer? array with
    | none => simp [mapping, values?, FieldMapping.pointerOfEach, FieldMapping.applies, found]
    | some part =>
      cases part <;>
        simp [mapping, values?, FieldMapping.pointerOfEach, FieldMapping.applies, found]

/-- The fields that a name refers to: those in force that have it, in order of declaration. -/
def resolved (name : String) (declarations : List (Declaration R)) : List (Declaration R) :=
  (lastOfEachSlot (fun declaration => declaration.mapping.slot) declarations).filter
    fun declaration => declaration.mapping.key = Unicode.lowercase name

end Declaration

/-- One call on a builder. -/
inductive Registration : Type → Type 1
  | typed {R : Type} (field : TypedField R) : Registration R
  | subtype {R S : Type} (shape : Shape) (narrow : R → Option S) (fields : List (TypedField S)) :
      Registration R
  | pointer (name : String) (type : FieldType) (path : String) : Registration Json
  | pointerOfEach (name : String) (type : FieldType) (array element : String) : Registration Json

namespace Registration

variable {R : Type}

def declarations : {R : Type} → Registration R → List (Declaration R)
  | _, typed field => [.typed field]
  | _, subtype shape narrow fields => fields.map (.narrowed shape narrow)
  | _, pointer name type path => [.pointer name type path]
  | _, pointerOfEach name type array element => [.pointerOfEach name type array element]

def enter : {R : Type} → Registration R → RegistryBuilder R → RegistryBuilder R
  | _, typed field, builder => builder.register field.mapping
  | _, subtype shape narrow fields, builder =>
    builder.registerNarrowed shape narrow (fields.map TypedField.mapping)
  | _, pointer name type path, builder => builder.register (.pointer name type path)
  | _, pointerOfEach name type array element, builder =>
    builder.register (.pointerOfEach name type array element)

def enterAll (registrations : List (Registration R)) (builder : RegistryBuilder R) :
    RegistryBuilder R :=
  registrations.foldl (fun builder registration => registration.enter builder) builder

def registry (registrations : List (Registration R)) : Registry R :=
  (enterAll registrations .empty).freeze

theorem enter_eq_registerAll (registration : Registration R) (builder : RegistryBuilder R) :
    registration.enter builder
      = builder.registerAll (registration.declarations.map Declaration.mapping) := by
  cases registration with
  | subtype shape narrow fields =>
    simp [enter, declarations, RegistryBuilder.registerNarrowed, Function.comp_def,
      Declaration.mapping]
  | _ => rfl

theorem enterAll_eq_registerAll (registrations : List (Registration R))
    (builder : RegistryBuilder R) :
    enterAll registrations builder
      = builder.registerAll ((registrations.flatMap declarations).map Declaration.mapping) := by
  unfold enterAll
  induction registrations generalizing builder with
  | nil => rfl
  | cons registration rest ih =>
    rw [List.foldl_cons, ih, enter_eq_registerAll, List.flatMap_cons, List.map_append]
    simp [RegistryBuilder.registerAll, List.foldl_append]

theorem resolve_registry (registrations : List (Registration R)) (name : String) :
    (registry registrations).resolve name
      = nonempty? ((Declaration.resolved name (registrations.flatMap declarations)).map
          Declaration.mapping) := by
  rw [registry, enterAll_eq_registerAll, RegistryBuilder.resolve_freeze_registerAll,
    lastOfEachSlot_map, List.filter_map]
  rfl

end Registration
end RecordQuery
