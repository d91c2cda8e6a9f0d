import RecordQuery.Proofs.Binding
import RecordQuery.Proofs.RegistryContents

/-!
# The binding table

Which terms a declared type accepts, and what they are bound to. The table is written down row by
row and apart from the functions that bind, and binding is shown to be the table: a term is refused
for its name if that resolves to nothing, with the first mapping whose type does not accept it, and
is bound to every mapping of its name otherwise.
-/
namespace RecordQuery

/-- Whether a declared type accepts a term. -/
def FieldType.Admits (type : FieldType) : Expr → Prop
  | .booleanTest _ | .negation _ => type.scalar = .boolean
  | .comparison _ op .null =>
    (op = .equal ∨ op = .notEqual) ∧ (type.nullable = true ∨ type.scalar = .text)
  | .comparison _ _ (.integer _) | .comparison _ _ (.decimal _) =>
    type.scalar = .integer ∨ type.scalar = .decimal
  | .comparison _ op (.text _) => type.scalar = .text ∧ (op = .equal ∨ op = .notEqual)
  | .comparison _ op (.bool _) => type.scalar = .boolean ∧ (op = .equal ∨ op = .notEqual)

/-- The rows of the table: the test that a term is bound to, and whether it is complemented. -/
inductive FieldType.BoundTo (type : FieldType) (isCollection : Bool) :
    Expr → ValueTest → Bool → Prop
  | bare {field : String} (boolean : type.scalar = .boolean) :
      BoundTo type isCollection (.booleanTest field) .isTrue false
  | negated {field : String} (boolean : type.scalar = .boolean) (single : isCollection = false) :
      BoundTo type isCollection (.negation field) .isFalse false
  | negatedEach {field : String} (boolean : type.scalar = .boolean)
      (each : isCollection = true) : BoundTo type isCollection (.negation field) .isTrue true
  | absent {field : String} (asked : type.nullable = true ∨ type.scalar = .text) :
      BoundTo type isCollection (.comparison field .equal .null) .isNull false
  | present {field : String} (asked : type.nullable = true ∨ type.scalar = .text) :
      BoundTo type isCollection (.comparison field .notEqual .null) .isNotNull false
  | integer {field : String} {op : CompareOp} {n : Int64} (integer : type.scalar = .integer) :
      BoundTo type isCollection (.comparison field op (.integer n)) (.compare op (.integer n)) false
  | widened {field : String} {op : CompareOp} {n : Int64} (decimal : type.scalar = .decimal) :
      BoundTo type isCollection (.comparison field op (.integer n))
        (.compare op (.decimal (.ofInt64 n))) false
  | decimal {field : String} {op : CompareOp} {d : Decimal}
      (numeric : type.scalar = .integer ∨ type.scalar = .decimal) :
      BoundTo type isCollection (.comparison field op (.decimal d)) (.compare op (.decimal d)) false
  | text {field : String} {op : CompareOp} {s : String} (text : type.scalar = .text)
      (equality : op = .equal ∨ op = .notEqual) :
      BoundTo type isCollection (.comparison field op (.text s)) (.compare op (.text s)) false
  | bool {field : String} {op : CompareOp} {b : Bool} (boolean : type.scalar = .boolean)
      (equality : op = .equal ∨ op = .notEqual) :
      BoundTo type isCollection (.comparison field op (.bool b)) (.compare op (.bool b)) false

def Mismatch.type : Mismatch → FieldType
  | notBoolean type | incomparable type _ _ | neverNull type => type

def FieldType.refusal (type : FieldType) : Expr → Mismatch
  | .booleanTest _ | .negation _ => .notBoolean type
  | .comparison _ .equal .null | .comparison _ .notEqual .null => .neverNull type
  | .comparison _ op literal => .incomparable type literal.kind op

theorem FieldType.type_refusal (type : FieldType) (expr : Expr) :
    (type.refusal expr).type = type := by
  unfold refusal
  split <;> rfl

theorem Mismatch.exists_detail_eq (mismatch : Mismatch) :
    ∃ before after, mismatch.detail = before ++ mismatch.type.name ++ after := by
  cases mismatch with
  | notBoolean type => exact ⟨_, "", String.append_empty.symm⟩
  | incomparable type literal op =>
    have regroup (a b c d e f g : String) :
        a ++ b ++ c ++ d ++ e ++ f ++ g = a ++ b ++ (c ++ d ++ e ++ f ++ g) := by
      simp only [String.append_assoc]
    exact ⟨_, _, regroup _ _ _ _ _ _ _⟩
  | neverNull type =>
    have alone : type.name ++ " field cannot be null"
        = "" ++ type.name ++ " field cannot be null" := by rw [String.empty_append]
    exact ⟨_, _, alone⟩

namespace FieldType

variable {type : FieldType} {expr : Expr}

theorem admitsNull_iff : type.admitsNull = true ↔ type.nullable = true ∨ type.scalar = .text := by
  simp [admitsNull]

theorem isSome_operand?_iff {field : String} {op : CompareOp} {literal : Literal}
    (given : literal ≠ .null) :
    (literal.operand? type.scalar op).isSome = true
      ↔ type.Admits (.comparison field op literal) := by
  cases literal with
  | null => exact absurd rfl given
  | integer n => cases scalar : type.scalar <;> simp [Literal.operand?, Admits, scalar]
  | decimal d => cases scalar : type.scalar <;> simp [Literal.operand?, Admits, scalar]
  | text s =>
    cases scalar : type.scalar <;>
      simp [Literal.operand?, Admits, scalar, ← CompareOp.isEquality_iff]
  | bool b =>
    cases scalar : type.scalar <;>
      simp [Literal.operand?, Admits, scalar, ← CompareOp.isEquality_iff]

theorem boundTo_of_operand? {isCollection : Bool} {field : String} {op : CompareOp}
    {literal : Literal} {operand : Operand}
    (found : literal.operand? type.scalar op = some operand) :
    type.BoundTo isCollection (.comparison field op literal) (.compare op operand) false := by
  cases literal with
  | null => cases found
  | integer n =>
    cases scalar : type.scalar <;> simp [Literal.operand?, scalar] at found
    · subst found
      exact .integer scalar
    · subst found
      exact .widened scalar
  | decimal d =>
    cases scalar : type.scalar <;> simp [Literal.operand?, scalar] at found
    · subst found
      exact .decimal (.inl scalar)
    · subst found
      exact .decimal (.inr scalar)
  | text s =>
    cases scalar : type.scalar <;> simp [Literal.operand?, scalar] at found
    obtain ⟨equality, rfl⟩ := found
    exact .text scalar (CompareOp.isEquality_iff.1 equality)
  | bool b =>
    cases scalar : type.scalar <;> simp [Literal.operand?, scalar] at found
    obtain ⟨equality, rfl⟩ := found
    exact .bool scalar (CompareOp.isEquality_iff.1 equality)

/-- A type refuses the terms that it does not accept, and says why. -/
theorem bind_eq_error_iff {mismatch : Mismatch} :
    type.bind expr = .error mismatch ↔ ¬type.Admits expr ∧ mismatch = type.refusal expr := by
  cases expr with
  | booleanTest field =>
    by_cases boolean : type.scalar = .boolean <;> simp [bind, Admits, refusal, boolean, eq_comm]
  | negation field =>
    by_cases boolean : type.scalar = .boolean <;> simp [bind, Admits, refusal, boolean, eq_comm]
  | comparison field op literal =>
    by_cases null : literal = .null
    · subst null
      have accepted : type.Admits (.comparison field op .null)
          ↔ op.isEquality = true ∧ type.admitsNull = true := by
        rw [admitsNull_iff, CompareOp.isEquality_iff]
        rfl
      rw [accepted]
      cases asked : type.admitsNull <;>
        cases op <;> simp [bind, bindComparison, CompareOp.isEquality, refusal, asked,
          Literal.kind, @eq_comm _ mismatch]
    · have accepted : (literal.operand? type.scalar op).isSome = true
          ↔ type.Admits (.comparison field op literal) := isSome_operand?_iff null
      have reason : type.refusal (.comparison field op literal)
          = .incomparable type literal.kind op := by
        cases literal with
        | null => exact absurd rfl null
        | _ => cases op <;> rfl
      rw [← accepted, reason]
      cases found : literal.operand? type.scalar op with
      | none =>
        have bound : type.bind (.comparison field op literal)
            = .error (.incomparable type literal.kind op) := by
          cases literal with
          | null => exact absurd rfl null
          | _ => simp only [bind, bindComparison, found]
        simp [bound, eq_comm]
      | some operand =>
        have bound : type.bind (.comparison field op literal) = .ok (.compare op operand) := by
          cases literal with
          | null => exact absurd rfl null
          | _ => simp only [bind, bindComparison, found]
        simp [bound]

theorem exists_bind_eq_ok_iff : (∃ test, type.bind expr = .ok test) ↔ type.Admits expr := by
  cases bound : type.bind expr with
  | error mismatch => simpa using (bind_eq_error_iff.1 bound).1
  | ok test =>
    have accepted : type.Admits expr := by
      by_contra refused
      have failed := bind_eq_error_iff.2 ⟨refused, rfl⟩
      rw [bound] at failed
      cases failed
    simpa using accepted

theorem BoundTo.admits {isCollection complement : Bool} {test : ValueTest}
    (row : type.BoundTo isCollection expr test complement) : type.Admits expr := by
  cases row with
  | bare boolean => exact boolean
  | negated boolean => exact boolean
  | negatedEach boolean => exact boolean
  | absent asked => exact ⟨.inl rfl, asked⟩
  | present asked => exact ⟨.inr rfl, asked⟩
  | integer integer => exact .inl integer
  | widened decimal => exact .inr decimal
  | decimal numeric => exact numeric
  | text text equality => exact ⟨text, equality⟩
  | bool boolean equality => exact ⟨boolean, equality⟩

theorem BoundTo.unique {isCollection complement complement' : Bool} {test test' : ValueTest}
    (row : type.BoundTo isCollection expr test complement)
    (row' : type.BoundTo isCollection expr test' complement') :
    test = test' ∧ complement = complement' := by
  cases row <;> cases row' <;> simp_all

end FieldType

namespace FieldMapping

variable {R : Type*} {mapping : FieldMapping R} {expr : Expr} {field : BoundField R}

theorem boundTo_of_bind (bound : mapping.bind expr = .ok field) :
    field.mapping = mapping
      ∧ mapping.type.BoundTo mapping.isCollection expr field.test field.complement := by
  obtain ⟨test, typed, rfl⟩ := bind_eq_ok_iff.1 bound
  cases expr with
  | booleanTest name =>
    obtain ⟨boolean, rfl⟩ := FieldType.bind_booleanTest_eq_ok_iff.1 typed
    rw [if_neg (by simp [Expr.isNegation])]
    exact ⟨rfl, .bare boolean⟩
  | negation name =>
    obtain ⟨boolean, rfl⟩ := FieldType.bind_negation_eq_ok_iff.1 typed
    cases each : mapping.isCollection with
    | true => exact ⟨rfl, .negatedEach boolean rfl⟩
    | false => exact ⟨rfl, .negated boolean rfl⟩
  | comparison name op literal =>
    rw [if_neg (by simp [Expr.isNegation])]
    refine ⟨rfl, ?_⟩
    obtain ⟨rfl, asked, ⟨rfl, rfl⟩ | ⟨rfl, rfl⟩⟩ | ⟨operand, found, rfl⟩ :=
      FieldType.bindComparison_eq_ok_iff.1 typed
    · exact .absent (FieldType.admitsNull_iff.1 asked)
    · exact .present (FieldType.admitsNull_iff.1 asked)
    · exact FieldType.boundTo_of_operand? found

theorem exists_bind_eq_ok_iff :
    (∃ field, mapping.bind expr = .ok field) ↔ mapping.type.Admits expr := by
  rw [← FieldType.exists_bind_eq_ok_iff]
  constructor
  · rintro ⟨field, bound⟩
    obtain ⟨test, typed, -⟩ := bind_eq_ok_iff.1 bound
    exact ⟨test, typed⟩
  · rintro ⟨test, typed⟩
    exact ⟨_, bind_eq_ok_iff.2 ⟨test, typed, rfl⟩⟩

/-- A mapping is bound as its row of the table says, and in no other way. -/
theorem bind_eq_ok_iff_boundTo :
    mapping.bind expr = .ok field
      ↔ field.mapping = mapping
        ∧ mapping.type.BoundTo mapping.isCollection expr field.test field.complement := by
  constructor
  · exact boundTo_of_bind
  · rintro ⟨same, row⟩
    obtain ⟨other, bound⟩ := exists_bind_eq_ok_iff.2 row.admits
    obtain ⟨same', row'⟩ := boundTo_of_bind bound
    obtain ⟨test, complement⟩ := row.unique row'
    have one : field = other := by
      cases field
      cases other
      simp_all
    rw [one, bound]

theorem bind_eq_error_iff_refusal {mismatch : Mismatch} :
    mapping.bind expr = .error mismatch
      ↔ ¬mapping.type.Admits expr ∧ mismatch = mapping.type.refusal expr := by
  rw [bind_eq_error_iff, FieldType.bind_eq_error_iff]

end FieldMapping

/-- What a term comes to, given what its name resolves to. -/
inductive Expr.Outcome {R : Type*} (expr : Expr) :
    Option (List (FieldMapping R)) → Except QueryError (Predicate R) → Prop
  | unknown : Outcome expr none (.error (.unknownField expr.field))
  /-- The first mapping that does not accept the term decides, whatever comes behind it. -/
  | refused {before after : List (FieldMapping R)} {mapping : FieldMapping R}
      (accepted : ∀ earlier ∈ before, earlier.type.Admits expr)
      (refuses : ¬mapping.type.Admits expr) :
      Outcome expr (some (before ++ mapping :: after))
        (.error (.typeMismatch expr.field (mapping.type.refusal expr)))
  | bound {mappings : List (FieldMapping R)} {fields : List (BoundField R)}
      (rows : List.Forall₂ (fun mapping field => field.mapping = mapping
        ∧ mapping.type.BoundTo mapping.isCollection expr field.test field.complement)
        mappings fields) :
      Outcome expr (some mappings) (.ok ⟨expr, fields⟩)

namespace Registry

variable {R : Type*} {registry : Registry R} {expr : Expr}

/-- Binding comes to what the table says. -/
theorem outcome_bind (registry : Registry R) (expr : Expr) :
    expr.Outcome (registry.resolve expr.field) (registry.bind expr) := by
  unfold bind
  cases registry.resolve expr.field with
  | none => exact .unknown
  | some mappings =>
    dsimp only
    cases bound : FieldMapping.bindAll expr mappings with
    | error mismatch =>
      obtain ⟨before, mapping, after, rfl, earlier, refused⟩ :=
        FieldMapping.bindAll_eq_error_iff.1 bound
      obtain ⟨refuses, rfl⟩ := FieldMapping.bind_eq_error_iff_refusal.1 refused
      refine .refused ?_ refuses
      intro mapping mem
      exact FieldMapping.exists_bind_eq_ok_iff.1 (earlier mapping mem)
    | ok fields =>
      refine .bound ((FieldMapping.bindAll_eq_ok_iff.1 bound).imp ?_)
      intro mapping field
      exact FieldMapping.boundTo_of_bind

theorem bind_eq_of_outcome {result : Except QueryError (Predicate R)}
    (outcome : expr.Outcome (registry.resolve expr.field) result) :
    registry.bind expr = result := by
  unfold bind
  generalize registry.resolve expr.field = resolved at outcome ⊢
  cases outcome with
  | unknown => rfl
  | @refused before after mapping accepted refuses =>
    have refused : FieldMapping.bindAll expr (before ++ mapping :: after)
        = .error (mapping.type.refusal expr) := by
      refine FieldMapping.bindAll_eq_error_iff.2 ⟨before, mapping, after, rfl, ?_, ?_⟩
      · intro earlier mem
        exact FieldMapping.exists_bind_eq_ok_iff.2 (accepted earlier mem)
      · exact FieldMapping.bind_eq_error_iff_refusal.2 ⟨refuses, rfl⟩
    simp only [refused]
  | @bound mappings fields rows =>
    have each : FieldMapping.bindAll expr mappings = .ok fields :=
      FieldMapping.bindAll_eq_ok_iff.2
        (rows.imp fun mapping field => FieldMapping.bind_eq_ok_iff_boundTo.2)
    simp only [each]

theorem bind_eq_iff_outcome {result : Except QueryError (Predicate R)} :
    registry.bind expr = result ↔ expr.Outcome (registry.resolve expr.field) result := by
  constructor
  · rintro rfl
    exact outcome_bind registry expr
  · exact bind_eq_of_outcome

theorem exists_bind_eq_ok_iff :
    (∃ predicate, registry.bind expr = .ok predicate)
      ↔ ∃ mappings, registry.resolve expr.field = some mappings
        ∧ ∀ mapping ∈ mappings, mapping.type.Admits expr := by
  constructor
  · rintro ⟨predicate, bound⟩
    obtain ⟨mappings, fields, found, each, -⟩ := bind_eq_ok_iff.1 bound
    refine ⟨mappings, found, fun mapping mem => ?_⟩
    exact FieldMapping.exists_bind_eq_ok_iff.1 (FieldMapping.exists_bind_of_mem each mem)
  · rintro ⟨mappings, found, accepted⟩
    have outcome := outcome_bind registry expr
    rw [found] at outcome
    cases bound : registry.bind expr with
    | ok predicate => exact ⟨predicate, rfl⟩
    | error error =>
      rw [bound] at outcome
      cases outcome with
      | @refused before after mapping _ refuses =>
        exact absurd (accepted mapping (by simp)) refuses

theorem exists_bind_of_only {mapping : FieldMapping R}
    (only : registry.resolve expr.field = some [mapping]) (admits : mapping.type.Admits expr) :
    ∃ predicate, registry.bind expr = .ok predicate :=
  exists_bind_eq_ok_iff.2 ⟨_, only, by simpa using admits⟩

theorem bind_eq_unknownField_iff {name : String} :
    registry.bind expr = .error (.unknownField name)
      ↔ registry.resolve expr.field = none ∧ name = expr.field := by
  rw [bind_eq_iff_outcome]
  constructor
  · intro outcome
    generalize registry.resolve expr.field = resolved at outcome
    cases outcome
    exact ⟨rfl, rfl⟩
  · rintro ⟨unknown, rfl⟩
    rw [unknown]
    exact .unknown

end Registry

/-- Two results of binding are alike if both are refusals for one name, both are mismatches on one
field, whatever their wording, or both are predicates that are related. -/
inductive BoundAlike {R S : Type*} (related : Predicate R → Predicate S → Prop) :
    Except QueryError (Predicate R) → Except QueryError (Predicate S) → Prop
  | unknown (name : String) :
      BoundAlike related (.error (.unknownField name)) (.error (.unknownField name))
  | mismatch (field : String) (one other : Mismatch) :
      BoundAlike related (.error (.typeMismatch field one)) (.error (.typeMismatch field other))
  | bound {predicate : Predicate R} {predicate' : Predicate S}
      (holds : related predicate predicate') : BoundAlike related (.ok predicate) (.ok predicate')

def Predicate.AcceptsSame {R : Type*} (predicate predicate' : Predicate R) : Prop :=
  ∀ record, predicate.accepts record = predicate'.accepts record

namespace Registry

variable {R : Type*} {registry : Registry R} {expr : Expr}

theorem causes_of_bind {error : QueryError} (refused : registry.bind expr = .error error) :
    registry.resolve expr.field = none ∧ error = .unknownField expr.field
      ∨ registry.resolve expr.field ≠ none
        ∧ ∃ mismatch, error = .typeMismatch expr.field mismatch := by
  have outcome := outcome_bind registry expr
  rw [refused] at outcome
  generalize registry.resolve expr.field = resolved at outcome ⊢
  cases outcome with
  | unknown => exact .inl ⟨rfl, rfl⟩
  | refused => exact .inr ⟨by simp, _, rfl⟩

/-- Two terms come to the same kind of result if they have one name, it resolves for both or for
neither, and both are bound or neither is. -/
theorem boundAlike_of_bind {S : Type*} {registry' : Registry S} {expr' : Expr}
    {related : Predicate R → Predicate S → Prop} (name : expr'.field = expr.field)
    (unknown : registry.resolve expr.field = none ↔ registry'.resolve expr'.field = none)
    (succeeds : (∃ predicate', registry'.bind expr' = .ok predicate')
      ↔ ∃ predicate, registry.bind expr = .ok predicate)
    (holds : ∀ predicate predicate', registry.bind expr = .ok predicate →
      registry'.bind expr' = .ok predicate' → related predicate predicate') :
    BoundAlike related (registry.bind expr) (registry'.bind expr') := by
  cases bound : registry.bind expr with
  | ok predicate =>
    obtain ⟨predicate', bound'⟩ := succeeds.2 ⟨predicate, bound⟩
    rw [bound']
    exact .bound (holds predicate predicate' bound bound')
  | error error =>
    cases bound' : registry'.bind expr' with
    | ok predicate' =>
      obtain ⟨predicate, other⟩ := succeeds.1 ⟨predicate', bound'⟩
      rw [bound] at other
      cases other
    | error error' =>
      -- Which of the two causes it is depends on the name alone.
      rcases causes_of_bind bound with ⟨none, rfl⟩ | ⟨found, mismatch, rfl⟩
      · rcases causes_of_bind bound' with ⟨-, rfl⟩ | ⟨found, -⟩
        · rw [name]
          exact .unknown expr.field
        · exact absurd (unknown.1 none) found
      · rcases causes_of_bind bound' with ⟨none, -⟩ | ⟨-, mismatch', rfl⟩
        · exact absurd (unknown.2 none) found
        · rw [name]
          exact .mismatch expr.field mismatch mismatch'

theorem boundAlike_of_admits {expr' : Expr} {related : Predicate R → Predicate R → Prop}
    (name : expr'.field = expr.field)
    (same : ∀ type : FieldType, type.Admits expr' ↔ type.Admits expr)
    (holds : ∀ predicate predicate', registry.bind expr = .ok predicate →
      registry.bind expr' = .ok predicate' → related predicate predicate') :
    BoundAlike related (registry.bind expr) (registry.bind expr') := by
  refine boundAlike_of_bind name (by rw [name]) ?_ holds
  rw [exists_bind_eq_ok_iff, exists_bind_eq_ok_iff, name]
  simp only [same]

/-- Binding a term comes to what the table says of the mappings of its name, which after a run of
calls on a builder stand in the order in which they were registered. It fails for the name if there
are none, and it succeeds if the declared types of all of them accept the term. The wording of a
mismatch has the declared type of the mapping that it comes from in it. -/
theorem bind_decided_by_table {R : Type} (registry : Registry R) (expr : Expr) :
    (∀ result, registry.bind expr = result
        ↔ expr.Outcome (registry.resolve expr.field) result)
      ∧ (∀ name, registry.bind expr = .error (.unknownField name)
        ↔ registry.resolve expr.field = none ∧ name = expr.field)
      ∧ ((∃ predicate, registry.bind expr = .ok predicate)
        ↔ ∃ mappings, registry.resolve expr.field = some mappings
          ∧ ∀ mapping ∈ mappings, mapping.type.Admits expr)
      ∧ (∀ mapping : FieldMapping R, ∃ before after,
        (mapping.type.refusal expr).detail = before ++ mapping.type.name ++ after)
      ∧ ∀ (calls : List (BuilderCall R)) (result : Except QueryError (Predicate R)),
        (BuilderCall.run calls).freeze.bind expr = result
          ↔ expr.Outcome (nonempty? (FieldMapping.inForce expr.field
              (BuilderCall.registered calls))) result := by
  refine ⟨fun result => bind_eq_iff_outcome, fun name => bind_eq_unknownField_iff,
    exists_bind_eq_ok_iff, ?_, ?_⟩
  · intro mapping
    obtain ⟨before, after, detail⟩ := (mapping.type.refusal expr).exists_detail_eq
    rw [FieldType.type_refusal] at detail
    exact ⟨before, after, detail⟩
  · intro calls result
    rw [bind_eq_iff_outcome, RegistryBuilder.freeze, BuilderCall.mappings_run, resolve_ofMappings]
    rfl

end Registry

end RecordQuery
