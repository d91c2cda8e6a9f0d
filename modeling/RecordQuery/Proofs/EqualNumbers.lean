import RecordQuery.Proofs.BindingTable
import RecordQuery.Proofs.DocumentNumbers
import RecordQuery.Proofs.Numbers
import RecordQuery.Proofs.QuerySemantics

/-!
# Equal numbers

Nothing depends on the form in which a number stands. Terms with equal numbers are bound to the same
fields and accept the same records, and records in which equal numbers stand are accepted alike: an
integer and a decimal, decimals of several scales, an integer and a float in a document. For a
float, the number that counts is the one its shortest decimal form says.
-/
namespace RecordQuery

namespace Value

/-- Two values are the same, or are equal numbers. -/
def Agrees (one other : Value) : Prop :=
  one = other ∨ ∃ q, one.number? = some q ∧ other.number? = some q

theorem meets_iff_of_number? {value : Value} {q : ℚ} (number : value.number? = some q)
    (op : CompareOp) (literal : Literal) :
    value.Meets op literal ↔ ∃ r, literal.number? = some r ∧ op.Relates q r := by
  cases value with
  | integer n =>
    cases number
    cases literal <;> simp [Meets, Value.number?, Literal.number?]
  | decimal d =>
    cases number
    cases literal <;> simp [Meets, Value.number?, Literal.number?]
  | _ => cases number

theorem meets_congr {one other : Value} (agree : one.Agrees other) (op : CompareOp)
    (literal : Literal) : one.Meets op literal ↔ other.Meets op literal := by
  rcases agree with rfl | ⟨q, number, number'⟩
  · rfl
  · rw [meets_iff_of_number? number, meets_iff_of_number? number']

theorem meets_literal_congr {literal literal' : Literal} {q : ℚ}
    (number : literal.number? = some q) (number' : literal'.number? = some q) (op : CompareOp)
    (value : Value) : value.Meets op literal ↔ value.Meets op literal' := by
  cases found : value.number? with
  | some r => rw [meets_iff_of_number? found, meets_iff_of_number? found, number, number']
  | none =>
    -- Null differs from every number, and other values are not comparable with any.
    cases value with
    | integer n => cases found
    | decimal d => cases found
    | null => rfl
    | bool b =>
      cases literal <;> cases literal' <;> simp_all [Meets, Literal.number?]
    | text s =>
      cases literal <;> cases literal' <;> simp_all [Meets, Literal.number?]

end Value

namespace FieldType

theorem admits_number_congr {literal literal' : Literal} {q r : ℚ}
    (number : literal.number? = some q) (number' : literal'.number? = some r) (type : FieldType)
    (field : String) (op : CompareOp) :
    type.Admits (.comparison field op literal') ↔ type.Admits (.comparison field op literal) := by
  cases literal <;> cases literal' <;> simp_all [Admits, Literal.number?]

end FieldType

namespace FieldMapping

variable {R : Type*} {mapping : FieldMapping R}

theorem exists_operand_of_bind {literal : Literal} {q : ℚ} (number : literal.number? = some q)
    {name : String} {op : CompareOp} {field : BoundField R}
    (bound : mapping.bind (.comparison name op literal) = .ok field) :
    ∃ operand, literal.operand? mapping.type.scalar op = some operand
      ∧ field = ⟨mapping, .compare op operand, false⟩ := by
  obtain ⟨test, typed, rfl⟩ := bind_eq_ok_iff.1 bound
  rw [if_neg (by simp [Expr.isNegation])]
  rcases FieldType.bindComparison_eq_ok_iff.1 typed with ⟨rfl, -⟩ | ⟨operand, found, rfl⟩
  · cases number
  · exact ⟨operand, found, rfl⟩

theorem holds_congr {literal literal' : Literal} {q : ℚ} (number : literal.number? = some q)
    (number' : literal'.number? = some q) {name : String} {op : CompareOp}
    {field field' : BoundField R} (bound : mapping.bind (.comparison name op literal) = .ok field)
    (bound' : mapping.bind (.comparison name op literal') = .ok field') (record : R) :
    field.holds record = field'.holds record := by
  obtain ⟨operand, found, rfl⟩ := exists_operand_of_bind number bound
  obtain ⟨operand', found', rfl⟩ := exists_operand_of_bind number' bound'
  have tests : (ValueTest.compare op operand).passes = (ValueTest.compare op operand').passes := by
    funext value
    rw [Bool.eq_iff_iff, ValueTest.passes_compare_iff_meets found,
      ValueTest.passes_compare_iff_meets found']
    exact Value.meets_literal_congr number number' op value
  simp only [BoundField.holds, tests]

theorem any_holds_congr {literal literal' : Literal} {q : ℚ} (number : literal.number? = some q)
    (number' : literal'.number? = some q) {name : String} {op : CompareOp}
    {mappings : List (FieldMapping R)} {fields fields' : List (BoundField R)}
    (each : List.Forall₂ (fun mapping field =>
      mapping.bind (.comparison name op literal) = .ok field) mappings fields)
    (each' : List.Forall₂ (fun mapping field =>
      mapping.bind (.comparison name op literal') = .ok field) mappings fields') (record : R) :
    (fields.any fun field => field.holds record) = fields'.any fun field => field.holds record := by
  induction each generalizing fields' with
  | nil =>
    cases each'
    rfl
  | cons first _ ih =>
    cases each' with
    | cons first' rest' =>
      rw [List.any_cons, List.any_cons, holds_congr number number' first first', ih rest']

end FieldMapping

namespace Registry

variable {R : Type*}

theorem boundAlike_of_number? (registry : Registry R) (field : String) (op : CompareOp)
    {literal literal' : Literal} {q : ℚ} (number : literal.number? = some q)
    (number' : literal'.number? = some q) :
    BoundAlike Predicate.AcceptsSame (registry.bind (.comparison field op literal))
      (registry.bind (.comparison field op literal')) := by
  refine boundAlike_of_admits rfl ?_ ?_
  · intro type
    exact FieldType.admits_number_congr number number' type field op
  · intro predicate predicate' bound bound' record
    obtain ⟨mappings, fields, found, each, rfl⟩ := bind_eq_ok_iff.1 bound
    obtain ⟨mappings', fields', found', each', rfl⟩ := bind_eq_ok_iff.1 bound'
    obtain rfl : mappings = mappings' := Option.some.inj (found.symm.trans found')
    exact FieldMapping.any_holds_congr number number' each each' record

end Registry

theorem exists_mem_congr {α β : Type*} {related : α → β → Prop} {as : List α} {bs : List β}
    (each : List.Forall₂ related as bs) {p : α → Prop} {q : β → Prop}
    (alike : ∀ a b, related a b → (p a ↔ q b)) : (∃ a ∈ as, p a) ↔ ∃ b ∈ bs, q b := by
  induction each with
  | nil => simp
  | cons first _ ih => rw [List.exists_mem_cons_iff, List.exists_mem_cons_iff, ih, alike _ _ first]

namespace Value

theorem eq_iff_of_agrees {one other wanted : Value} (none : wanted.number? = none)
    (agree : one.Agrees other) : one = wanted ↔ other = wanted := by
  rcases agree with rfl | ⟨q, number, number'⟩
  · rfl
  · constructor
    · rintro rfl
      rw [none] at number
      cases number
    · rintro rfl
      rw [none] at number'
      cases number'

theorem mem_congr {one other : List Value} (agree : List.Forall₂ Agrees one other)
    {wanted : Value} (none : wanted.number? = none) : wanted ∈ one ↔ wanted ∈ other := by
  have both := exists_mem_congr agree fun _ _ agreed => eq_iff_of_agrees none agreed
  simpa using both

end Value

theorem Expr.accepts_congr (expr : Expr) (isCollection : Bool) {one other : List Value}
    (agree : List.Forall₂ Value.Agrees one other) :
    expr.Accepts isCollection one ↔ expr.Accepts isCollection other := by
  cases expr with
  | booleanTest field => exact Value.mem_congr agree rfl
  | negation field =>
    simp only [Accepts]
    split
    · exact not_congr (Value.mem_congr agree rfl)
    · exact Value.mem_congr agree rfl
  | comparison field op literal =>
    cases literal with
    | null =>
      cases op with
      | equal => exact Value.mem_congr agree rfl
      | notEqual =>
        exact exists_mem_congr agree fun _ _ agreed => not_congr (Value.eq_iff_of_agrees rfl agreed)
      | _ => rfl
    | _ =>
      exact exists_mem_congr agree fun _ _ agreed => Value.meets_congr agreed op _

namespace Declaration

variable {R : Type}

/-- A field reads two records alike: it applies to neither, or its values in them agree. -/
def ReadsAlike (declaration : Declaration R) (one other : R) : Prop :=
  Option.Rel (List.Forall₂ Value.Agrees) (declaration.values? one) (declaration.values? other)

theorem accepts_congr {declaration : Declaration R} {one other : R}
    (alike : declaration.ReadsAlike one other) (expr : Expr) :
    declaration.Accepts expr one ↔ declaration.Accepts expr other := by
  unfold ReadsAlike at alike
  unfold Accepts
  generalize declaration.values? one = values, declaration.values? other = values' at alike
  cases alike with
  | none => rfl
  | some agree => exact expr.accepts_congr declaration.isCollection agree

end Declaration

/-- A predicate accepts both or neither of two records that the fields of its name read alike. -/
theorem Registration.accepts_congr {R : Type} {registrations : List (Registration R)} {expr : Expr}
    {predicate : Predicate R} (bound : (registry registrations).bind expr = .ok predicate)
    {one other : R}
    (alike : ∀ declaration ∈ fields registrations expr, declaration.ReadsAlike one other) :
    predicate.accepts one = predicate.accepts other := by
  rw [Bool.eq_iff_iff, accepts_iff_of_bind bound, accepts_iff_of_bind bound]
  apply exists_congr
  intro declaration
  apply and_congr_right
  intro mem
  exact Declaration.accepts_congr (alike declaration mem) expr

namespace Json

/-- Two documents differ at most in their numbers, and those in the same places are related. -/
inductive UpTo (related : Number → Number → Prop) : Json → Json → Prop
  | null : UpTo related .null .null
  | bool (b : Bool) : UpTo related (.bool b) (.bool b)
  | number {n n' : Number} (equal : related n n') : UpTo related (.number n) (.number n')
  | string (s : String) : UpTo related (.string s) (.string s)
  | array {elements elements' : List Json} (each : List.Forall₂ (UpTo related) elements elements') :
      UpTo related (.array elements) (.array elements')
  | object {members members' : List (String × Json)}
      (names : members.map Prod.fst = members'.map Prod.fst)
      (each : List.Forall₂ (UpTo related) (members.map Prod.snd) (members'.map Prod.snd)) :
      UpTo related (.object members) (.object members')

variable {related : Number → Number → Prop} {doc doc' : Json}

theorem UpTo.lookup (name : String) {members members' : List (String × Json)}
    (names : members.map Prod.fst = members'.map Prod.fst)
    (each : List.Forall₂ (UpTo related) (members.map Prod.snd) (members'.map Prod.snd)) :
    Option.Rel (UpTo related) (members.lookup name) (members'.lookup name) := by
  induction members generalizing members' with
  | nil =>
    cases members' with
    | nil => exact .none
    | cons _ _ => cases names
  | cons member rest ih =>
    cases members' with
    | nil => cases names
    | cons member' rest' =>
      obtain ⟨key, part⟩ := member
      obtain ⟨key', part'⟩ := member'
      simp only [List.map_cons, List.cons.injEq] at names
      obtain ⟨rfl, names⟩ := names
      obtain ⟨first, later⟩ := List.forall₂_cons.1 each
      rw [List.lookup_cons, List.lookup_cons]
      cases name == key with
      | true => exact .some first
      | false => exact ih names later

theorem UpTo.step? (same : UpTo related doc doc') (step : String) :
    Option.Rel (UpTo related) (doc.step? step) (doc'.step? step) := by
  cases same with
  | object names each =>
    apply UpTo.lookup
    · rw [List.map_reverse, List.map_reverse, names]
    · rw [List.map_reverse, List.map_reverse]
      exact List.rel_reverse each
  | @array elements elements' each =>
    simp only [Json.step?]
    cases position? step with
    | none => exact .none
    | some position =>
      change Option.Rel _ elements[position]? elements'[position]?
      have length := each.length_eq
      by_cases within : position < elements.length
      · have within' : position < elements'.length := by omega
        rw [List.getElem?_eq_getElem within, List.getElem?_eq_getElem within']
        exact .some (each.get within within')
      · rw [List.getElem?_eq_none (by omega), List.getElem?_eq_none (by omega)]
        exact .none
  | _ => exact .none

theorem UpTo.follow? (same : UpTo related doc doc') (steps : List String) :
    Option.Rel (UpTo related) (doc.follow? steps) (doc'.follow? steps) := by
  induction steps generalizing doc doc' with
  | nil => exact .some same
  | cons step steps ih =>
    rw [Json.follow?, Json.follow?]
    have first := same.step? step
    generalize doc.step? step = part, doc'.step? step = part' at first
    cases first with
    | none => exact .none
    | some same' => exact ih same'

theorem UpTo.pointer? (same : UpTo related doc doc') (pointer : String) :
    Option.Rel (UpTo related) (doc.pointer? pointer) (doc'.pointer? pointer) := by
  rw [Json.pointer?, Json.pointer?]
  cases pointerSteps? pointer with
  | none => exact .none
  | some steps => exact same.follow? steps

/-- Numbers that say the same are read as values that agree, or are both not read. -/
theorem Number.agrees_of_stated {n n' : Number} (same : n.stated = n'.stated) :
    List.Forall₂ Value.Agrees n.value?.toList n'.value?.toList := by
  have read : (∃ value, n.value? = some value) ↔ ∃ value, n'.value? = some value := by
    rw [exists_value?_iff, exists_value?_iff, same]
  cases found : n.value? with
  | none =>
    cases found' : n'.value? with
    | none => exact .nil
    | some value' => simp [found, found'] at read
  | some value =>
    cases found' : n'.value? with
    | none => simp [found, found'] at read
    | some value' =>
      have equal := number?_of_value? found'
      rw [← same] at equal
      exact .cons (.inr ⟨_, number?_of_value? found, equal⟩) .nil

theorem UpTo.readings {part part' : Option Json}
    (same : Option.Rel (UpTo Number.SaysSame) part part') :
    List.Forall₂ Value.Agrees (readings part) (Json.readings part') := by
  cases same with
  | none => exact .cons (.inl rfl) .nil
  | some same =>
    cases same with
    | number equal => exact Number.agrees_of_stated equal
    | null => exact .cons (.inl rfl) .nil
    | bool b => exact .cons (.inl rfl) .nil
    | string s => exact .cons (.inl rfl) .nil
    | array each => exact .nil
    | object names each => exact .nil

end Json

namespace Declaration

def IsPointer : {R : Type} → Declaration R → Prop
  | _, typed _ | _, narrowed .. => False
  | _, pointer .. | _, pointerOfEach .. => True

/-- Pointers read documents alike that differ at most in how they say their numbers. -/
theorem readsAlike_of_upTo {declaration : Declaration Json} (points : declaration.IsPointer)
    {doc doc' : Json} (same : Json.UpTo Json.Number.SaysSame doc doc') :
    declaration.ReadsAlike doc doc' := by
  cases declaration with
  | typed field => cases points
  | narrowed shape narrow field => cases points
  | pointer name type path => exact .some (Json.UpTo.readings (same.pointer? path))
  | pointerOfEach name type array element =>
    have found := same.pointer? array
    simp only [ReadsAlike, values?]
    generalize doc.pointer? array = part, doc'.pointer? array = part' at found
    cases found with
    | none => exact .some .nil
    | some same' =>
      cases same' with
      | array each =>
        apply Option.Rel.some
        exact List.rel_flatMap each fun _ _ one => Json.UpTo.readings (one.pointer? element)
      | _ => exact .some .nil

end Declaration

namespace NumberText

theorem exists_chars_eq_cons (number : NumberText) :
    ∃ c rest, number.chars = c :: rest ∧ (c = '-' ∨ c.isDigit = true) := by
  cases signed : number.negative with
  | true => exact ⟨'-', number.whole ++ number.tail, by simp [chars, signed], .inl rfl⟩
  | false =>
    have digits := number.whole_digits
    have whole : ∃ c rest, number.whole = c :: rest := by
      rcases number.whole_first with zero | ⟨c, rest, whole, -⟩
      · exact ⟨'0', [], zero⟩
      · exact ⟨c, rest, whole⟩
    obtain ⟨c, rest, whole⟩ := whole
    rw [whole] at digits
    refine ⟨c, rest ++ number.tail, by simp [chars, signed, whole], .inr ?_⟩
    exact digits c List.mem_cons_self

theorem number?_of_denotes {number : NumberText} {value : Literal}
    (denotes : Denotes number.chars value) : value.number? = some number.value := by
  obtain ⟨c, rest, chars, first⟩ := number.exists_chars_eq_cons
  rw [chars] at denotes
  cases denotes with
  | number read =>
    rw [← chars] at read
    exact number.number?_of_ofNumber? read
  | _ => simp [Char.isDigit] at first

end NumberText

theorem Written.exists_eq_comparison {text name literal : List Char} {op : CompareOp} {expr : Expr}
    (written : Written text (.compared name op literal) expr) :
    ∃ value, Denotes literal value ∧ expr = .comparison (String.ofList name) op value := by
  cases written with
  | compared _ _ _ _ denotes _ => exact ⟨_, denotes, rfl⟩

/-- Queries that differ at most in their blanks and in how they say one number come to the same. -/
theorem Registry.boundAlike_of_written {R : Type*} (registry : Registry R) {text text' : String}
    {name : List Char} {op : CompareOp} {n n' : NumberText} {expr expr' : Expr}
    (written : Written text.toList (.compared name op n.chars) expr)
    (written' : Written text'.toList (.compared name op n'.chars) expr')
    (same : n.value = n'.value) :
    BoundAlike Predicate.AcceptsSame (registry.compile text) (registry.compile text') := by
  rw [compile, compile, Expr.parse_eq_ok_of_written written, Expr.parse_eq_ok_of_written written']
  obtain ⟨value, denotes, rfl⟩ := written.exists_eq_comparison
  obtain ⟨value', denotes', rfl⟩ := written'.exists_eq_comparison
  have number := NumberText.number?_of_denotes denotes'
  rw [← same] at number
  exact registry.boundAlike_of_number? _ op (NumberText.number?_of_denotes denotes) number

/-- Nothing but the exact numbers counts. Comparisons of one name with equal numbers are refused for
one kind of cause, or accept the same records. A predicate accepts both or neither of two records
that every field of its name reads alike, where equal numbers are alike, and pointers read two
documents alike if their numbers, place by place, say the same. Equal numbers say the same, unless
one is an integer, the other a float, and they reach `2 ^ 53`. -/
theorem equal_numbers_alike :
    (∀ (R : Type) (registry : Registry R) (field : String) (op : CompareOp) (n n' : NumberText)
        (literal literal' : Literal),
        Literal.ofNumber? n.text = some literal → Literal.ofNumber? n'.text = some literal' →
        n.value = n'.value →
        BoundAlike Predicate.AcceptsSame (registry.bind (.comparison field op literal))
          (registry.bind (.comparison field op literal')))
      ∧ (∀ (R : Type) (registry : Registry R) (text text' : String) (name : List Char)
          (op : CompareOp) (n n' : NumberText) (expr expr' : Expr),
          Written text.toList (.compared name op n.chars) expr →
          Written text'.toList (.compared name op n'.chars) expr' → n.value = n'.value →
          BoundAlike Predicate.AcceptsSame (registry.compile text) (registry.compile text'))
      ∧ (∀ (R : Type) (registrations : List (Registration R)) (expr : Expr)
          (predicate : Predicate R) (one other : R),
          (Registration.registry registrations).bind expr = .ok predicate →
          (∀ declaration ∈ Registration.fields registrations expr,
            declaration.ReadsAlike one other) →
          predicate.accepts one = predicate.accepts other)
      ∧ (∀ (registrations : List (Registration Json)) (expr : Expr) (predicate : Predicate Json)
          (doc doc' : Json),
          (Registration.registry registrations).bind expr = .ok predicate →
          (∀ declaration ∈ Registration.fields registrations expr,
            declaration.IsPointer ∨ declaration.ReadsAlike doc doc') →
          Json.UpTo Json.Number.SaysSame doc doc' →
          predicate.accepts doc = predicate.accepts doc')
      ∧ ∀ n n' : Json.Number, n.exact = n'.exact → |n.exact| < 2 ^ 53 ∨ n.isFloat = n'.isFloat →
          n.SaysSame n' := by
  refine ⟨?_, ?_, ?_, ?_, ?_⟩
  · intro R registry field op n n' literal literal' read read' same
    have number := n'.number?_of_ofNumber? read'
    rw [← same] at number
    exact registry.boundAlike_of_number? field op (n.number?_of_ofNumber? read) number
  · intro R registry text text' name op n n' expr expr' written written' same
    exact registry.boundAlike_of_written written written' same
  · intro R registrations expr predicate one other bound alike
    exact Registration.accepts_congr bound alike
  · intro registrations expr predicate doc doc' bound each same
    apply Registration.accepts_congr bound
    intro declaration mem
    rcases each declaration mem with points | alike
    · exact Declaration.readsAlike_of_upTo points same
    · exact alike
  · intro n n' equal plain
    exact Json.Number.saysSame_of_exact equal plain

/-- An integer and an equal decimal in a term and in a query, in records that a scalar field and a
gated collection of one name read, and an integer and an equal float in a document. -/
theorem equal_numbers_alike_of_ninety_six :
    BoundAlike Predicate.AcceptsSame
        ((Registration.registry [.pointer "N" FieldType.integer "/n"]).bind
          (.comparison "N" .less (.integer 96)))
        ((Registration.registry [.pointer "N" FieldType.integer "/n"]).bind
          (.comparison "N" .less (.decimal ⟨9600, 2, by decide, by decide⟩)))
      ∧ BoundAlike Predicate.AcceptsSame
        ((Registration.registry [.pointer "N" FieldType.text "/n"]).compile "N >= 96")
        ((Registration.registry [.pointer "N" FieldType.text "/n"]).compile "N>=96.00 ")
      ∧ (∃ predicate, (Registration.registry [
            .typed (.computed "N" FieldType.decimal fun values : List Value => values.headD .null),
            .subtype ⟨"Listed"⟩ some [.computedOfEach "N" FieldType.integer id id]]).bind
          (.comparison "N" .equal (.integer 96)) = .ok predicate
        ∧ predicate.accepts [.integer 96]
          = predicate.accepts [.decimal ⟨9600, 2, by decide, by decide⟩])
      ∧ ∃ predicate, (Registration.registry [.pointer "N" FieldType.decimal "/n"]).bind
          (.comparison "N" .notEqual (.integer 96)) = .ok predicate
        ∧ predicate.accepts (.object [("n", .number (.integer 96))])
          = predicate.accepts (.object [("n", .number (.float
              ⟨false, 6755399441055744, -46, by decide, by decide, by decide, by decide⟩))]) := by
  obtain ⟨bound, compiled, records, documents, numbers⟩ := equal_numbers_alike
  have value : (NumberText.ofNumeral ⟨false, 96, 0⟩).value
      = (NumberText.ofNumeral ⟨false, 9600, 2⟩).value := by decide +kernel
  have agree : Value.Agrees (.integer 96) (.decimal ⟨9600, 2, by decide, by decide⟩) :=
    .inr ⟨96, by decide +kernel, by decide +kernel⟩
  have equal : (Json.Number.integer 96).exact = (Json.Number.float
      ⟨false, 6755399441055744, -46, by decide, by decide, by decide, by decide⟩).exact := by
    simp only [Json.Number.exact, Binary64.toRat, Binary64.sign]
    norm_num
  have small : |(Json.Number.integer 96).exact| < 2 ^ 53 := by decide +kernel
  refine ⟨?_, ?_, ⟨_, rfl, ?_⟩, ⟨_, rfl, ?_⟩⟩
  · exact bound Json _ "N" .less _ _ _ _ (by decide +kernel) (by decide +kernel) value
  · have is_name : IsName ['N'] :=
      ⟨⟨'N', [], rfl, by decide +kernel, List.all_eq_true.1 (by decide +kernel)⟩,
        by decide, by decide, by decide⟩
    have nothing : Blank [] := List.all_eq_true.1 (by decide +kernel)
    have space : Blank [' '] := List.all_eq_true.1 (by decide +kernel)
    have denotes : Denotes (NumberText.ofNumeral ⟨false, 96, 0⟩).chars (.integer 96) :=
      .number (by decide +kernel)
    have denotes' : Denotes (NumberText.ofNumeral ⟨false, 9600, 2⟩).chars
        (.decimal ⟨9600, 2, by decide, by decide⟩) := .number (by decide +kernel)
    have written := @Written.compared [] ['N'] [' '] [' '] _ [] .greaterEqual _
      nothing is_name space space denotes nothing
    have written' := @Written.compared [] ['N'] [] [] _ [' '] .greaterEqual _
      nothing is_name nothing nothing denotes' space
    exact compiled Json _ "N >= 96" "N>=96.00 " ['N'] .greaterEqual _ _ _ _ written written' value
  · exact records (List Value)
      [.typed (.computed "N" FieldType.decimal fun values => values.headD .null),
        .subtype ⟨"Listed"⟩ some [.computedOfEach "N" FieldType.integer id id]]
      (.comparison "N" .equal (.integer 96)) _ _ _ rfl
      (List.forall_mem_cons.2 ⟨Option.Rel.some (.cons agree .nil),
        List.forall_mem_singleton.2 (Option.Rel.some (.cons agree .nil))⟩)
  · exact documents [.pointer "N" FieldType.decimal "/n"] (.comparison "N" .notEqual (.integer 96))
      _ _ _ rfl (List.forall_mem_singleton.2 (.inl trivial))
      (.object rfl (.cons (.number (numbers _ _ equal (.inl small))) .nil))

/-- The float `2 ^ 60` says another number, so an integer and an equal float are not always accepted
alike. -/
theorem not_forall_exactly_equal_alike :
    ¬ ∀ (registrations : List (Registration Json)) (expr : Expr) (predicate : Predicate Json)
        (doc doc' : Json),
      (Registration.registry registrations).bind expr = .ok predicate →
      (∀ declaration ∈ Registration.fields registrations expr, declaration.IsPointer) →
      Json.UpTo (fun n n' => n.exact = n'.exact) doc doc' →
      predicate.accepts doc = predicate.accepts doc' := by
  intro alike
  have equal : (Json.Number.integer 1152921504606846976).exact
      = (Json.Number.float
          ⟨false, 0x10000000000000, 8, by decide, by decide, by decide, by decide⟩).exact := by
    simp only [Json.Number.exact, Binary64.toRat, Binary64.sign]
    norm_num
  have same := alike [.pointer "N" FieldType.integer "/n"]
    (.comparison "N" .equal (.integer 1152921504606846976)) _
    (.object [("n", .number (.integer 1152921504606846976))])
    (.object [("n", .number (.float
      ⟨false, 0x10000000000000, 8, by decide, by decide, by decide, by decide⟩))])
    rfl (List.forall_mem_singleton.2 trivial) (.object rfl (.cons (.number equal) .nil))
  cases same

end RecordQuery
