import RecordQuery.Numeral.RoundTrip
import RecordQuery.Proofs.BindingTable
import RecordQuery.Proofs.QuerySemantics

/-!
# Collections and the pointers to their elements

A collection at a pointer is the same as its elements, each of them addressed by a pointer of its
own: the pointer to the array, the position of the element and the pointer within the element,
written one behind the other. The collection is accepted by way of the elements that are, and its
negation where no element is true. Where there is no array there are no elements, so nothing but
the negation is accepted.
-/
namespace RecordQuery

namespace Json

theorem splitSlashes_ne_nil (text : List Char) : splitSlashes text ≠ [] := by
  cases text with
  | nil => simp [splitSlashes]
  | cons c rest =>
    rw [splitSlashes]
    split
    · simp
    · split <;> simp

theorem splitSlashes_append (front rest : List Char) :
    splitSlashes (front ++ '/' :: rest) = splitSlashes front ++ splitSlashes rest := by
  induction front with
  | nil => simp [splitSlashes]
  | cons c front ih =>
    rw [List.cons_append, splitSlashes, splitSlashes, ih]
    by_cases slash : c = '/'
    · simp [slash]
    · cases split : splitSlashes front with
      | nil => exact absurd split (splitSlashes_ne_nil front)
      | cons part parts => simp [slash]

theorem splitSlashes_of_not_mem {text : List Char} (single : '/' ∉ text) :
    splitSlashes text = [text] := by
  induction text with
  | nil => rfl
  | cons c rest ih =>
    rw [List.mem_cons, not_or] at single
    rw [splitSlashes, if_neg (Ne.symm single.1), ih single.2]

theorem unescapeStep_of_not_mem {text : List Char} (plain : '~' ∉ text) :
    unescapeStep text = text := by
  induction text with
  | nil => rfl
  | cons c rest ih =>
    rw [List.mem_cons, not_or] at plain
    rw [unescapeStep, ih plain.2]
    · rintro _ rfl
      exact absurd rfl plain.1
    · rintro _ rfl
      exact absurd rfl plain.1

theorem pointerSteps?_empty : pointerSteps? "" = some [] := rfl

theorem pointerSteps?_slash (rest : String) :
    pointerSteps? ("/" ++ rest)
      = some ((splitSlashes rest.toList).map fun step => String.ofList (unescapeStep step)) := by
  rw [pointerSteps?, String.toList_append]
  rfl

theorem empty_or_slash_of_pointerSteps? {pointer : String} {steps : List String}
    (leads : pointerSteps? pointer = some steps) :
    pointer = "" ∨ ∃ rest, pointer = "/" ++ rest := by
  rw [pointerSteps?] at leads
  split at leads
  · rename_i empty
    exact .inl (String.toList_eq_nil_iff.1 empty)
  · rename_i rest slash
    refine .inr ⟨String.ofList rest, String.toList_inj.1 ?_⟩
    simpa using slash
  · cases leads

/-- The steps of two pointers, one written behind the other, are those of the first and then those
of the second. -/
theorem pointerSteps?_append {first second : String} {steps steps' : List String}
    (leads : pointerSteps? first = some steps) (leads' : pointerSteps? second = some steps') :
    pointerSteps? (first ++ second) = some (steps ++ steps') := by
  rcases empty_or_slash_of_pointerSteps? leads with rfl | ⟨rest, rfl⟩
  · obtain rfl : [] = steps := Option.some.inj (pointerSteps?_empty.symm.trans leads)
    simpa using leads'
  · rcases empty_or_slash_of_pointerSteps? leads' with rfl | ⟨rest', rfl⟩
    · obtain rfl : [] = steps' := Option.some.inj (pointerSteps?_empty.symm.trans leads')
      simpa using leads
    · rw [pointerSteps?_slash] at leads leads'
      cases leads
      cases leads'
      have joined : "/" ++ rest ++ ("/" ++ rest') = "/" ++ (rest ++ "/" ++ rest') := by
        simp only [String.append_assoc]
      have parts : (rest ++ "/" ++ rest').toList = rest.toList ++ '/' :: rest'.toList := by simp
      rw [joined, pointerSteps?_slash, parts, splitSlashes_append, List.map_append]

theorem pointer?_append {first second : String} {steps steps' : List String}
    (leads : pointerSteps? first = some steps) (leads' : pointerSteps? second = some steps')
    (doc : Json) :
    doc.pointer? (first ++ second) = (doc.pointer? first).bind (·.pointer? second) := by
  rw [pointer?, pointer?, pointerSteps?_append leads leads', leads, Option.bind_some,
    Option.bind_some, follow?_append]
  simp only [pointer?, leads', Option.bind_some]

theorem position?_toString {i : ℕ} (within : i < UInt64.size) :
    position? (toString i) = some i := by
  have digits : (toString i).toList = Nat.toDigits 10 i := Nat.toList_repr
  have all : (Nat.toDigits 10 i).all Char.isDigit = true :=
    List.all_eq_true.2 (Numeral.isDigit_of_isWholePart (Numeral.isWholePart_toDigits i))
  simp only [position?, digits, all, Numeral.isWholePart_toDigits, Nat.ofDigitChars_ten_toDigits,
    Bool.and_self, if_true, if_pos within]

theorem pointerSteps?_position (i : ℕ) :
    pointerSteps? ("/" ++ toString i) = some [toString i] := by
  have digits : (toString i).toList = Nat.toDigits 10 i := Nat.toList_repr
  have isDigit : ∀ c ∈ Nat.toDigits 10 i, c.isDigit = true :=
    Numeral.isDigit_of_isWholePart (Numeral.isWholePart_toDigits i)
  have unbroken : '/' ∉ (toString i).toList := by
    intro mem
    exact absurd (isDigit _ (digits ▸ mem)) (by decide)
  have plain : '~' ∉ (toString i).toList := by
    intro mem
    exact absurd (isDigit _ (digits ▸ mem)) (by decide)
  rw [pointerSteps?_slash, splitSlashes_of_not_mem unbroken, List.map_singleton,
    unescapeStep_of_not_mem plain, String.ofList_toList]

/-- What a pointer within an element leads to is found from the whole document as well. -/
theorem pointer?_element {doc : Json} {array element : String} {elements : List Json}
    (found : doc.pointer? array = some (.array elements))
    (relative : element = "" ∨ ∃ rest, element = "/" ++ rest) {i : ℕ}
    (within : i < UInt64.size) :
    doc.pointer? (array ++ "/" ++ toString i ++ element)
      = elements[i]?.bind (·.pointer? element) := by
  obtain ⟨steps, leads, -⟩ := Option.bind_eq_some_iff.1 found
  obtain ⟨steps', leads'⟩ : ∃ steps', pointerSteps? element = some steps' := by
    rcases relative with rfl | ⟨rest, rfl⟩
    · exact ⟨_, pointerSteps?_empty⟩
    · exact ⟨_, pointerSteps?_slash rest⟩
  have position := pointerSteps?_position i
  have here : (Json.array elements).pointer? ("/" ++ toString i) = elements[i]? := by
    rw [pointer?, position, Option.bind_some, follow?, step?, position?_toString within,
      Option.bind_some]
    exact Option.bind_fun_some _
  have toElement : pointerSteps? (array ++ ("/" ++ toString i)) = some (steps ++ [toString i]) :=
    pointerSteps?_append leads position
  have regroup : array ++ "/" ++ toString i = array ++ ("/" ++ toString i) := String.append_assoc
  rw [regroup, pointer?_append toElement leads', pointer?_append leads position, found,
    Option.bind_some, here]

/-- What is so of a part of some element is so of what the pointer to one of the positions leads
to. No array is longer than positions reach. -/
theorem exists_element_iff {doc : Json} {array element : String} {elements : List Json}
    (found : doc.pointer? array = some (.array elements))
    (relative : element = "" ∨ ∃ rest, element = "/" ++ rest)
    (reachable : elements.length ≤ UInt64.size) (p : Option Json → Prop) :
    (∃ part ∈ elements, p (part.pointer? element))
      ↔ ∃ i < elements.length, p (doc.pointer? (array ++ "/" ++ toString i ++ element)) := by
  have at_position {i : ℕ} (within : i < elements.length) :
      doc.pointer? (array ++ "/" ++ toString i ++ element)
        = (elements.get ⟨i, within⟩).pointer? element := by
    rw [pointer?_element found relative (lt_of_lt_of_le within reachable),
      List.getElem?_eq_getElem within, Option.bind_some, List.get_eq_getElem]
  constructor
  · rintro ⟨part, mem, holds⟩
    obtain ⟨⟨i, within⟩, rfl⟩ := List.mem_iff_get.1 mem
    exact ⟨i, within, (at_position within).symm ▸ holds⟩
  · rintro ⟨i, within, holds⟩
    exact ⟨_, List.get_mem elements ⟨i, within⟩, at_position within ▸ holds⟩

end Json

/-- What is asked of the elements one by one: a negated collection asks that none be true. -/
def Expr.ofElement : Expr → Expr
  | negation field => booleanTest field
  | expr => expr

namespace Expr

@[simp] theorem field_ofElement (expr : Expr) : expr.ofElement.field = expr.field := by
  cases expr <;> rfl

theorem accepts_flatMap_iff {α : Type*} {expr : Expr} (plain : expr.isNegation = false)
    (values : α → List Value) (parts : List α) :
    expr.Accepts true (parts.flatMap values)
      ↔ ∃ part ∈ parts, expr.ofElement.Accepts false (values part) := by
  have regroup (p : Value → Prop) :
      (∃ value ∈ parts.flatMap values, p value)
        ↔ ∃ part ∈ parts, ∃ value ∈ values part, p value := by
    simp only [List.mem_flatMap]
    constructor
    · rintro ⟨value, ⟨part, mem, here⟩, holds⟩
      exact ⟨part, mem, value, here, holds⟩
    · rintro ⟨part, mem, value, here, holds⟩
      exact ⟨value, ⟨part, mem, here⟩, holds⟩
  cases expr with
  | negation field => cases plain
  | booleanTest field => exact List.mem_flatMap
  | comparison field op literal =>
    cases literal with
    | null =>
      cases op with
      | equal => exact List.mem_flatMap
      | notEqual => exact regroup _
      | _ => simp [Accepts, ofElement]
    | _ => exact regroup _

theorem accepts_flatMap_iff_of_isNegation {α : Type*} {expr : Expr}
    (negated : expr.isNegation = true) (values : α → List Value) (parts : List α) :
    expr.Accepts true (parts.flatMap values)
      ↔ ¬∃ part ∈ parts, expr.ofElement.Accepts false (values part) := by
  cases expr with
  | negation field => simp [Accepts, ofElement]
  | _ => cases negated

end Expr

theorem FieldType.Admits.ofElement {type : FieldType} {expr : Expr} (admits : type.Admits expr) :
    type.Admits expr.ofElement := by
  cases expr <;> exact admits

namespace Registry

/-- A term on a collection at a pointer accepts a document by way of the fields that the elements
are on their own, each at the pointer to it: where one of them accepts it, or for a negation where
none is true. If the pointer leads to no array, the negation alone is accepted. -/
theorem accepts_pointerOfEach_iff {each : Registry Json} {item : ℕ → Registry Json}
    {name array element : String} {type : FieldType} {expr : Expr} {test : ValueTest}
    (compiles : type.bind expr = .ok test)
    (relative : element = "" ∨ ∃ rest, element = "/" ++ rest)
    (only : each.resolve expr.field = some [.pointerOfEach name type array element])
    (onlyItem : ∀ i, (item i).resolve expr.field
      = some [.pointer name type (array ++ "/" ++ toString i ++ element)]) :
    ∃ (collection : Predicate Json) (items : ℕ → Predicate Json),
      each.bind expr = .ok collection
      ∧ (∀ i, (item i).bind expr.ofElement = .ok (items i))
      ∧ ∀ doc : Json,
        (∀ elements, doc.pointer? array = some (.array elements) →
          elements.length ≤ UInt64.size →
          (expr.isNegation = false →
            (collection.accepts doc = true
              ↔ ∃ i < elements.length, (items i).accepts doc = true))
          ∧ (expr.isNegation = true →
            (collection.accepts doc = true
              ↔ ¬∃ i < elements.length, (items i).accepts doc = true)))
        ∧ ((∀ elements, doc.pointer? array ≠ some (.array elements)) →
          (collection.accepts doc = true ↔ expr.isNegation = true)) := by
  have admits : type.Admits expr := FieldType.exists_bind_eq_ok_iff.1 ⟨test, compiles⟩
  have onlyItem' (i : ℕ) : (item i).resolve expr.ofElement.field
      = some [.pointer name type (array ++ "/" ++ toString i ++ element)] := by
    rw [Expr.field_ofElement, onlyItem]
  obtain ⟨collection, bound⟩ := exists_bind_of_only only admits
  choose items boundItem using fun i => exists_bind_of_only (onlyItem' i) admits.ofElement
  refine ⟨collection, items, bound, boundItem, fun doc => ?_⟩
  have whole : collection.accepts doc = true
      ↔ (Declaration.pointerOfEach name type array element).Accepts expr doc :=
    accepts_iff_of_only (.pointerOfEach name type array element) bound only doc
  have single (i : ℕ) : (items i).accepts doc = true
      ↔ expr.ofElement.Accepts false
        (Json.readings (doc.pointer? (array ++ "/" ++ toString i ++ element))) :=
    accepts_iff_of_only (.pointer name type (array ++ "/" ++ toString i ++ element)) (boundItem i)
      (onlyItem' i) doc
  constructor
  · intro elements found reachable
    have values : (Declaration.pointerOfEach name type array element).values? doc
        = some (elements.flatMap fun part => Json.readings (part.pointer? element)) := by
      simp only [Declaration.values?, found]
    have positions := Json.exists_element_iff found relative reachable fun part =>
      expr.ofElement.Accepts false (Json.readings part)
    simp only [whole, Declaration.Accepts, values, Declaration.isCollection, single, ← positions]
    exact ⟨fun plain => Expr.accepts_flatMap_iff plain _ _,
      fun negated => Expr.accepts_flatMap_iff_of_isNegation negated _ _⟩
  · intro elsewhere
    have values : (Declaration.pointerOfEach name type array element).values? doc = some [] := by
      rw [Declaration.values?]
      split
      · rename_i parts found
        exact absurd found (elsewhere parts)
      · rfl
    simp only [whole, Declaration.Accepts, values, Declaration.isCollection, Expr.accepts_nil_iff,
      true_and]

/-- A collection of truth values within the elements of an array: the second element has no such
member, and the third is no object. -/
theorem accepts_pointerOfEach_of_flags :
    let each := Registration.registry [.pointerOfEach "Done" .boolean "/list" "/done"]
    let item (i : ℕ) := Registration.registry
      [.pointer "Done" .boolean ("/list" ++ "/" ++ toString i ++ "/done")]
    let doc : Json := .object
      [("list", .array [.object [("done", .bool false)], .object [], .number (.integer 5)])]
    ∃ (collection : Predicate Json) (items : ℕ → Predicate Json),
      each.bind (.negation "done") = .ok collection
      ∧ (∀ i, (item i).bind (.booleanTest "done") = .ok (items i))
      ∧ (collection.accepts doc = true ↔ ¬∃ i < 3, (items i).accepts doc = true)
      ∧ collection.accepts .null = true := by
  intro each item doc
  have key : Unicode.lowercase "Done" = Unicode.lowercase "done" := by decide +kernel
  have onlyItem (i : ℕ) : (item i).resolve "done"
      = some [.pointer "Done" .boolean ("/list" ++ "/" ++ toString i ++ "/done")] := by
    simp [item, Registration.resolve_registry, Registration.declarations, Declaration.resolved,
      lastOfEachSlot, Declaration.mapping, FieldMapping.key, FieldMapping.pointer, key, nonempty?]
  obtain ⟨collection, items, bound, boundItem, accepts⟩ :=
    @accepts_pointerOfEach_iff each item "Done" "/list" "/done" .boolean (.negation "done") .isFalse
      rfl (.inr ⟨"done", rfl⟩) rfl onlyItem
  refine ⟨collection, items, bound, boundItem, ?_, ?_⟩
  · exact ((accepts doc).1 _ rfl (by decide)).2 rfl
  · refine ((accepts .null).2 ?_).2 rfl
    intro elements found
    cases found

end Registry
end RecordQuery
