import Mathlib.Data.List.TakeWhile
import RecordQuery.Numeral.RoundTrip
import RecordQuery.Proofs.BindingTable
import RecordQuery.Proofs.Rounding
import RecordQuery.Proofs.TermMeaning

/-!
# Numbers are read exactly or not at all

A number of a document that no 64-bit integer holds is read from its text, which for a float shows
the digits of its shortest form, plainly or in scientific notation. Two readers are tried in turn,
one for each notation, and both fail when a decimal has no room for the digits. What is read is
then the number of the text, whichever of the texts it was, and a number that is not read is passed
over by every query.
-/
namespace RecordQuery

/-- A number text taken apart: a plain numeral, and the exponent behind it in scientific
notation. -/
structure NumberForm where
  mantissa : Numeral
  exponent : Option ℤ

namespace NumberForm

def value (form : NumberForm) : ℚ :=
  form.mantissa.coefficient / 10 ^ form.mantissa.scale * 10 ^ form.exponent.getD 0

def power (form : NumberForm) : ℤ := form.exponent.getD 0 - form.mantissa.scale

/-- A decimal has room for the digits of the text and for the zeros that an exponent adds to them,
in front of the point and behind it. -/
def Fits (form : NumberForm) : Prop :=
  form.mantissa.magnitude * 10 ^ form.power.toNat < 2 ^ 96 ∧ (-form.power).toNat ≤ 28

end NumberForm

def isExponentMark (c : Char) : Bool := c == 'e' || c == 'E'

/-- The texts with these parts: the exponent may be written with a plus sign or without. -/
inductive NumberForm.Writes : NumberForm → List Char → Prop
  | plain (mantissa : Numeral) : Writes ⟨mantissa, none⟩ mantissa.write
  | scientific (mantissa : Numeral) {mark : Char} {digits : List Char} {exponent : ℤ}
      (isMark : isExponentMark mark = true)
      (read : Json.Number.readExponent? digits = some exponent) :
      Writes ⟨mantissa, some exponent⟩ (mantissa.write ++ mark :: digits)

/-- The texts that show the shortest form of a float: plainly, with a zero behind the point if the
number is whole and below `10 ^ 16`, and in scientific notation. -/
inductive Binary64.ShownBy (x : Binary64) : NumberForm → Prop
  | whole {digits : ℕ} {power : ℤ} (shortest : x.IsShortest digits power) (integral : 0 ≤ power)
      (short : digits * 10 ^ power.toNat < 10 ^ 16) :
      ShownBy x ⟨⟨x.negative, digits * 10 ^ (power.toNat + 1), 1⟩, none⟩
  | fraction {digits : ℕ} {power : ℤ} (shortest : x.IsShortest digits power)
      (broken : power ≤ 0) : ShownBy x ⟨⟨x.negative, digits, (-power).toNat⟩, none⟩
  | scientific {digits : ℕ} {power : ℤ} (shortest : x.IsShortest digits power) (places : ℕ) :
      ShownBy x ⟨⟨x.negative, digits, places⟩, some (power + places)⟩

namespace Json.Number

inductive WrittenAs : Number → List Char → Prop
  | integer (n : ℤ) : WrittenAs (.integer n) (Numeral.ofInt n).write
  | float {x : Binary64} {form : NumberForm} {text : List Char} (shown : x.ShownBy form)
      (written : form.Writes text) : WrittenAs (.float x) text

def readScientific? (text : List Char) : Option Decimal :=
  match text.dropWhile fun c => !isExponentMark c with
  | [] => none
  | _ :: digits => do
    let mantissa ← Numeral.read? (text.takeWhile fun c => !isExponentMark c)
    let exponent ← readExponent? digits
    decimal? mantissa.negative mantissa.magnitude (exponent - mantissa.scale)

/-- Reads a number text as a decimal: as a plain one if it is, else in scientific notation. -/
def readDecimal? (text : List Char) : Option Decimal :=
  (Decimal.read? (String.ofList text)).or (readScientific? text)

def valueOfText? (n : Number) (text : List Char) : Option Value :=
  let integer? : Option Int64 :=
    match n with
    | integer n => int64OfInt? n
    | float _ => none
  (integer?.map Value.integer).or ((readDecimal? text).map Value.decimal)

end Json.Number

theorem Decimal.same_iff {a b : Decimal} : a.Same b ↔ a.toRat = b.toRat := by
  rw [← cmp_eq_eq_iff]
  exact (cmp_compares a b).eq_eq

theorem Numeral.isExponentMark_of_mem_write {n : Numeral} {c : Char} (mem : c ∈ n.write) :
    isExponentMark c = false := by
  have ofDigit (digit : c.isDigit = true) : isExponentMark c = false := by
    rw [isExponentMark, Bool.or_eq_false_iff, beq_eq_false_iff_ne, beq_eq_false_iff_ne]
    constructor
    · rintro rfl
      exact absurd digit (by decide)
    · rintro rfl
      exact absurd digit (by decide)
  rw [write, writeUnsigned] at mem
  rcases List.mem_append.1 mem with sign | unsigned
  · obtain ⟨-, rfl⟩ : n.negative = true ∧ c = '-' := by simpa using sign
    rfl
  · rcases List.mem_append.1 unsigned with whole | fraction
    · exact ofDigit (Nat.isDigit_of_mem_toDigits (by omega) (by omega) whole)
    · split at fraction
      · cases fraction
      · rcases List.mem_cons.1 fraction with rfl | digit
        · rfl
        · exact ofDigit (isDigit_of_mem_lastDigits digit)

namespace NumberForm

open Json.Number

variable {form : NumberForm} {text : List Char}

def decimal? (form : NumberForm) : Option Decimal :=
  Json.Number.decimal? form.mantissa.negative form.mantissa.magnitude form.power

theorem decimal?_eq_ofScaled? (form : NumberForm) :
    form.decimal? = Decimal.ofScaled? (form.mantissa.coefficient * 10 ^ form.power.toNat)
      (-form.power).toNat :=
  decimal?_numeral form.mantissa form.power

theorem decimal?_plain (mantissa : Numeral) :
    decimal? ⟨mantissa, none⟩ = Decimal.ofNumeral? mantissa := by
  have power : (⟨mantissa, none⟩ : NumberForm).power = -(mantissa.scale : ℤ) := by
    simp [NumberForm.power]
  rw [decimal?_eq_ofScaled?, power, Decimal.ofNumeral?]
  congr 1
  · rw [show (-(mantissa.scale : ℤ)).toNat = 0 by omega, pow_zero, mul_one]
  · omega

theorem decimal?_eq_none_iff : form.decimal? = none ↔ ¬form.Fits := by
  rw [decimal?_eq_ofScaled?, Decimal.ofScaled?_eq_none_iff, Int.natAbs_mul,
    Numeral.natAbs_coefficient, Int.natAbs_pow, Fits]
  change 2 ^ 96 ≤ form.mantissa.magnitude * 10 ^ form.power.toNat ∨ _ ↔ _
  omega

theorem toRat_of_decimal? {d : Decimal} (read : form.decimal? = some d) : d.toRat = form.value := by
  rw [decimal?_eq_ofScaled?, Decimal.ofScaled?_eq_some_iff] at read
  rw [Decimal.toRat, read.1, read.2, scaled_div_eq, power, zpow_sub₀ (by norm_num), zpow_natCast,
    value]
  ring

/-- Whichever of the two readers a text is for, the other fails on it. -/
theorem readDecimal?_of_writes (written : form.Writes text) :
    readDecimal? text = form.decimal? := by
  have inside (mantissa : Numeral) : ∀ c ∈ mantissa.write, (!isExponentMark c) = true := by
    intro c mem
    rw [Numeral.isExponentMark_of_mem_write mem, Bool.not_false]
  cases written with
  | plain mantissa =>
    have unmarked : readScientific? mantissa.write = none := by
      rw [readScientific?, List.dropWhile_eq_nil_iff.2 (inside mantissa)]
    rw [readDecimal?, unmarked, Option.or_none, Decimal.read?, String.toList_ofList,
      Numeral.read?_write, Option.bind_some, decimal?_plain]
  | @scientific mantissa mark digits exponent isMark read =>
    have stop : ∀ c, (mark :: digits).head? = some c → (!isExponentMark c) = false := by
      rintro c head
      obtain rfl : mark = c := by simpa using head
      rw [isMark, Bool.not_true]
    obtain ⟨front, back⟩ := Numeral.takeWhile_append_of_head (inside mantissa) stop
    have unplain : Numeral.read? (mantissa.write ++ mark :: digits) = none := by
      rw [Option.eq_none_iff_forall_ne_some]
      intro n read
      have mem : mark ∈ n.write := by
        rw [← Numeral.eq_write_of_read? read]
        simp
      rw [Numeral.isExponentMark_of_mem_write mem] at isMark
      cases isMark
    rw [readDecimal?, Decimal.read?, String.toList_ofList, unplain, Option.bind_none,
      Option.none_or, readScientific?, back, front]
    simp only [Numeral.read?_write, read, Option.bind_eq_bind, Option.bind_some]
    rfl

theorem rel_decimal? {form' : NumberForm} (same : form.value = form'.value)
    (fits : form.Fits ↔ form'.Fits) : Option.Rel Decimal.Same form.decimal? form'.decimal? := by
  cases read : form.decimal? with
  | none =>
    have read' : form'.decimal? = none := by
      rw [decimal?_eq_none_iff, ← fits, ← decimal?_eq_none_iff, read]
    rw [read']
    exact .none
  | some d =>
    cases read' : form'.decimal? with
    | none =>
      rw [decimal?_eq_none_iff, ← fits, ← decimal?_eq_none_iff, read] at read'
      cases read'
    | some d' =>
      refine .some (Decimal.same_iff.2 ?_)
      rw [toRat_of_decimal? read, toRat_of_decimal? read', same]

end NumberForm

namespace Binary64

open Json.Number

variable {x : Binary64} {form : NumberForm}

def shortestForm (x : Binary64) : NumberForm :=
  ⟨⟨x.negative, x.shortest.1, 0⟩, some x.shortest.2⟩

@[simp] theorem power_shortestForm (x : Binary64) : x.shortestForm.power = x.shortest.2 := by
  simp [NumberForm.power, shortestForm]

theorem shownBy_shortestForm (x : Binary64) : x.ShownBy x.shortestForm := by
  have shown := ShownBy.scientific x.isShortest_shortest 0
  rwa [Nat.cast_zero, add_zero] at shown

/-- Every text that shows a float says the number of its shortest form. -/
theorem ShownBy.value_eq (shown : x.ShownBy form) : form.value = x.shown := by
  have split (k : ℤ) : (10 : ℚ) ^ (x.shortest.2 + k) = 10 ^ x.shortest.2 * 10 ^ k :=
    zpow_add₀ (by norm_num) _ _
  cases shown with
  | whole shortest integral short =>
    obtain ⟨rfl, rfl⟩ := shortest.eq_shortest
    have power : (10 : ℚ) ^ x.shortest.2 = 10 ^ x.shortest.2.toNat := by
      rw [← zpow_natCast, Int.toNat_of_nonneg integral]
    simp only [NumberForm.value, coefficient_signed, Binary64.shown, power, Option.getD_none,
      zpow_zero, pow_succ]
    push_cast
    ring
  | fraction shortest broken =>
    obtain ⟨rfl, rfl⟩ := shortest.eq_shortest
    have power : (10 : ℚ) ^ x.shortest.2 = (10 ^ (-x.shortest.2).toNat)⁻¹ := by
      rw [← zpow_natCast, Int.toNat_of_nonneg (by omega), zpow_neg, inv_inv]
    simp only [NumberForm.value, coefficient_signed, Binary64.shown, power, Option.getD_none,
      zpow_zero]
    push_cast
    ring
  | scientific shortest places =>
    obtain ⟨rfl, rfl⟩ := shortest.eq_shortest
    simp only [NumberForm.value, coefficient_signed, Binary64.shown, Option.getD_some, split,
      zpow_natCast]
    push_cast
    field_simp

/-- A needless zero behind the point takes no room that matters. -/
theorem ShownBy.fits_iff (shown : x.ShownBy form) : form.Fits ↔ x.shortestForm.Fits := by
  cases shown with
  | whole shortest integral short =>
    obtain ⟨rfl, rfl⟩ := shortest.eq_shortest
    have power : (⟨⟨x.negative, x.shortest.1 * 10 ^ (x.shortest.2.toNat + 1), 1⟩, none⟩
        : NumberForm).power = -1 := by
      simp [NumberForm.power]
    rw [NumberForm.Fits, NumberForm.Fits, power, power_shortestForm]
    refine iff_of_true ⟨?_, by decide⟩ ⟨?_, by omega⟩
    · change x.shortest.1 * 10 ^ (x.shortest.2.toNat + 1) * 1 < 2 ^ 96
      rw [pow_succ, ← mul_assoc]
      omega
    · change x.shortest.1 * 10 ^ x.shortest.2.toNat < 2 ^ 96
      omega
  | fraction shortest broken =>
    obtain ⟨rfl, rfl⟩ := shortest.eq_shortest
    have power : (⟨⟨x.negative, x.shortest.1, (-x.shortest.2).toNat⟩, none⟩ : NumberForm).power
        = x.shortest.2 := by
      simp only [NumberForm.power, Option.getD_none]
      omega
    rw [NumberForm.Fits, NumberForm.Fits, power, power_shortestForm, shortestForm]
  | scientific shortest places =>
    obtain ⟨rfl, rfl⟩ := shortest.eq_shortest
    have power : (⟨⟨x.negative, x.shortest.1, places⟩, some (x.shortest.2 + places)⟩
        : NumberForm).power = x.shortest.2 := by
      simp [NumberForm.power]
    rw [NumberForm.Fits, NumberForm.Fits, power, power_shortestForm, shortestForm]

theorem ShownBy.rel_decimal? (shown : x.ShownBy form) :
    Option.Rel Decimal.Same x.shortestForm.decimal? form.decimal? := by
  refine NumberForm.rel_decimal? ?_ shown.fits_iff.symm
  rw [shown.value_eq, x.shownBy_shortestForm.value_eq]

theorem value?_float (x : Binary64) :
    (Json.Number.float x).value? = x.shortestForm.decimal?.map Value.decimal := by
  rw [value?, NumberForm.decimal?, power_shortestForm, shortestForm]

theorem ShownBy.exists_decimal (shown : x.ShownBy form) (fits : form.Fits) :
    ∃ d : Decimal, (Json.Number.float x).value? = some (.decimal d) ∧ d.toRat = form.value := by
  have own := shown.fits_iff.1 fits
  obtain ⟨d, read⟩ : ∃ d, x.shortestForm.decimal? = some d := by
    rw [← Option.ne_none_iff_exists', ne_eq, NumberForm.decimal?_eq_none_iff, not_not]
    exact own
  refine ⟨d, by rw [value?_float, read, Option.map_some], ?_⟩
  rw [NumberForm.toRat_of_decimal? read, x.shownBy_shortestForm.value_eq, shown.value_eq]

theorem ShownBy.unread (shown : x.ShownBy form) (large : ¬form.Fits) :
    (Json.Number.float x).value? = none := by
  rw [value?_float, NumberForm.decimal?_eq_none_iff.2 (mt shown.fits_iff.2 large), Option.map_none]

theorem ShownBy.of_zero (zero : x.significand = 0) (shown : x.ShownBy form) :
    form.Fits ∧ form.value = 0 := by
  rw [shown.value_eq, shown_of_zero zero, shown.fits_iff, NumberForm.Fits, power_shortestForm,
    shortestForm]
  simp [shortest_of_zero zero]

end Binary64

namespace Json.Number

theorem exists_readExponent? (exponent : ℤ) :
    ∃ digits, readExponent? digits = some exponent := by
  have digits (n : ℕ) : Nat.toDigits 10 n ≠ [] ∧ (Nat.toDigits 10 n).all Char.isDigit = true :=
    ⟨Nat.toDigits_ne_nil, List.all_eq_true.2 fun c mem =>
      Nat.isDigit_of_mem_toDigits (by omega) (by omega) mem⟩
  rcases Int.eq_nat_or_neg exponent with ⟨n, rfl | rfl⟩
  · refine ⟨'+' :: Nat.toDigits 10 n, ?_⟩
    simp only [readExponent?, if_pos (digits n), Nat.ofDigitChars_ten_toDigits, Option.map_some]
    rfl
  · refine ⟨'-' :: Nat.toDigits 10 n, ?_⟩
    simp only [readExponent?, if_pos (digits n), Nat.ofDigitChars_ten_toDigits]
    rfl

theorem exists_writtenAs (n : Number) : ∃ text, n.WrittenAs text := by
  cases n with
  | integer n => exact ⟨_, .integer n⟩
  | float x =>
    obtain ⟨digits, read⟩ := exists_readExponent? x.shortest.2
    have isMark : isExponentMark 'e' = true := rfl
    exact ⟨_, .float x.shownBy_shortestForm (.scientific _ isMark read)⟩

/-- Reading a number by way of any of its texts gives the value that it has. -/
theorem WrittenAs.rel_value? {n : Number} {text : List Char} (written : n.WrittenAs text) :
    Option.Rel Value.Same n.value? (n.valueOfText? text) := by
  cases written with
  | integer n =>
    have text : readDecimal? (Numeral.ofInt n).write = Decimal.ofScaled? n 0 := by
      rw [NumberForm.readDecimal?_of_writes (.plain _), NumberForm.decimal?_plain,
        Decimal.ofNumeral?, Numeral.coefficient_ofInt]
      rfl
    have same : (Number.integer n).value?
        = (Number.integer n).valueOfText? (Numeral.ofInt n).write := by
      rw [value?, valueOfText?, text]
      cases int64OfInt? n <;> rfl
    rw [← same]
    cases (Number.integer n).value? with
    | none => exact .none
    | some value => exact .some (by cases value <;> rfl)
  | @float x form text shown written =>
    have read : (Number.float x).valueOfText? text = form.decimal?.map Value.decimal := by
      rw [valueOfText?, NumberForm.readDecimal?_of_writes written]
      rfl
    have alike := shown.rel_decimal?
    rw [read, Binary64.value?_float]
    generalize x.shortestForm.decimal? = own, form.decimal? = other at alike
    cases alike with
    | none => exact .none
    | some same => exact .some same

theorem isMachineInteger_of_read? {text : List Char} {n : ℤ}
    (read : read? text = some (.integer n)) : isMachineInteger n = true := by
  have float_ne {negative : Bool} {mantissa : List Char} {power : ℤ} :
      float? negative mantissa power ≠ some (.integer n) := by
    intro read
    obtain ⟨x, -, scaled⟩ := Option.bind_eq_some_iff.1 read
    obtain ⟨y, -, float⟩ := Option.bind_eq_some_iff.1 scaled
    cases float
  obtain ⟨numeral, -, rest⟩ := Option.bind_eq_some_iff.1 read
  split at rest
  · dsimp only at rest
    split at rest
    · rename_i whole
      cases rest
      exact whole.2.1
    · exact absurd rest float_ne
  · obtain ⟨exponent, -, float⟩ := Option.bind_eq_some_iff.1 rest
    exact absurd float float_ne

end Json.Number

namespace Json.Number

variable {registry : Registry Json} {expr : Expr} {predicate : Predicate Json} {n : Number}
  {name : String} {type : FieldType}

theorem accepts_eq_false_of_unread {path : String} {doc : Json} (unread : n.value? = none)
    (bound : registry.bind expr = .ok predicate)
    (only : registry.resolve expr.field = some [.pointer name type path])
    (found : doc.pointer? path = some (.number n)) : predicate.accepts doc = false := by
  have accepts := Registry.accepts_iff_of_only (.pointer name type path) bound only doc
  have values : (Declaration.pointer name type path).values? doc = some [] := by
    simp [Declaration.values?, found, readings, unread]
  simpa [Declaration.Accepts, values, Expr.accepts_nil_iff, Declaration.isCollection] using accepts

/-- An element with a number that is not read might as well be left out of its array. -/
theorem accepts_eq_of_unread {array element : String} {doc doc' part : Json}
    {before after : List Json} (unread : n.value? = none)
    (bound : registry.bind expr = .ok predicate)
    (only : registry.resolve expr.field = some [.pointerOfEach name type array element])
    (inPart : part.pointer? element = some (.number n))
    (found : doc.pointer? array = some (.array (before ++ part :: after)))
    (found' : doc'.pointer? array = some (.array (before ++ after))) :
    predicate.accepts doc = predicate.accepts doc' := by
  have values : (Declaration.pointerOfEach name type array element).values? doc
      = (Declaration.pointerOfEach name type array element).values? doc' := by
    simp [Declaration.values?, found, found', inPart, readings, unread]
  rw [Bool.eq_iff_iff, Registry.accepts_iff_of_only (.pointerOfEach name type array element) bound
    only, Registry.accepts_iff_of_only (.pointerOfEach name type array element) bound only,
    Declaration.Accepts, Declaration.Accepts, values]

theorem cases_of_read? {text : List Char} {n : Number} (read : read? text = some n) :
    (∃ i : Int64, n = .integer i.toInt)
      ∨ (∃ m : ℤ, Int64.maxValue.toInt < m ∧ m < UInt64.size ∧ n = .integer m)
      ∨ ∃ x, n = .float x := by
  cases n with
  | float x => exact .inr (.inr ⟨x, rfl⟩)
  | integer m =>
    obtain ⟨low, high⟩ : Int64.minValue.toInt ≤ m ∧ m < UInt64.size := by
      simpa [isMachineInteger] using isMachineInteger_of_read? read
    cases within : int64OfInt? m with
    | some i => exact .inl ⟨i, by rw [toInt_of_int64OfInt? within]⟩
    | none =>
      rcases int64OfInt?_eq_none_iff.1 within with below | above
      · omega
      · exact .inr (.inl ⟨m, above, high, rfl⟩)

theorem value?_integer (i : Int64) : (integer i.toInt).value? = some (.integer i) := by
  simp only [value?, int64OfInt?_toInt]

theorem exists_decimal_of_unsigned {m : ℤ} (above : Int64.maxValue.toInt < m)
    (below : m < UInt64.size) :
    ∃ d : Decimal, (integer m).value? = some (.decimal d) ∧ d.toRat = m := by
  have positive : 0 < Int64.maxValue.toInt := by decide
  have size : UInt64.size = 2 ^ 64 := rfl
  obtain ⟨d, found⟩ : ∃ d, Decimal.ofScaled? m 0 = some d := by
    rw [← Option.ne_none_iff_exists', ne_eq, Decimal.ofScaled?_eq_none_iff]
    omega
  refine ⟨d, ?_, ?_⟩
  · simp only [value?, int64OfInt?_eq_none_iff.2 (.inr above), found, Option.map_some]
  · obtain ⟨coefficient, scale⟩ := Decimal.ofScaled?_eq_some_iff.1 found
    simp [Decimal.toRat, coefficient, scale]

/-- A number of a document is read exactly or not at all. An integer of 64 signed bits is read as
that integer, a larger one as the decimal of its value, and a float as the decimal of the number
that its text says, if there is room for the digits of the text, whichever of its texts that is.
The texts of a float say its shortest form, which rounds to it. No term accepts by way of a pointer
to a float that is not read, and an array is accepted as if its elements with such floats were not
there. -/
theorem read_exactly_or_not_at_all :
    (∀ text n, read? text = some n →
      (∃ i : Int64, n = .integer i.toInt)
        ∨ (∃ m : ℤ, Int64.maxValue.toInt < m ∧ m < UInt64.size ∧ n = .integer m)
        ∨ ∃ x, n = .float x)
      ∧ (∀ i : Int64, (integer i.toInt).value? = some (.integer i))
      ∧ (∀ m : ℤ, Int64.maxValue.toInt < m → m < UInt64.size →
        ∃ d : Decimal, (integer m).value? = some (.decimal d) ∧ d.toRat = m)
      ∧ (∀ (x : Binary64) (digits : ℕ) (power : ℤ),
        x.IsShortest digits power ↔ x.shortest = (digits, power))
      ∧ (∀ (x : Binary64) (form : NumberForm), x.ShownBy form →
        x.RoundsTo form.value
          ∧ (form.Fits →
            ∃ d : Decimal, (float x).value? = some (.decimal d) ∧ d.toRat = form.value)
          ∧ (¬form.Fits → (float x).value? = none)
          ∧ (x.significand = 0 → form.Fits ∧ form.value = 0))
      ∧ (∀ n : Number, (∃ text, n.WrittenAs text)
        ∧ ∀ text, n.WrittenAs text → Option.Rel Value.Same n.value? (n.valueOfText? text))
      ∧ (∀ n : Number, n.value? = none →
        ∀ (registry : Registry Json) (expr : Expr) (predicate : Predicate Json) (name : String)
          (type : FieldType), registry.bind expr = .ok predicate →
          (∀ path doc, registry.resolve expr.field = some [.pointer name type path] →
            doc.pointer? path = some (.number n) → predicate.accepts doc = false)
          ∧ ∀ array element doc doc' before part after,
            registry.resolve expr.field = some [.pointerOfEach name type array element] →
            part.pointer? element = some (.number n) →
            doc.pointer? array = some (.array (before ++ part :: after)) →
            doc'.pointer? array = some (.array (before ++ after)) →
            predicate.accepts doc = predicate.accepts doc') := by
  refine ⟨fun text n => cases_of_read?, value?_integer, fun m => exists_decimal_of_unsigned, ?_, ?_,
    ?_, ?_⟩
  · intro x digits power
    exact Binary64.isShortest_iff
  · intro x form shown
    exact ⟨shown.value_eq ▸ x.roundsTo_shown, shown.exists_decimal, shown.unread,
      fun zero => shown.of_zero zero⟩
  · intro n
    exact ⟨exists_writtenAs n, fun text => WrittenAs.rel_value?⟩
  · intro n unread registry expr predicate name type bound
    constructor
    · intro path doc only found
      exact accepts_eq_false_of_unread unread bound only found
    · intro array element doc doc' before part after only inPart found found'
      exact accepts_eq_of_unread unread bound only inPart found found'

end Json.Number
end RecordQuery
