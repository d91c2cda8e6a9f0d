import RecordQuery.Proofs.ExactValue
import RecordQuery.Proofs.Grammar

/-!
# Numbers in terms

Which texts are numbers, and which numbers they are. A number text is taken apart into its sign, its
whole part and the digits behind its point, and it denotes the rational number that these say, as an
integer if 64 bits hold it and else as a decimal with all its digits, or nothing if a decimal cannot
hold them. Behind an operator, a run of letters, digits, points and underscores is read whole, so a
run that is no number is a malformed number and never a number with something behind it.
-/
namespace RecordQuery

open Lexeme (IsNumberRun)

/-- A number text taken apart: `-?(0|[1-9][0-9]*)(\.[0-9]+)?`, where no digits behind the point mean
that there is no point. -/
structure NumberText where
  negative : Bool
  whole : List Char
  fraction : List Char
  whole_digits : ∀ c ∈ whole, c.isDigit = true
  whole_first : whole = ['0'] ∨ ∃ c rest, whole = c :: rest ∧ c ≠ '0'
  fraction_digits : ∀ c ∈ fraction, c.isDigit = true

namespace NumberText

def tail (number : NumberText) : List Char :=
  if number.fraction = [] then [] else '.' :: number.fraction

def chars (number : NumberText) : List Char :=
  (if number.negative then ['-'] else []) ++ (number.whole ++ number.tail)

def text (number : NumberText) : String := String.ofList number.chars

def digits (number : NumberText) : ℕ := Nat.ofDigitChars 10 (number.whole ++ number.fraction) 0

def magnitude (number : NumberText) : ℚ :=
  Nat.ofDigitChars 10 number.whole 0
    + Nat.ofDigitChars 10 number.fraction 0 / 10 ^ number.fraction.length

def value (number : NumberText) : ℚ :=
  if number.negative then -number.magnitude else number.magnitude

def IsInt64 (number : NumberText) : Prop :=
  number.fraction = [] ∧ ∃ n : Int64, number.value = n.toInt

/-- A decimal holds all digits of the text. -/
def FitsDecimal (number : NumberText) : Prop :=
  number.digits < 2 ^ 96 ∧ number.fraction.length ≤ 28

def numeral (number : NumberText) : Numeral :=
  ⟨number.negative, number.digits, number.fraction.length⟩

theorem isWholePart_whole (number : NumberText) : Numeral.isWholePart number.whole = true := by
  have digits := number.whole_digits
  rcases number.whole_first with zero | ⟨c, rest, whole, nonzero⟩
  · rw [zero]
    rfl
  · rw [whole] at digits ⊢
    rw [Numeral.isWholePart_cons nonzero]
    exact List.all_eq_true.2 digits

theorem not_isDigit_head?_tail (number : NumberText) :
    ∀ c, number.tail.head? = some c → c.isDigit = false := by
  intro c head
  rw [tail] at head
  split at head
  · cases head
  · obtain rfl : '.' = c := by simpa using head
    rfl

theorem readUnsigned?_whole_tail (number : NumberText) :
    Numeral.readUnsigned? (number.whole ++ number.tail)
      = some (number.digits, number.fraction.length) := by
  obtain ⟨front, back⟩ :=
    Numeral.takeWhile_append_of_head number.whole_digits number.not_isDigit_head?_tail
  rw [Numeral.readUnsigned?, front, back]
  simp only [isWholePart_whole, Bool.not_true, Bool.false_eq_true, if_false, tail, digits]
  by_cases none : number.fraction = []
  · simp [none]
  · have all : number.fraction.all Char.isDigit = true := List.all_eq_true.2 number.fraction_digits
    simp [none, all]

theorem read?_chars (number : NumberText) : Numeral.read? number.chars = some number.numeral :=
  Numeral.read?_sign_append number.negative number.readUnsigned?_whole_tail

def ofNumeral (n : Numeral) : NumberText where
  negative := n.negative
  whole := Nat.toDigits 10 (n.magnitude / powerOfTen n.scale)
  fraction := Numeral.lastDigits n.scale n.magnitude
  whole_digits := fun c mem => Nat.isDigit_of_mem_toDigits (by omega) (by omega) mem
  whole_first := Numeral.cases_of_isWholePart (Numeral.isWholePart_toDigits _)
  fraction_digits := fun c mem => Numeral.isDigit_of_mem_lastDigits mem

theorem chars_ofNumeral (n : Numeral) : (ofNumeral n).chars = n.write := by
  rw [chars, Numeral.write, Numeral.writeUnsigned, tail, ofNumeral]
  by_cases whole : n.scale = 0
  · simp [whole, Numeral.lastDigits]
  · have point : Numeral.lastDigits n.scale n.magnitude ≠ [] := by
      intro none
      have length := Numeral.length_lastDigits n.scale n.magnitude
      rw [none] at length
      exact whole length.symm
    simp [whole, point]

theorem exists_text_of_ofNumber? {text : String} {value : Literal}
    (h : Literal.ofNumber? text = some value) : ∃ number : NumberText, number.text = text := by
  rcases Option.bind_eq_some_iff.1 h with ⟨n, read, -⟩
  refine ⟨ofNumeral n, ?_⟩
  rw [NumberText.text, chars_ofNumeral, ← Numeral.eq_write_of_read? read, String.ofList_toList]

theorem value_eq_coefficient_div (number : NumberText) :
    number.value = number.numeral.coefficient / 10 ^ number.fraction.length := by
  have joined : (number.digits : ℚ)
      = Nat.ofDigitChars 10 number.whole 0 * 10 ^ number.fraction.length
        + Nat.ofDigitChars 10 number.fraction 0 := by
    rw [digits, Nat.ofDigitChars_append, Numeral.ofDigitChars_eq_add, powerOfTen_eq_pow]
    push_cast
    rfl
  have magnitude_eq : number.magnitude = number.digits / 10 ^ number.fraction.length := by
    rw [joined, magnitude]
    field_simp
  rw [value, magnitude_eq, Numeral.coefficient, numeral]
  cases number.negative with
  | true =>
    simp only [if_true]
    push_cast
    exact (neg_div _ _).symm
  | false => simp

theorem ofNumber?_text (number : NumberText) :
    Literal.ofNumber? number.text = Literal.ofNumeral? number.numeral := by
  rw [Literal.ofNumber?, text, String.toList_ofList, read?_chars]
  rfl

theorem toInt64?_eq_some_iff (number : NumberText) (n : Int64) :
    number.numeral.toInt64? = some n ↔ number.fraction = [] ∧ number.value = n.toInt := by
  rw [Numeral.toInt64?, value_eq_coefficient_div]
  change (if number.fraction.length = 0 then _ else none) = _ ↔ _
  by_cases whole : number.fraction = []
  · simp only [whole, List.length_nil, if_true, pow_zero, div_one, true_and, Int.cast_inj]
    constructor
    · intro found
      exact (toInt_of_int64OfInt? found).symm
    · intro same
      rw [same, int64OfInt?_toInt]
  · simp [whole]

theorem toInt64?_eq_none_iff (number : NumberText) :
    number.numeral.toInt64? = none ↔ ¬number.IsInt64 := by
  rw [Option.eq_none_iff_forall_ne_some, IsInt64]
  constructor
  · rintro none ⟨whole, n, same⟩
    exact none n ((number.toInt64?_eq_some_iff n).2 ⟨whole, same⟩)
  · intro none n found
    rcases (number.toInt64?_eq_some_iff n).1 found with ⟨whole, same⟩
    exact none ⟨whole, n, same⟩

/-- A decimal holds a number text exactly if it holds all its digits. -/
theorem ofNumeral?_eq_none_iff (number : NumberText) :
    Decimal.ofNumeral? number.numeral = none ↔ ¬number.FitsDecimal := by
  rw [Decimal.ofNumeral?, Decimal.ofScaled?_eq_none_iff, Numeral.natAbs_coefficient, FitsDecimal]
  change 0x1000000000000000000000000 ≤ number.digits ∨ 28 < number.fraction.length ↔ _
  omega

theorem ofNumber?_text_of_not_isInt64 {number : NumberText} (beyond : ¬number.IsInt64) :
    Literal.ofNumber? number.text
      = (Decimal.ofNumeral? number.numeral).map Literal.decimal := by
  rw [ofNumber?_text, Literal.ofNumeral?, number.toInt64?_eq_none_iff.2 beyond]

theorem toRat_of_ofNumeral? (number : NumberText) {d : Decimal}
    (h : Decimal.ofNumeral? number.numeral = some d) :
    d.toRat = number.value ∧ d.scale = number.fraction.length := by
  rcases Decimal.ofScaled?_eq_some_iff.1 h with ⟨coefficient, scale⟩
  have places : d.scale = number.fraction.length := scale
  rw [value_eq_coefficient_div, Decimal.toRat, coefficient, places]
  exact ⟨rfl, rfl⟩

theorem number?_of_ofNumber? (number : NumberText) {value : Literal}
    (h : Literal.ofNumber? number.text = some value) : value.number? = some number.value := by
  by_cases within : number.IsInt64
  · rcases within with ⟨whole, n, same⟩
    rw [ofNumber?_text, Literal.ofNumeral?,
      (number.toInt64?_eq_some_iff n).2 ⟨whole, same⟩] at h
    cases h
    rw [Literal.number?, same]
  · rw [ofNumber?_text_of_not_isInt64 within] at h
    rcases Option.map_eq_some_iff.1 h with ⟨d, found, rfl⟩
    rw [Literal.number?, (number.toRat_of_ofNumeral? found).1]

end NumberText

/-- A number text is read as the integer that it says if 64 bits hold it, else as the decimal with
all its digits if a decimal holds them, and else not at all; nothing else is read, and whatever is
read is the exact number. -/
theorem Literal.ofNumber?_exact :
    (∀ number : NumberText,
        (∀ n : Int64, number.fraction = [] → number.value = n.toInt →
            ofNumber? number.text = some (.integer n))
          ∧ (¬number.IsInt64 → number.FitsDecimal →
            ∃ d : Decimal, ofNumber? number.text = some (.decimal d) ∧ d.toRat = number.value
              ∧ d.scale = number.fraction.length)
          ∧ (¬number.IsInt64 → ¬number.FitsDecimal → ofNumber? number.text = none))
      ∧ (∀ text, (∀ number : NumberText, number.text ≠ text) → ofNumber? text = none)
      ∧ (∀ text literal, ofNumber? text = some literal →
          ∃ number : NumberText, number.text = text ∧ literal.number? = some number.value)
      ∧ ∀ text position, ofNumber? text = none →
          Token.literal ⟨.number, text, position⟩ = .error .numberFormat := by
  refine ⟨?_, ?_, ?_, ?_⟩
  · intro number
    refine ⟨?_, ?_, ?_⟩
    · intro n whole same
      rw [number.ofNumber?_text, ofNumeral?, (number.toInt64?_eq_some_iff n).2 ⟨whole, same⟩]
    · intro beyond fits
      have held : Decimal.ofNumeral? number.numeral ≠ none := fun none =>
        number.ofNumeral?_eq_none_iff.1 none fits
      rcases Option.ne_none_iff_exists'.1 held with ⟨d, found⟩
      refine ⟨d, ?_, number.toRat_of_ofNumeral? found⟩
      rw [NumberText.ofNumber?_text_of_not_isInt64 beyond, found]
      rfl
    · intro beyond large
      rw [NumberText.ofNumber?_text_of_not_isInt64 beyond,
        number.ofNumeral?_eq_none_iff.2 large]
      rfl
  · intro text other
    rw [Option.eq_none_iff_forall_ne_some]
    intro value read
    rcases NumberText.exists_text_of_ofNumber? read with ⟨number, same⟩
    exact other number same
  · intro text value read
    rcases NumberText.exists_text_of_ofNumber? read with ⟨number, rfl⟩
    exact ⟨number, rfl, number.number?_of_ofNumber? read⟩
  · intro text position none
    simp only [Token.literal, none]

/-- Behind a name and an operator, a number run is judged as a whole. -/
theorem Place.run_start_of_number {name operator number : Token} {op : CompareOp}
    (name_kind : name.kind = .identifier) (operator_kind : operator.kind = .comparison op)
    (number_kind : number.kind = .number) (rest : List (Except QueryError Token)) :
    Place.start.run (.ok name :: .ok operator :: .ok number :: rest)
      = number.literal.bind fun value =>
          (Place.closed (.comparison name.text op value)).run rest := by
  rw [run_cons_of_step (step_start_eq_ok_iff.2 (.inr ⟨name_kind, rfl⟩)),
    run_cons_of_step (step_named_eq_ok_iff.2 (.inl ⟨op, operator_kind, rfl⟩)), run, step,
    number_kind]
  cases number.literal <;> rfl

/-- A name, an operator and a run of number characters are read as a comparison with the number that
the run denotes, and a run that denotes none is a malformed number, wherever blanks stand. -/
theorem Expr.parse_comparison_run {before name gap gap' run after : String} (op : CompareOp)
    (blank_before : Blank before.toList) (is_name : IsName name.toList)
    (blank_gap : Blank gap.toList) (blank_gap' : Blank gap'.toList)
    (is_run : IsNumberRun run.toList) (blank_after : Blank after.toList) :
    (∀ value, Literal.ofNumber? run = some value →
        parse (before ++ name ++ gap ++ op.symbol ++ gap' ++ run ++ after)
          = .ok (.comparison name op value))
      ∧ (Literal.ofNumber? run = none →
        parse (before ++ name ++ gap ++ op.symbol ++ gap' ++ run ++ after) = .error .numberFormat)
      ∧ ∀ fault position,
        parse (before ++ name ++ gap ++ op.symbol ++ gap' ++ run ++ after)
          ≠ .error (.malformed fault position) := by
  generalize whole : before ++ name ++ gap ++ op.symbol ++ gap' ++ run ++ after = text
  have spaced : Spaced [(.identifier, name.toList), (.comparison op, op.symbol.toList),
      (.number, run.toList), (.endOfInput, [])] text.toList := by
    rw [← whole]
    simp only [String.toList_append]
    exact spaced_comparison blank_before is_name blank_gap blank_gap' rfl is_run blank_after
  rcases tokenize_eq_iff_spaced.2 spaced with ⟨tokens, read, same⟩
  simp only [List.map_eq_cons_iff, List.map_eq_nil_iff] at same
  rcases same with ⟨first, _, rfl, first_piece, operator, _, rfl, operator_piece, number, _, rfl,
    number_piece, last, _, rfl, last_piece, rfl⟩
  rw [Token.eq_of_piece first_piece, Token.eq_of_piece operator_piece,
    Token.eq_of_piece number_piece, Token.eq_of_piece last_piece] at read
  simp only [String.ofList_toList] at read
  have judged : Place.start.run (tokenize text)
      = (Token.literal ⟨.number, run, number.position⟩).bind fun value =>
          .ok (.done (.comparison name op value)) := by
    rw [read]
    exact Place.run_start_of_number rfl rfl rfl _
  have denoted : ∀ value, Literal.ofNumber? run = some value →
      parse text = .ok (.comparison name op value) := by
    intro value denotes
    rw [parse_eq_iff_run, judged]
    simp only [Token.literal, denotes]
    rfl
  have malformed : Literal.ofNumber? run = none → parse text = .error .numberFormat := by
    intro none
    rw [parse_eq_iff_run, judged]
    simp only [Token.literal, none]
    rfl
  refine ⟨denoted, malformed, ?_⟩
  intro fault position refused
  cases denotes : Literal.ofNumber? run with
  | none =>
    rw [malformed denotes] at refused
    cases refused
  | some value =>
    rw [denoted value denotes] at refused
    cases refused

/-- Letters behind a number belong to its run, and a second point makes it no number either. -/
theorem Expr.parse_comparison_run_of_junk :
    Blank "".toList ∧ IsName "Größe".toList ∧ Blank " ".toList ∧ IsNumberRun "-1.2.3½x".toList
      ∧ Literal.ofNumber? "-1.2.3½x" = none
      ∧ parse ("" ++ "Größe" ++ " " ++ CompareOp.less.symbol ++ "" ++ "-1.2.3½x" ++ " ")
          = .error .numberFormat := by
  have nothing : Blank "".toList := by
    intro c mem
    cases mem
  have space : Blank " ".toList := List.all_eq_true.1 (by decide +kernel)
  have is_name : IsName "Größe".toList :=
    ⟨⟨'G', "röße".toList, rfl, by decide +kernel, List.all_eq_true.1 (by decide +kernel)⟩,
      by decide, by decide, by decide⟩
  have is_run : IsNumberRun "-1.2.3½x".toList :=
    ⟨'-', "1.2.3½x".toList, rfl, by decide +kernel, List.all_eq_true.1 (by decide +kernel)⟩
  have none : Literal.ofNumber? "-1.2.3½x" = none := by decide +kernel
  exact ⟨nothing, is_name, space, is_run, none,
    (parse_comparison_run .less nothing is_name space nothing is_run space).2.1 none⟩

end RecordQuery
