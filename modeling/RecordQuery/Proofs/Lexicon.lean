import RecordQuery.Proofs.Spelling
import RecordQuery.Token.Literal

/-!
# Names and literals

Which characters name a field and which denote a literal. Each of them is the spelling of one token,
and the literal of a token is the one that its spelling denotes.
-/
namespace RecordQuery

open Lexeme (IsWord IsNumberRun Spelled spelling)

def IsName (word : List Char) : Prop :=
  IsWord word ∧ word ≠ ['n', 'u', 'l', 'l'] ∧ word ≠ ['t', 'r', 'u', 'e']
    ∧ word ≠ ['f', 'a', 'l', 's', 'e']

theorem spelled_identifier_iff {word : List Char} : Spelled .identifier word ↔ IsName word := by
  have kinds := Lexeme.wordKind_cases word
  constructor
  · rintro ⟨is_word, kind⟩
    refine ⟨is_word, ?_, ?_, ?_⟩
    · intro null
      rw [Lexeme.wordKind_eq_null_iff.2 null] at kind
      cases kind
    · intro truth
      rw [Lexeme.wordKind_eq_boolean_iff.2 (.inl truth)] at kind
      cases kind
    · intro falsity
      rw [Lexeme.wordKind_eq_boolean_iff.2 (.inr falsity)] at kind
      cases kind
  · rintro ⟨is_word, null, truth, falsity⟩
    refine ⟨is_word, ?_⟩
    rcases kinds with kind | kind | kind
    · exact kind
    · exact absurd (Lexeme.wordKind_eq_null_iff.1 kind) null
    · rcases Lexeme.wordKind_eq_boolean_iff.1 kind with same | same
      · exact absurd same truth
      · exact absurd same falsity

/-- The characters that denote a literal. -/
inductive Denotes : List Char → Literal → Prop
  | null : Denotes ['n', 'u', 'l', 'l'] .null
  | truth : Denotes ['t', 'r', 'u', 'e'] (.bool true)
  | falsity : Denotes ['f', 'a', 'l', 's', 'e'] (.bool false)
  | text {contents : List Char} (plain : '\'' ∉ contents) :
      Denotes ('\'' :: (contents ++ ['\''])) (.text (String.ofList contents))
  | number {chars : List Char} {value : Literal}
      (read : Literal.ofNumber? (String.ofList chars) = some value) : Denotes chars value

theorem isNumberChar_of_mem_writeUnsigned {magnitude scale : Nat} {c : Char}
    (mem : c ∈ Numeral.writeUnsigned magnitude scale) : Lexeme.isNumberChar c = true := by
  rw [Numeral.writeUnsigned, List.mem_append] at mem
  rcases mem with whole | fraction
  · exact Lexeme.isNumberChar_of_isDigit
      (Nat.isDigit_of_mem_toDigits (by omega) (by omega) whole)
  · split at fraction
    · cases fraction
    · rcases List.mem_cons.1 fraction with rfl | digit
      · decide +kernel
      · exact Lexeme.isNumberChar_of_isDigit (Numeral.isDigit_of_mem_lastDigits digit)

theorem exists_digit_writeUnsigned (magnitude scale : Nat) :
    ∃ c rest, Numeral.writeUnsigned magnitude scale = c :: rest ∧ c.isDigit = true := by
  rcases found : Nat.toDigits 10 (magnitude / powerOfTen scale) with _ | ⟨c, rest⟩
  · exact absurd found Nat.toDigits_ne_nil
  · refine ⟨c, _, by rw [Numeral.writeUnsigned, found, List.cons_append], ?_⟩
    have mem : c ∈ Nat.toDigits 10 (magnitude / powerOfTen scale) := by simp [found]
    exact Nat.isDigit_of_mem_toDigits (by omega) (by omega) mem

theorem isNumberRun_write (n : Numeral) : IsNumberRun n.write := by
  rcases sign : n.negative with _ | _
  · rcases exists_digit_writeUnsigned n.magnitude n.scale with ⟨c, rest, split, digit⟩
    refine ⟨c, rest, ?_, ?_, ?_⟩
    · rw [Numeral.write, sign, split]
      rfl
    · rw [Lexeme.isNumberStart, digit, Bool.true_or]
    · intro d mem
      have within : d ∈ Numeral.writeUnsigned n.magnitude n.scale := by
        rw [split]
        exact List.mem_cons_of_mem _ mem
      exact isNumberChar_of_mem_writeUnsigned within
  · refine ⟨'-', Numeral.writeUnsigned n.magnitude n.scale, ?_, rfl, ?_⟩
    · rw [Numeral.write, sign]
      rfl
    · intro d mem
      exact isNumberChar_of_mem_writeUnsigned mem

theorem isNumberRun_of_ofNumber? {text : String} {value : Literal}
    (h : Literal.ofNumber? text = some value) : IsNumberRun text.toList := by
  rcases Option.bind_eq_some_iff.1 h with ⟨n, read, -⟩
  rw [Numeral.eq_write_of_read? read]
  exact isNumberRun_write n

/-- The characters of a literal are the spelling of one token. -/
theorem Denotes.exists_token {chars : List Char} {value : Literal} (h : Denotes chars value) :
    ∃ kind contents, kind.isLiteral = true ∧ chars = spelling kind contents
      ∧ Spelled kind contents
      ∧ ∀ position, Token.literal ⟨kind, String.ofList contents, position⟩ = .ok value := by
  cases h with
  | null => exact ⟨.null, _, rfl, rfl, rfl, fun _ => rfl⟩
  | truth => exact ⟨.boolean, _, rfl, rfl, .inl rfl, fun _ => rfl⟩
  | falsity => exact ⟨.boolean, _, rfl, rfl, .inr rfl, fun _ => rfl⟩
  | @text contents plain => exact ⟨.string, contents, rfl, rfl, plain, fun _ => rfl⟩
  | number read =>
    refine ⟨.number, chars, rfl, rfl, ?_, ?_⟩
    · have run := isNumberRun_of_ofNumber? read
      rw [String.toList_ofList] at run
      exact run
    · intro position
      rw [Token.literal]
      simp only [read]

theorem denotes_of_literal {token : Token} {value : Literal}
    (spelled : Spelled token.kind token.text.toList) (read : token.literal = .ok value) :
    Denotes (spelling token.kind token.text.toList) value := by
  rcases token with ⟨kind, text, position⟩
  cases kind with
  | number =>
    simp only [Token.literal] at read
    split at read
    · rename_i found
      cases read
      apply Denotes.number
      simpa [spelling] using found
    · cases read
  | string =>
    cases read
    have quoted := Denotes.text spelled
    rw [String.ofList_toList] at quoted
    exact quoted
  | boolean =>
    change Denotes text.toList value
    rcases spelled with word | word
    · rw [word]
      obtain rfl : text = "true" := String.toList_injective word
      cases read
      exact .truth
    · rw [word]
      obtain rfl : text = "false" := String.toList_injective word
      cases read
      exact .falsity
  | null =>
    change Denotes text.toList value
    have word : text.toList = ['n', 'u', 'l', 'l'] := spelled
    rw [word]
    obtain rfl : text = "null" := String.toList_injective word
    cases read
    exact .null
  | _ => cases read

end RecordQuery
