import RecordQuery.Numeral.RoundTrip
import RecordQuery.Proofs.Characters

/-!
# How tokens are spelled

For each kind of token, the contents it can have and the texts that may follow it. The lexeme at the
front of a text is a token exactly if the text starts with a spelling of it and what follows does
not go on with it.
-/
namespace RecordQuery.Lexeme

def IsWord (word : List Char) : Prop :=
  ∃ c rest, word = c :: rest ∧ isNameStart c = true ∧ ∀ d ∈ rest, isNameChar d = true

def IsNumberRun (run : List Char) : Prop :=
  ∃ c rest, run = c :: rest ∧ isNumberStart c = true ∧ ∀ d ∈ rest, isNumberChar d = true

/-- The contents that a token of the kind can have. -/
def Spelled : TokenKind → List Char → Prop
  | .identifier, word => IsWord word ∧ wordKind word = .identifier
  | .null, word => word = ['n', 'u', 'l', 'l']
  | .boolean, word => word = ['t', 'r', 'u', 'e'] ∨ word = ['f', 'a', 'l', 's', 'e']
  | .number, run => IsNumberRun run
  | .string, contents => '\'' ∉ contents
  | .comparison op, chars => chars = op.symbol.toList
  | .exclamation, chars => chars = ['!']
  | .endOfInput, chars => chars = []

/-- Whether a token of the kind ends before the text that follows. -/
def Ends : TokenKind → List Char → Prop
  | .identifier, after | .null, after | .boolean, after =>
    ∀ c, after.head? = some c → isNameChar c = false
  | .number, after => ∀ c, after.head? = some c → isNumberChar c = false
  | .comparison .less, after | .comparison .greater, after | .exclamation, after =>
    after.head? ≠ some '='
  | .endOfInput, after => after = []
  | _, _ => True

theorem wordKind_eq_null_iff {word : List Char} :
    wordKind word = .null ↔ word = ['n', 'u', 'l', 'l'] := by
  unfold wordKind
  split
  · simp_all
  · split <;> simp_all

theorem wordKind_eq_boolean_iff {word : List Char} :
    wordKind word = .boolean ↔ word = ['t', 'r', 'u', 'e'] ∨ word = ['f', 'a', 'l', 's', 'e'] := by
  unfold wordKind
  split
  · simp_all
  · split <;> simp_all

theorem wordKind_cases (word : List Char) :
    wordKind word = .identifier ∨ wordKind word = .null ∨ wordKind word = .boolean := by
  unfold wordKind
  split
  · simp
  · split <;> simp

theorem isWord_null : IsWord ['n', 'u', 'l', 'l'] :=
  ⟨'n', ['u', 'l', 'l'], rfl, by decide +kernel, List.all_eq_true.1 (by decide +kernel)⟩

theorem isWord_true : IsWord ['t', 'r', 'u', 'e'] :=
  ⟨'t', ['r', 'u', 'e'], rfl, by decide +kernel, List.all_eq_true.1 (by decide +kernel)⟩

theorem isWord_false : IsWord ['f', 'a', 'l', 's', 'e'] :=
  ⟨'f', ['a', 'l', 's', 'e'], rfl, by decide +kernel, List.all_eq_true.1 (by decide +kernel)⟩

/-- Names and the words that are literals are spelled alike, and their kind is that of the word. -/
theorem spelled_wordKind_iff {kind : TokenKind} {word : List Char}
    (named : kind = .identifier ∨ kind = .null ∨ kind = .boolean) :
    Spelled kind word ↔ IsWord word ∧ wordKind word = kind := by
  rcases named with rfl | rfl | rfl
  · exact Iff.rfl
  · rw [wordKind_eq_null_iff]
    constructor
    · rintro rfl
      exact ⟨isWord_null, rfl⟩
    · exact And.right
  · rw [wordKind_eq_boolean_iff]
    constructor
    · rintro (rfl | rfl)
      · exact ⟨isWord_true, .inl rfl⟩
      · exact ⟨isWord_false, .inr rfl⟩
    · exact And.right

theorem isMark_of_isNameStart {c : Char} (h : isNameStart c = true) : isMark c = false := by
  rw [← Bool.not_eq_true]
  intro mark
  rw [(classes_of_isMark mark).1] at h
  cases h

theorem isMark_of_isNumberStart {c : Char} (h : isNumberStart c = true) : isMark c = false := by
  rw [← Bool.not_eq_true]
  intro mark
  rw [(classes_of_isMark mark).2.2.1] at h
  cases h

theorem isMark_of_head?_symbol {op : CompareOp} {after : List Char} {c : Char}
    (head : (op.symbol.toList ++ after).head? = some c) : isMark c = true := by
  cases op with
  | equal =>
    obtain rfl : '=' = c := by simpa [CompareOp.symbol] using head
    rfl
  | notEqual =>
    obtain rfl : '!' = c := by simpa [CompareOp.symbol] using head
    rfl
  | less | lessEqual =>
    obtain rfl : '<' = c := by simpa [CompareOp.symbol] using head
    rfl
  | greater | greaterEqual =>
    obtain rfl : '>' = c := by simpa [CompareOp.symbol] using head
    rfl

theorem first_cons_of_not_isMark {c : Char} (h : isMark c = false) (rest : List Char) :
    first (c :: rest) =
      if isNameStart c then
        .token (wordKind (c :: rest.takeWhile isNameChar)) (c :: rest.takeWhile isNameChar)
      else if isNumberStart c then .token .number (c :: rest.takeWhile isNumberChar)
      else .unexpected c := by
  simp only [isMark, Bool.or_eq_false_iff, beq_eq_false_iff_ne, ne_eq] at h
  rcases h with ⟨⟨⟨⟨equal, exclamation⟩, less⟩, greater⟩, quote⟩
  have operator : operator? c rest.head? = none := by
    unfold operator?
    split <;> simp_all
  rw [first, operator]
  simp only [quote, if_false]

theorem first_quote (rest : List Char) :
    first ('\'' :: rest) =
      if '\'' ∈ rest then .token .string (rest.takeWhile (· != '\'')) else .unterminated := by
  simp [first, operator?]

theorem first_word {c : Char} {rest after : List Char} (start : isNameStart c = true)
    (inside : ∀ d ∈ rest, isNameChar d = true)
    (stop : ∀ d, after.head? = some d → isNameChar d = false) :
    first (c :: rest ++ after) = .token (wordKind (c :: rest)) (c :: rest) := by
  rw [List.cons_append, first_cons_of_not_isMark (isMark_of_isNameStart start), if_pos start,
    (Numeral.takeWhile_append_of_head inside stop).1]

theorem first_number {c : Char} {rest after : List Char} (start : isNumberStart c = true)
    (inside : ∀ d ∈ rest, isNumberChar d = true)
    (stop : ∀ d, after.head? = some d → isNumberChar d = false) :
    first (c :: rest ++ after) = .token .number (c :: rest) := by
  have unnamed : ¬isNameStart c = true := by simp [isNameStart_of_isNumberStart start]
  rw [List.cons_append, first_cons_of_not_isMark (isMark_of_isNumberStart start), if_neg unnamed,
    if_pos start, (Numeral.takeWhile_append_of_head inside stop).1]

theorem first_string {contents : List Char} (plain : '\'' ∉ contents) (after : List Char) :
    first ('\'' :: (contents ++ '\'' :: after)) = .token .string contents := by
  have inside : ∀ c ∈ contents, (c != '\'') = true := by
    intro c mem
    rw [bne_iff_ne]
    rintro rfl
    exact plain mem
  have stop : ∀ c, ('\'' :: after).head? = some c → (c != '\'') = false := by
    rintro c h
    obtain rfl : '\'' = c := by simpa using h
    rfl
  rw [first_quote, if_pos (by simp), (Numeral.takeWhile_append_of_head inside stop).1]

theorem first_eq_token {kind : TokenKind} {contents after : List Char}
    (spelled : Spelled kind contents) (ends : Ends kind after) :
    first (spelling kind contents ++ after) = .token kind contents := by
  cases kind with
  | identifier | null | boolean =>
    rcases (spelled_wordKind_iff (by simp)).1 spelled with ⟨⟨c, rest, rfl, start, inside⟩, name⟩
    have word := first_word start inside ends
    rw [name] at word
    exact word
  | number =>
    rcases spelled with ⟨c, rest, rfl, start, inside⟩
    exact first_number start inside ends
  | string =>
    have text := first_string spelled after
    simpa [spelling] using text
  | comparison op =>
    obtain rfl : contents = op.symbol.toList := spelled
    cases op with
    | less | greater =>
      have alone : after.head? ≠ some '=' := ends
      simp [spelling, CompareOp.symbol, first, operator?, alone]
    | _ => simp [spelling, CompareOp.symbol, first, operator?]
  | exclamation =>
    obtain rfl : contents = ['!'] := spelled
    have alone : after.head? ≠ some '=' := ends
    simp [spelling, first, operator?, alone]
  | endOfInput =>
    obtain rfl : contents = [] := spelled
    obtain rfl : after = [] := ends
    rfl

theorem spelled_of_operator? {c : Char} {rest chars : List Char} {kind : TokenKind}
    (h : operator? c rest.head? = some (kind, chars)) :
    ∃ after, c :: rest = chars ++ after ∧ Spelled kind chars ∧ Ends kind after := by
  by_cases joined : rest.head? = some '='
  · rcases List.head?_eq_some_iff.1 joined with ⟨after, rfl⟩
    simp only [operator?, joined, if_true] at h
    split at h
    · cases h
      exact ⟨'=' :: after, rfl, rfl, trivial⟩
    · cases h
      exact ⟨after, rfl, rfl, trivial⟩
    · cases h
      exact ⟨after, rfl, rfl, trivial⟩
    · cases h
      exact ⟨after, rfl, rfl, trivial⟩
    · cases h
  · simp only [operator?, joined, if_false] at h
    split at h
    · cases h
      exact ⟨rest, rfl, rfl, trivial⟩
    · cases h
      exact ⟨rest, rfl, rfl, joined⟩
    · cases h
      exact ⟨rest, rfl, rfl, joined⟩
    · cases h
      exact ⟨rest, rfl, rfl, joined⟩
    · cases h

theorem not_head?_dropWhile {p : Char → Bool} {text : List Char} :
    ∀ c, (text.dropWhile p).head? = some c → p c = false := by
  intro c h
  have stop := List.head?_dropWhile_not p text
  rw [h] at stop
  exact stop

theorem of_mem_takeWhile {p : Char → Bool} {text : List Char} :
    ∀ c ∈ text.takeWhile p, p c = true :=
  List.all_eq_true.1 List.all_takeWhile

theorem spelled_word {c : Char} (start : isNameStart c = true) (rest : List Char) :
    Spelled (wordKind (c :: rest.takeWhile isNameChar)) (c :: rest.takeWhile isNameChar)
      ∧ Ends (wordKind (c :: rest.takeWhile isNameChar)) (rest.dropWhile isNameChar) := by
  have named := wordKind_cases (c :: rest.takeWhile isNameChar)
  constructor
  · rw [spelled_wordKind_iff named]
    exact ⟨⟨c, _, rfl, start, of_mem_takeWhile⟩, rfl⟩
  · rcases named with name | name | name
    all_goals
      rw [name]
      exact not_head?_dropWhile

/-- A text that starts with a token starts with a spelling of it, and what follows does not go on
with it. -/
theorem exists_spelled_of_first {text contents : List Char} {kind : TokenKind}
    (h : first text = .token kind contents) :
    ∃ after, text = spelling kind contents ++ after ∧ Spelled kind contents ∧ Ends kind after := by
  cases text with
  | nil =>
    cases h
    exact ⟨[], rfl, rfl, rfl⟩
  | cons c rest =>
    rw [first] at h
    split at h
    · rename_i found
      cases h
      rw [spelling_operator found]
      exact spelled_of_operator? found
    · split at h
      · rename_i quote
        split at h
        · rename_i closed
          cases h
          rcases takeWhile_quote_append closed with ⟨after, split⟩
          refine ⟨after, ?_, ?_, trivial⟩
          · simpa [spelling, quote] using split.symm
          · intro mem
            simpa using of_mem_takeWhile _ mem
        · cases h
      · split at h
        · rename_i start
          cases h
          rcases spelled_word start rest with ⟨spelled, ends⟩
          refine ⟨_, ?_, spelled, ends⟩
          rw [spelling_wordKind, List.cons_append, List.takeWhile_append_dropWhile]
        · split at h
          · rename_i start
            cases h
            refine ⟨rest.dropWhile isNumberChar, ?_, ⟨c, _, rfl, start, of_mem_takeWhile⟩,
              not_head?_dropWhile⟩
            change c :: rest = c :: (rest.takeWhile isNumberChar ++ rest.dropWhile isNumberChar)
            rw [List.takeWhile_append_dropWhile]
          · cases h

/-- The front of a text is a token exactly if the text starts with a spelling of the token that
what follows does not go on with. -/
theorem first_eq_token_iff {text contents : List Char} {kind : TokenKind} :
    first text = .token kind contents ↔
      ∃ after, text = spelling kind contents ++ after ∧ Spelled kind contents
        ∧ Ends kind after := by
  constructor
  · exact exists_spelled_of_first
  · rintro ⟨after, rfl, spelled, ends⟩
    exact first_eq_token spelled ends

theorem ends_nil (kind : TokenKind) : Ends kind [] := by
  cases kind with
  | comparison op => cases op <;> simp [Ends]
  | _ => simp [Ends]

/-- Whether a token ends depends on the next character only. -/
theorem ends_of_head?_eq {kind : TokenKind} (going : kind ≠ .endOfInput) {after other : List Char}
    (same : after.head? = other.head?) (ends : Ends kind after) : Ends kind other := by
  cases kind with
  | endOfInput => exact absurd rfl going
  | identifier | null | boolean | number =>
    intro c head
    exact ends c (same.trans head)
  | exclamation => exact fun joined => ends (same.trans joined)
  | comparison op =>
    cases op with
    | less | greater => exact fun joined => ends (same.trans joined)
    | _ => trivial
  | string => trivial

theorem ends_cons_of_isWhiteSpace {kind : TokenKind} (going : kind ≠ .endOfInput) {c : Char}
    (blank : Unicode.isWhiteSpace c = true) (rest : List Char) : Ends kind (c :: rest) := by
  have classes := classes_of_isWhiteSpace blank
  have unequal : c ≠ '=' := by
    rintro rfl
    exact absurd blank (by decide +kernel)
  cases kind with
  | endOfInput => exact absurd rfl going
  | comparison op => cases op <;> simp [Ends, unequal]
  | _ => simp [Ends, classes, unequal]

theorem spelling_ne_nil_of_spelled {kind : TokenKind} {contents : List Char}
    (spelled : Spelled kind contents) (kind_ne : kind ≠ .endOfInput) :
    spelling kind contents ≠ [] :=
  spelling_ne_nil_of_first (first_eq_token spelled (ends_nil kind)) kind_ne

theorem starts_of_spelled {kind : TokenKind} {contents : List Char} {c : Char}
    (spelled : Spelled kind contents) (head : (spelling kind contents).head? = some c) :
    isMark c = true ∨ isNameStart c = true ∨ isNumberStart c = true := by
  cases kind with
  | identifier | null | boolean =>
    rcases (spelled_wordKind_iff (by simp)).1 spelled with ⟨⟨d, rest, rfl, start, -⟩, -⟩
    obtain rfl : d = c := by simpa [spelling] using head
    exact .inr (.inl start)
  | number =>
    rcases spelled with ⟨d, rest, rfl, start, -⟩
    obtain rfl : d = c := by simpa [spelling] using head
    exact .inr (.inr start)
  | string =>
    obtain rfl : '\'' = c := by simpa [spelling] using head
    exact .inl rfl
  | comparison op =>
    obtain rfl : contents = op.symbol.toList := spelled
    have within : (op.symbol.toList ++ []).head? = some c := by
      rw [List.append_nil]
      exact head
    exact .inl (isMark_of_head?_symbol within)
  | exclamation =>
    obtain rfl : contents = ['!'] := spelled
    obtain rfl : '!' = c := by simpa [spelling] using head
    exact .inl rfl
  | endOfInput =>
    obtain rfl : contents = [] := spelled
    cases head

theorem exists_token_of_isMark {c : Char} (mark : isMark c = true) (plain : c ≠ '\'')
    (rest : List Char) : ∃ kind contents, first (c :: rest) = .token kind contents := by
  rcases eq_of_isMark mark with rfl | rfl | rfl | rfl | rfl
  · exact ⟨_, _, rfl⟩
  · exact ⟨_, _, rfl⟩
  · exact ⟨_, _, rfl⟩
  · exact ⟨_, _, rfl⟩
  · exact absurd rfl plain

theorem exists_quote_of_first {text : List Char} (h : first text = .unterminated) :
    ∃ rest, text = '\'' :: rest ∧ '\'' ∉ rest := by
  cases text with
  | nil => cases h
  | cons c rest =>
    by_cases quote : c = '\''
    · subst quote
      rw [first_quote] at h
      split at h
      · cases h
      · rename_i alone
        exact ⟨rest, rfl, alone⟩
    · by_cases mark : isMark c = true
      · rcases exists_token_of_isMark mark quote rest with ⟨kind, contents, found⟩
        rw [found] at h
        cases h
      · rw [first_cons_of_not_isMark (Bool.not_eq_true _ ▸ mark)] at h
        split at h
        · cases h
        · split at h <;> cases h

theorem exists_cons_of_first {text : List Char} {c : Char} (h : first text = .unexpected c) :
    ∃ rest, text = c :: rest
      ∧ ∀ kind contents, Spelled kind contents → (spelling kind contents).head? ≠ some c := by
  cases text with
  | nil => cases h
  | cons d rest =>
    by_cases quote : d = '\''
    · subst quote
      rw [first_quote] at h
      split at h <;> cases h
    · by_cases mark : isMark d = true
      · rcases exists_token_of_isMark mark quote rest with ⟨kind, contents, found⟩
        rw [found] at h
        cases h
      · rw [first_cons_of_not_isMark (Bool.not_eq_true _ ▸ mark)] at h
        split at h
        · cases h
        · rename_i unnamed
          split at h
          · cases h
          · rename_i unnumbered
            cases h
            refine ⟨rest, rfl, ?_⟩
            intro kind contents spelled head
            rcases starts_of_spelled spelled head with is_mark | name | number
            · exact mark is_mark
            · exact unnamed name
            · exact unnumbered number

end RecordQuery.Lexeme
