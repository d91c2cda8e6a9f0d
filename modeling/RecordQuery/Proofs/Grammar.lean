import RecordQuery.Proofs.Lexicon
import RecordQuery.Proofs.LookAhead

/-!
# The grammar of terms

Which texts are terms, character by character: a name, a marked name, or a name, an operator and a
literal, with any number of blanks around each of them. The gaps may be empty, and still no text can
be taken apart in two ways.
-/
namespace RecordQuery

open Lexeme (IsWord Spelled Ends spelling isStop)

/-- How a text is taken apart: its name, its operator and the characters of its literal. -/
inductive Reading
  | name (name : List Char)
  | marked (name : List Char)
  | compared (name : List Char) (op : CompareOp) (literal : List Char)

/-- A text is written with these parts, and what it says. -/
inductive Written : List Char → Reading → Expr → Prop
  | name {before name after : List Char} (blank_before : Blank before) (is_name : IsName name)
      (blank_after : Blank after) :
      Written (before ++ name ++ after) (.name name) (.booleanTest (String.ofList name))
  | marked {before gap name after : List Char} (blank_before : Blank before) (blank_gap : Blank gap)
      (is_name : IsName name) (blank_after : Blank after) :
      Written (before ++ ['!'] ++ gap ++ name ++ after) (.marked name)
        (.negation (String.ofList name))
  | compared {before name gap gap' literal after : List Char} {op : CompareOp} {value : Literal}
      (blank_before : Blank before) (is_name : IsName name) (blank_gap : Blank gap)
      (blank_gap' : Blank gap') (denotes : Denotes literal value) (blank_after : Blank after) :
      Written (before ++ name ++ gap ++ op.symbol.toList ++ gap' ++ literal ++ after)
        (.compared name op literal) (.comparison (String.ofList name) op value)

theorem Blank.head?_append {gap after : List Char} (blank : Blank gap) (p : Char → Prop)
    (of_blank : ∀ c, Unicode.isWhiteSpace c = true → p c)
    (of_after : ∀ c, after.head? = some c → p c) : ∀ c, (gap ++ after).head? = some c → p c := by
  intro c head
  cases gap with
  | nil => exact of_after c head
  | cons d gap =>
    obtain rfl : d = c := by simpa using head
    exact of_blank d (blank d (by simp))

theorem isStop_of_isWhiteSpace (c : Char) (h : Unicode.isWhiteSpace c = true) :
    isStop c = true := by
  rw [isStop, h, Bool.true_or]

theorem ends_of_blank {kind : TokenKind} (going : kind ≠ .endOfInput) {gap : List Char}
    (blank : Blank gap) : Ends kind gap := by
  cases gap with
  | nil => exact Lexeme.ends_nil kind
  | cons c rest => exact Lexeme.ends_cons_of_isWhiteSpace going (blank c (by simp)) rest

theorem ends_identifier_of_blank {gap : List Char} (blank : Blank gap) (op : CompareOp)
    (after : List Char) : Ends .identifier (gap ++ (op.symbol.toList ++ after)) := by
  have stop : ∀ c, (gap ++ (op.symbol.toList ++ after)).head? = some c → isStop c = true := by
    apply blank.head?_append (isStop · = true) isStop_of_isWhiteSpace
    intro c head
    rw [isStop, Lexeme.isMark_of_head?_symbol head, Bool.or_true]
  intro c head
  exact Lexeme.isNameChar_of_isStop (stop c head)

theorem ends_of_head?_ne_equal {kind : TokenKind} (mark : kind = .exclamation ∨
    ∃ op, kind = .comparison op) {after : List Char}
    (apart : ∀ c, after.head? = some c → c ≠ '=') : Ends kind after := by
  have alone : after.head? ≠ some '=' := fun head => apart '=' head rfl
  rcases mark with rfl | ⟨op, rfl⟩
  · exact alone
  · cases op with
    | less | greater => exact alone
    | _ => trivial

theorem ne_equal_of_spelled {kind : TokenKind} (long : kind = .identifier ∨ kind.isLiteral = true)
    {contents : List Char} (spelled : Spelled kind contents) (after : List Char) :
    ∀ c, (spelling kind contents ++ after).head? = some c → c ≠ '=' := by
  have word_ne {contents : List Char} (is_word : IsWord contents) :
      ∀ c, (contents ++ after).head? = some c → c ≠ '=' := by
    rintro c head rfl
    rcases is_word with ⟨d, rest, rfl, start, -⟩
    obtain rfl : d = '=' := by simpa using head
    exact absurd start (by decide +kernel)
  cases kind with
  | identifier => exact word_ne spelled.1
  | null | boolean => exact word_ne ((Lexeme.spelled_wordKind_iff (by simp)).1 spelled).1
  | number =>
    rintro c head rfl
    rcases spelled with ⟨d, rest, rfl, start, -⟩
    obtain rfl : d = '=' := by simpa [spelling] using head
    exact absurd start (by decide +kernel)
  | string =>
    rintro c head rfl
    simp [spelling] at head
  | _ => rcases long with same | literal <;> contradiction

/-- An operator or the mark ends before a gap and a name or a literal. -/
theorem ends_mark_of_blank {mark kind : TokenKind}
    (is_mark : mark = .exclamation ∨ ∃ op, mark = .comparison op)
    (long : kind = .identifier ∨ kind.isLiteral = true) {gap contents : List Char}
    (blank : Blank gap) (spelled : Spelled kind contents) (after : List Char) :
    Ends mark (gap ++ (spelling kind contents ++ after)) := by
  apply ends_of_head?_ne_equal is_mark
  apply blank.head?_append (· ≠ '=')
  · rintro c white rfl
    exact absurd white (by decide +kernel)
  · exact ne_equal_of_spelled long spelled after

def Reading.ofPieces : List Piece → Option Reading
  | [(.identifier, word), (.endOfInput, _)] => some (.name word)
  | [(.exclamation, _), (.identifier, word), (.endOfInput, _)] => some (.marked word)
  | [(.identifier, word), (.comparison op, _), (kind, contents), (.endOfInput, _)] =>
    some (.compared word op (spelling kind contents))
  | _ => none

theorem spaced_comparison {before word gap gap' contents after : List Char} {op : CompareOp}
    {kind : TokenKind} (blank_before : Blank before) (is_name : IsName word)
    (blank_gap : Blank gap) (blank_gap' : Blank gap') (literal : kind.isLiteral = true)
    (spelled : Spelled kind contents) (blank_after : Blank after) :
    Spaced [(.identifier, word), (.comparison op, op.symbol.toList), (kind, contents),
        (.endOfInput, [])]
      (before ++ word ++ gap ++ op.symbol.toList ++ gap' ++ spelling kind contents ++ after) := by
  have kind_ne : kind ≠ .endOfInput := by
    rintro rfl
    cases literal
  simp only [List.append_assoc]
  refine .more blank_before TokenKind.noConfusion (spelled_identifier_iff.2 is_name) ?_ ?_
  · exact ends_identifier_of_blank blank_gap op _
  refine .more blank_gap TokenKind.noConfusion rfl ?_ ?_
  · exact ends_mark_of_blank (.inr ⟨op, rfl⟩) (.inr literal) blank_gap' spelled _
  · exact .more blank_gap' kind_ne spelled (ends_of_blank kind_ne blank_after)
      (.last blank_after)

/-- A written term has the tokens of what it says, and they tell its parts. -/
theorem Written.exists_pieces {text : List Char} {reading : Reading} {expr : Expr}
    (h : Written text reading expr) :
    ∃ pieces, Spaced pieces text ∧ Reading.ofPieces pieces = some reading
      ∧ ∀ tokens : List Token, tokens.map Token.piece = pieces → ReadsAs tokens expr := by
  cases h with
  | @name before word after blank_before is_name blank_after =>
    refine ⟨[(.identifier, word), (.endOfInput, [])], ?_, rfl, ?_⟩
    · rw [List.append_assoc]
      exact .more blank_before TokenKind.noConfusion (spelled_identifier_iff.2 is_name)
        (ends_of_blank TokenKind.noConfusion blank_after) (.last blank_after)
    · intro tokens same
      simp only [List.map_eq_cons_iff, List.map_eq_nil_iff] at same
      rcases same with ⟨name, _, rfl, name_piece, last, _, rfl, last_piece, rfl⟩
      rw [Token.eq_of_piece name_piece, Token.eq_of_piece last_piece]
      exact .booleanTest rfl rfl
  | @marked before gap word after blank_before blank_gap is_name blank_after =>
    refine ⟨[(.exclamation, ['!']), (.identifier, word), (.endOfInput, [])], ?_, rfl, ?_⟩
    · simp only [List.append_assoc]
      have spelled := spelled_identifier_iff.2 is_name
      exact .more blank_before TokenKind.noConfusion rfl
        (ends_mark_of_blank (.inl rfl) (.inl rfl) blank_gap spelled after)
        (.more blank_gap TokenKind.noConfusion spelled (ends_of_blank TokenKind.noConfusion blank_after)
          (.last blank_after))
    · intro tokens same
      simp only [List.map_eq_cons_iff, List.map_eq_nil_iff] at same
      rcases same with
        ⟨mark, _, rfl, mark_piece, name, _, rfl, name_piece, last, _, rfl, last_piece, rfl⟩
      rw [Token.eq_of_piece mark_piece, Token.eq_of_piece name_piece,
        Token.eq_of_piece last_piece]
      exact .negation rfl rfl rfl
  | @compared before word gap gap' chars after op value blank_before is_name blank_gap blank_gap'
      denotes blank_after =>
    rcases denotes.exists_token with ⟨kind, contents, literal, rfl, spelled, read⟩
    refine ⟨[(.identifier, word), (.comparison op, op.symbol.toList), (kind, contents),
      (.endOfInput, [])], ?_, rfl, ?_⟩
    · exact spaced_comparison blank_before is_name blank_gap blank_gap' literal spelled blank_after
    · intro tokens same
      simp only [List.map_eq_cons_iff, List.map_eq_nil_iff] at same
      rcases same with ⟨name, _, rfl, name_piece, operator, _, rfl, operator_piece, chars, _, rfl,
        chars_piece, last, _, rfl, last_piece, rfl⟩
      rw [Token.eq_of_piece name_piece, Token.eq_of_piece operator_piece,
        Token.eq_of_piece chars_piece, Token.eq_of_piece last_piece]
      exact .comparison rfl rfl literal (read _) rfl

theorem ReadsAs.exists_written {tokens : List Token} {expr : Expr} (h : ReadsAs tokens expr)
    {text : List Char} (spaced : Spaced (tokens.map Token.piece) text) :
    ∃ reading, Written text reading expr := by
  cases h with
  | @booleanTest name last name_kind last_kind =>
    simp only [List.map_cons, Token.piece, name_kind, last_kind] at spaced
    rcases spaced.exists_of_ne TokenKind.noConfusion with
      ⟨before, after, rfl, blank_before, spelled, spaced⟩
    have written := Written.name blank_before (spelled_identifier_iff.1 spelled)
      spaced.blank_of_endOfInput
    rw [String.ofList_toList, List.append_assoc] at written
    exact ⟨_, written⟩
  | @negation mark name last mark_kind name_kind last_kind =>
    simp only [List.map_cons, Token.piece, mark_kind, name_kind, last_kind] at spaced
    rcases spaced.exists_of_ne TokenKind.noConfusion with
      ⟨before, _, rfl, blank_before, symbol, spaced⟩
    rcases spaced.exists_of_ne TokenKind.noConfusion with
      ⟨gap, after, rfl, blank_gap, spelled, spaced⟩
    have written := Written.marked blank_before blank_gap (spelled_identifier_iff.1 spelled)
      spaced.blank_of_endOfInput
    rw [show mark.text.toList = ['!'] from symbol]
    simp only [String.ofList_toList, List.append_assoc] at written
    exact ⟨_, written⟩
  | @comparison name operator literal last op value name_kind operator_kind literal_kind read
      last_kind =>
    simp only [List.map_cons, Token.piece, name_kind, operator_kind, last_kind] at spaced
    rcases spaced.exists_of_ne TokenKind.noConfusion with
      ⟨before, _, rfl, blank_before, spelled, spaced⟩
    rcases spaced.exists_of_ne TokenKind.noConfusion with
      ⟨gap, _, rfl, blank_gap, symbol, spaced⟩
    have kind_ne : literal.kind ≠ .endOfInput := by
      intro same
      rw [same] at literal_kind
      cases literal_kind
    rcases spaced.exists_of_ne kind_ne with ⟨gap', after, rfl, blank_gap', contents, spaced⟩
    have written : Written _ (.compared _ op _) _ :=
      .compared blank_before (spelled_identifier_iff.1 spelled) blank_gap blank_gap'
        (denotes_of_literal contents read) spaced.blank_of_endOfInput
    rw [show operator.text.toList = op.symbol.toList from symbol]
    simp only [String.ofList_toList, List.append_assoc] at written
    exact ⟨_, written⟩

theorem Expr.parse_eq_ok_of_written {text : String} {reading : Reading} {expr : Expr}
    (written : Written text.toList reading expr) : Expr.parse text = .ok expr := by
  rcases written.exists_pieces with ⟨pieces, spaced, -, term⟩
  rcases tokenize_eq_iff_spaced.2 spaced with ⟨tokens, read, same⟩
  exact Expr.parse_eq_ok_iff.2 ⟨tokens, read, term tokens same⟩

theorem Expr.exists_written_of_parse {text : String} {expr : Expr}
    (h : Expr.parse text = .ok expr) : ∃ reading, Written text.toList reading expr := by
  rcases Expr.parse_eq_ok_iff.1 h with ⟨tokens, read, term⟩
  exact term.exists_written (tokenize_eq_iff_spaced.1 ⟨tokens, read, rfl⟩)

theorem Written.reading_eq {text : List Char} {reading other : Reading} {expr expr' : Expr}
    (written : Written text reading expr) (written' : Written text other expr') :
    reading = other := by
  rcases written.exists_pieces with ⟨pieces, spaced, parts, -⟩
  rcases written'.exists_pieces with ⟨pieces', spaced', parts', -⟩
  rw [spaced.unique spaced', parts'] at parts
  exact (Option.some.inj parts).symm

/-- A text is read as a term exactly if it is written as the term, and it can be taken apart in one
way only. -/
theorem Expr.parse_iff_written (text : String) :
    (∀ expr, Expr.parse text = .ok expr ↔ ∃ reading, Written text.toList reading expr)
      ∧ ∀ reading other expr expr', Written text.toList reading expr →
          Written text.toList other expr' → reading = other := by
  constructor
  · intro expr
    constructor
    · exact Expr.exists_written_of_parse
    · rintro ⟨reading, written⟩
      exact Expr.parse_eq_ok_of_written written
  · intro reading other expr expr' written written'
    exact written.reading_eq written'

end RecordQuery
