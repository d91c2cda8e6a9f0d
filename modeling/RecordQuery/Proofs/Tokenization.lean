import RecordQuery.Proofs.Spelling
import RecordQuery.Token.Lexer

/-!
# Which texts have which tokens

A text has given tokens exactly if it is their spellings, each behind any number of blanks, and none
of them goes on into what follows it. Positions are those of the first characters of the spellings.
-/
namespace RecordQuery

open Lexeme (Spelled Ends spelling)

/-- A token without its place: its kind and its contents. -/
abbrev Piece := TokenKind × List Char

namespace Token

def piece (token : Token) : Piece := (token.kind, token.text.toList)

def lexeme (token : Token) : List Char := spelling token.kind token.text.toList

def stop (token : Token) : Nat := token.position + token.lexeme.length

theorem eq_of_piece {token : Token} {kind : TokenKind} {contents : List Char}
    (h : token.piece = (kind, contents)) :
    token = ⟨kind, String.ofList contents, token.position⟩ := by
  rcases token with ⟨_, text, position⟩
  cases h
  rw [String.ofList_toList]

theorem lexeme_ne_nil {token : Token} (spelled : Spelled token.kind token.text.toList)
    (going : token.kind ≠ .endOfInput) : token.lexeme ≠ [] :=
  Lexeme.spelling_ne_nil_of_spelled spelled going

theorem eq_of_last {token : Token} (spelled : Spelled token.kind token.text.toList)
    (last : token.kind = .endOfInput) : token = ⟨.endOfInput, "", token.position⟩ := by
  rcases token with ⟨kind, text, position⟩
  obtain rfl : kind = .endOfInput := last
  obtain rfl : text = "" := String.toList_injective spelled
  rfl

end Token

def Blank (gap : List Char) : Prop := ∀ c ∈ gap, Unicode.isWhiteSpace c = true

/-- A text is the spellings of the pieces, with blanks before each, up to the end of the input. -/
inductive Spaced : List Piece → List Char → Prop
  | last {gap : List Char} (blank : Blank gap) : Spaced [(.endOfInput, [])] gap
  | more {gap contents after : List Char} {kind : TokenKind} {pieces : List Piece}
      (blank : Blank gap) (kind_ne : kind ≠ .endOfInput) (spelled : Spelled kind contents)
      (ends : Ends kind after) (spaced : Spaced pieces after) :
      Spaced ((kind, contents) :: pieces) (gap ++ (spelling kind contents ++ after))

theorem Spaced.blank_of_endOfInput {contents text : List Char} {pieces : List Piece}
    (spaced : Spaced ((.endOfInput, contents) :: pieces) text) : Blank text := by
  generalize same : (TokenKind.endOfInput, contents) :: pieces = all at spaced
  cases spaced with
  | last blank => exact blank
  | more blank kind_ne =>
    injection same with first
    injection first with kind
    exact absurd kind.symm kind_ne

theorem Spaced.exists_of_ne {kind : TokenKind} {contents text : List Char} {pieces : List Piece}
    (spaced : Spaced ((kind, contents) :: pieces) text) (kind_ne : kind ≠ .endOfInput) :
    ∃ gap after, text = gap ++ (spelling kind contents ++ after) ∧ Blank gap
      ∧ Spelled kind contents ∧ Spaced pieces after := by
  generalize same : (kind, contents) :: pieces = all at spaced
  cases spaced with
  | last blank =>
    injection same with first
    injection first with kind
    exact absurd kind kind_ne
  | @more gap _ after _ _ blank _ spelled _ spaced =>
    cases same
    exact ⟨gap, after, rfl, blank, spelled, spaced⟩

namespace Lexeme

theorem not_isWhiteSpace_of_isNameStart {c : Char} (h : isNameStart c = true) :
    Unicode.isWhiteSpace c = false := by
  rw [← Bool.not_eq_true]
  intro blank
  rw [(classes_of_isWhiteSpace blank).1] at h
  cases h

theorem not_isWhiteSpace_of_isNumberStart {c : Char} (h : isNumberStart c = true) :
    Unicode.isWhiteSpace c = false := by
  rw [← Bool.not_eq_true]
  intro blank
  rw [(classes_of_isWhiteSpace blank).2.2.1] at h
  cases h

theorem not_isWhiteSpace_of_spelled {kind : TokenKind} {contents after : List Char}
    (spelled : Spelled kind contents) (ends : Ends kind after) :
    ∀ c, (spelling kind contents ++ after).head? = some c → Unicode.isWhiteSpace c = false := by
  intro c head
  cases front : spelling kind contents with
  | nil =>
    by_cases last : kind = .endOfInput
    · subst last
      rw [front, show after = [] from ends] at head
      cases head
    · exact absurd front (spelling_ne_nil_of_spelled spelled last)
  | cons d rest =>
    rw [front] at head
    obtain rfl : d = c := by simpa using head
    have first : (spelling kind contents).head? = some d := by rw [front, List.head?_cons]
    rcases starts_of_spelled spelled first with mark | name | number
    · exact (classes_of_isMark mark).2.2.2.2
    · exact not_isWhiteSpace_of_isNameStart name
    · exact not_isWhiteSpace_of_isNumberStart number

end Lexeme

namespace Lexer

def following : Except QueryError Token → Lexer → List (Except QueryError Token)
  | .ok token, after => if token.kind = .endOfInput then [] else after.items
  | .error _, _ => []

theorem following_of_last {token : Token} (last : token.kind = .endOfInput) (after : Lexer) :
    following (.ok token) after = [] := if_pos last

theorem following_of_ne {token : Token} (going : token.kind ≠ .endOfInput) (after : Lexer) :
    following (.ok token) after = after.items := if_neg going

/-- The first item is the next token, and no item comes after the end of the input or a refusal. -/
theorem items_of_next {lexer after : Lexer} {item : Except QueryError Token}
    (h : lexer.next = (item, after)) : lexer.items = item :: following item after := by
  rw [items]
  split
  · rename_i found
    rw [h] at found
    cases found
    split
    · rename_i last
      rw [following_of_last last]
    · rename_i going
      rw [following_of_ne going]
  · rename_i found
    rw [h] at found
    cases found
    rfl

theorem items_ne_nil (lexer : Lexer) : lexer.items ≠ [] := by
  rcases found : lexer.next with ⟨item, after⟩
  rw [items_of_next found]
  exact List.cons_ne_nil _ _

theorem exists_next_of_items {lexer : Lexer} {item : Except QueryError Token}
    {items : List (Except QueryError Token)} (read : lexer.items = item :: items) :
    ∃ after, lexer.next = (item, after) ∧ following item after = items := by
  rcases found : lexer.next with ⟨first, after⟩
  rw [items_of_next found] at read
  injection read with same rest
  subst same
  exact ⟨after, rfl, rest⟩

/-- A lexer passes over the blanks before a token and takes the token's spelling. -/
theorem next_of_spelled {gap contents after : List Char} {kind : TokenKind} (blank : Blank gap)
    (spelled : Spelled kind contents) (ends : Ends kind after) (offset : Nat) :
    next ⟨gap ++ (spelling kind contents ++ after), offset⟩ =
      (.ok ⟨kind, String.ofList contents, offset + gap.length⟩,
        ⟨after, offset + gap.length + (spelling kind contents).length⟩) := by
  have first := Lexeme.first_eq_token_iff.2 ⟨after, rfl, spelled, ends⟩
  have passed := (Numeral.takeWhile_append_of_head blank
    (Lexeme.not_isWhiteSpace_of_spelled spelled ends)).1
  simp only [next, skipBlanks, passed, advance, List.drop_left, first]

theorem split_blanks (lexer : Lexer) :
    lexer.rest.takeWhile Unicode.isWhiteSpace ++ lexer.skipBlanks.rest = lexer.rest :=
  List.prefix_iff_eq_append.1 (List.takeWhile_prefix _)

/-- What a lexer takes is a spelling of the token that it gives, behind blanks. -/
theorem exists_spelled_of_next {lexer after : Lexer} {token : Token}
    (h : lexer.next = (.ok token, after)) :
    ∃ gap, lexer.rest = gap ++ (token.lexeme ++ after.rest) ∧ Blank gap
      ∧ Spelled token.kind token.text.toList ∧ Ends token.kind after.rest
      ∧ token.position = lexer.offset + gap.length ∧ after.offset = token.stop := by
  rw [next] at h
  split at h
  · rename_i kind contents found
    cases h
    rcases Lexeme.first_eq_token_iff.1 found with ⟨after, rest, spelled, ends⟩
    have behind : lexer.skipBlanks.rest.drop (spelling kind contents).length = after := by
      rw [rest, List.drop_left]
    refine ⟨lexer.rest.takeWhile Unicode.isWhiteSpace, ?_, Lexeme.of_mem_takeWhile, ?_, ?_, rfl, ?_⟩
    · change lexer.rest = _ ++ (spelling kind (String.ofList contents).toList ++ List.drop _ _)
      rw [behind, String.toList_ofList, ← rest]
      exact (split_blanks lexer).symm
    · rw [String.toList_ofList]
      exact spelled
    · rw [← behind] at ends
      exact ends
    · rw [Token.stop, Token.lexeme, String.toList_ofList]
      rfl
  · cases h
  · cases h

/-- A lexer refuses a quote without its partner, or a character behind blanks that is no blank and
starts no token. -/
theorem exists_refused_of_next {lexer after : Lexer} {error : QueryError}
    (h : lexer.next = (.error error, after)) :
    ∃ gap c behind, lexer.rest = gap ++ c :: behind ∧ Blank gap
      ∧ (c = '\'' ∧ '\'' ∉ behind
          ∧ error = .malformed .unterminatedString (lexer.offset + gap.length)
        ∨ Unicode.isWhiteSpace c = false
          ∧ (∀ kind contents, Spelled kind contents → (spelling kind contents).head? ≠ some c)
          ∧ error = .malformed (.unexpectedCharacter c) (lexer.offset + gap.length)) := by
  have passed : lexer.skipBlanks.rest = lexer.rest.dropWhile Unicode.isWhiteSpace :=
    List.append_cancel_left (lexer.split_blanks.trans List.takeWhile_append_dropWhile.symm)
  rw [next] at h
  split at h
  · cases h
  · rename_i found
    cases h
    rcases Lexeme.exists_quote_of_first found with ⟨behind, rest, alone⟩
    refine ⟨_, '\'', behind, ?_, Lexeme.of_mem_takeWhile, .inl ⟨rfl, alone, rfl⟩⟩
    rw [← rest, split_blanks]
  · rename_i c found
    cases h
    rcases Lexeme.exists_cons_of_first found with ⟨behind, rest, starts_none⟩
    refine ⟨_, c, behind, ?_, Lexeme.of_mem_takeWhile, .inr ⟨?_, starts_none, rfl⟩⟩
    · rw [← rest, split_blanks]
    · rw [rest] at passed
      apply Lexeme.not_head?_dropWhile (p := Unicode.isWhiteSpace)
      rw [← passed, List.head?_cons]

theorem exists_items_of_spaced {pieces : List Piece} {text : List Char}
    (spaced : Spaced pieces text) (offset : Nat) :
    ∃ tokens : List Token,
      items ⟨text, offset⟩ = tokens.map .ok ∧ tokens.map Token.piece = pieces := by
  induction spaced generalizing offset with
  | @last gap blank =>
    have spelled : Spelled .endOfInput [] := rfl
    have ends : Ends .endOfInput [] := rfl
    have taken := next_of_spelled blank spelled ends offset
    have same : gap ++ (spelling .endOfInput [] ++ []) = gap := List.append_nil gap
    rw [same] at taken
    refine ⟨[⟨.endOfInput, "", offset + gap.length⟩], items_of_next taken, rfl⟩
  | @more gap contents after kind pieces blank kind_ne spelled ends _ ih =>
    have taken := next_of_spelled blank spelled ends offset
    rcases ih (offset + gap.length + (spelling kind contents).length) with ⟨tokens, rest, same⟩
    refine ⟨⟨kind, String.ofList contents, offset + gap.length⟩ :: tokens, ?_, ?_⟩
    · rw [items_of_next taken, following_of_ne kind_ne, rest, List.map_cons]
    · rw [List.map_cons, same, Token.piece, String.toList_ofList]

theorem spaced_of_items {tokens : List Token} {lexer : Lexer}
    (h : lexer.items = tokens.map .ok) : Spaced (tokens.map Token.piece) lexer.rest := by
  induction tokens generalizing lexer with
  | nil => exact absurd h lexer.items_ne_nil
  | cons token tokens ih =>
    rcases exists_next_of_items h with ⟨after, found, rest⟩
    rcases exists_spelled_of_next found with ⟨gap, split, blank, spelled, ends, -⟩
    rw [List.map_cons, split]
    by_cases last : token.kind = .endOfInput
    · rw [following_of_last last] at rest
      obtain rfl : tokens = [] := List.map_eq_nil_iff.1 rest.symm
      rw [last] at ends
      rw [show after.rest = [] from ends, Token.eq_of_last spelled last]
      exact (List.append_nil gap).symm ▸ .last blank
    · rw [following_of_ne last] at rest
      exact .more blank last spelled ends (ih rest)

theorem exists_next_of_mem_items {items : List (Except QueryError Token)} {lexer : Lexer}
    (read : lexer.items = items) {item : Except QueryError Token} (mem : item ∈ items) :
    ∃ before after : Lexer, before.next = (item, after) := by
  induction items generalizing lexer with
  | nil => cases mem
  | cons first items ih =>
    rcases exists_next_of_items read with ⟨after, found, rest⟩
    rcases List.mem_cons.1 mem with rfl | later
    · exact ⟨lexer, after, found⟩
    · cases first with
      | error error =>
        subst rest
        cases later
      | ok token =>
        by_cases last : token.kind = .endOfInput
        · rw [following_of_last last] at rest
          subst rest
          cases later
        · rw [following_of_ne last] at rest
          exact ih rest later

theorem spelled_of_mem_items {lexer : Lexer} {token : Token} (mem : .ok token ∈ lexer.items) :
    Spelled token.kind token.text.toList := by
  rcases exists_next_of_mem_items rfl mem with ⟨before, after, found⟩
  rcases exists_spelled_of_next found with ⟨gap, -, -, spelled, -⟩
  exact spelled

theorem ne_unexpectedToken_of_mem_items {lexer : Lexer} {error : QueryError}
    (mem : .error error ∈ lexer.items) (expected : Expectation) (found : Found) (position : Nat) :
    error ≠ .malformed (.unexpectedToken expected found) position := by
  rcases exists_next_of_mem_items rfl mem with ⟨before, after, taken⟩
  rw [next] at taken
  split at taken
  · cases taken
  · cases taken
    intro same
    cases same
  · cases taken
    intro same
    cases same

end Lexer

/-- A text is read as tokens with the given pieces exactly if it is written as these pieces. -/
theorem tokenize_eq_iff_spaced {text : String} {pieces : List Piece} :
    (∃ tokens : List Token,
      tokenize text = tokens.map .ok ∧ tokens.map Token.piece = pieces) ↔
      Spaced pieces text.toList := by
  constructor
  · rintro ⟨tokens, read, rfl⟩
    exact Lexer.spaced_of_items read
  · intro spaced
    exact Lexer.exists_items_of_spaced spaced 0

theorem Spaced.unique {pieces others : List Piece} {text : List Char} (spaced : Spaced pieces text)
    (spaced' : Spaced others text) : pieces = others := by
  rcases Lexer.exists_items_of_spaced spaced 0 with ⟨tokens, read, rfl⟩
  rcases Lexer.exists_items_of_spaced spaced' 0 with ⟨tokens', read', rfl⟩
  rw [read] at read'
  rw [(List.map_inj_right fun _ _ same => Except.ok.inj same).1 read']

end RecordQuery
