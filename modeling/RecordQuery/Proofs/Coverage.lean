import RecordQuery.Proofs.Tokenization

/-!
# What tokens cover

The tokens of a text stand in it one behind the other, each as long as a token of its kind can be,
and there are only blanks between them, up to the end of the text or to the place where a character
is refused. So the tokens tell the text up to that place, but for which blanks stand in the gaps.
-/
namespace RecordQuery

open Lexeme (Spelled Ends spelling)

namespace Token

/-- A token stands in a text: it is spelled at its position as its kind allows, and what comes
behind it does not go on with it. -/
structure StandsIn (token : Token) (text : List Char) : Prop where
  slice : token.lexeme <+: text.drop token.position
  spelled : Spelled token.kind token.text.toList
  ends : Ends token.kind (text.drop token.stop)

theorem position_lt_stop {token : Token} {text : List Char} (stands : token.StandsIn text)
    (going : token.kind ≠ .endOfInput) : token.position < token.stop := by
  have pos := List.length_pos_iff.2 (lexeme_ne_nil stands.spelled going)
  rw [stop]
  omega

theorem StandsIn.getElem?_eq {token : Token} {text : List Char} (stands : token.StandsIn text)
    {i : Nat} (low : token.position ≤ i) (high : i < token.stop) :
    text[i]? = token.lexeme[i - token.position]? := by
  rw [stop] at high
  have within : i - token.position < token.lexeme.length := by omega
  have same := List.prefix_iff_getElem?.1 stands.slice (i - token.position) within
  rw [List.getElem?_drop, Nat.add_sub_cancel' low] at same
  rw [same, List.getElem?_eq_getElem within]

end Token

def BlankAt (text : List Char) (i : Nat) : Prop :=
  ∃ c, text[i]? = some c ∧ Unicode.isWhiteSpace c = true

/-- Tokens take all of a text from `start` to `stop` but blanks. -/
structure Covers (text : List Char) (start : Nat) (tokens : List Token) (stop : Nat) : Prop where
  start_le : start ≤ stop
  going : ∀ token ∈ tokens, token.kind ≠ .endOfInput
  stands : ∀ token ∈ tokens, token.StandsIn text
  within : ∀ token ∈ tokens, start ≤ token.position ∧ token.stop ≤ stop
  apart : tokens.Pairwise fun before behind => before.stop ≤ behind.position
  gaps : ∀ i, start ≤ i → i < stop →
    BlankAt text i ∨ ∃ token ∈ tokens, token.position ≤ i ∧ i < token.stop

/-- The item behind the last token: the end of the text, or what is refused at the position. -/
inductive Closes (text : List Char) (stop : Nat) : Except QueryError Token → Prop
  | endOfInput (whole : stop = text.length) : Closes text stop (.ok ⟨.endOfInput, "", stop⟩)
  | unterminated (quote : text[stop]? = some '\'') (alone : '\'' ∉ text.drop (stop + 1)) :
      Closes text stop (.error (.malformed .unterminatedString stop))
  | unexpected {c : Char} (here : text[stop]? = some c) (solid : Unicode.isWhiteSpace c = false)
      (starts_none : ∀ kind contents, Spelled kind contents →
        (spelling kind contents).head? ≠ some c) :
      Closes text stop (.error (.malformed (.unexpectedCharacter c) stop))

namespace Covers

variable {text : List Char} {start stop : Nat} {tokens : List Token}

theorem nil (le : start ≤ stop) (blank : ∀ i, start ≤ i → i < stop → BlankAt text i) :
    Covers text start [] stop where
  start_le := le
  going := by simp
  stands := by simp
  within := by simp
  apart := .nil
  gaps i low high := .inl (blank i low high)

theorem cons {token : Token} (le : start ≤ token.position)
    (blank : ∀ i, start ≤ i → i < token.position → BlankAt text i)
    (going : token.kind ≠ .endOfInput) (stands : token.StandsIn text)
    (covers : Covers text token.stop tokens stop) : Covers text start (token :: tokens) stop where
  start_le := by
    have := Token.position_lt_stop stands going
    have := covers.start_le
    omega
  going := List.forall_mem_cons.2 ⟨going, covers.going⟩
  stands := List.forall_mem_cons.2 ⟨stands, covers.stands⟩
  within := by
    have lt := Token.position_lt_stop stands going
    rw [List.forall_mem_cons]
    refine ⟨⟨le, covers.start_le⟩, ?_⟩
    intro other mem
    have bounds := covers.within other mem
    omega
  apart := List.pairwise_cons.2 ⟨fun other mem => (covers.within other mem).1, covers.apart⟩
  gaps i low high := by
    by_cases before : i < token.position
    · exact .inl (blank i low before)
    · by_cases inside : i < token.stop
      · exact .inr ⟨token, by simp, by omega, inside⟩
      · rcases covers.gaps i (by omega) high with gap | ⟨other, mem, bounds⟩
        · exact .inl gap
        · exact .inr ⟨other, List.mem_cons_of_mem _ mem, bounds⟩

theorem increasing (covers : Covers text start tokens stop) :
    (tokens.map Token.position ++ [stop]).Pairwise (· < ·) := by
  have lt {token : Token} (mem : token ∈ tokens) : token.position < token.stop :=
    Token.position_lt_stop (covers.stands token mem) (covers.going token mem)
  rw [List.pairwise_append, List.pairwise_map]
  refine ⟨?_, List.pairwise_singleton _ _, ?_⟩
  · apply covers.apart.imp_of_mem
    intro before behind mem _ le
    exact Nat.lt_of_lt_of_le (lt mem) le
  · intro position mem last is_last
    obtain rfl := List.mem_singleton.1 is_last
    rcases List.mem_map.1 mem with ⟨token, here, rfl⟩
    exact Nat.lt_of_lt_of_le (lt here) (covers.within token here).2

/-- Two texts with the same tokens differ at most in which blanks stand in their gaps. -/
theorem alike {other : List Char} (covers : Covers text start tokens stop)
    (covers' : Covers other start tokens stop) {i : Nat} (low : start ≤ i) (high : i < stop) :
    text[i]? = other[i]? ∨ BlankAt text i ∧ BlankAt other i := by
  have inside {token : Token} (mem : token ∈ tokens)
      (bounds : token.position ≤ i ∧ i < token.stop) : text[i]? = other[i]? := by
    rw [(covers.stands token mem).getElem?_eq bounds.1 bounds.2,
      (covers'.stands token mem).getElem?_eq bounds.1 bounds.2]
  rcases covers.gaps i low high with gap | ⟨token, mem, bounds⟩
  · rcases covers'.gaps i low high with gap' | ⟨token, mem, bounds⟩
    · exact .inr ⟨gap, gap'⟩
    · exact .inl (inside mem bounds)
  · exact .inl (inside mem bounds)

end Covers

theorem Closes.stop_eq {text other : List Char} {stop stop' : Nat}
    {last : Except QueryError Token} (closes : Closes text stop last)
    (closes' : Closes other stop' last) : stop = stop' := by
  cases closes <;> cases closes' <;> rfl

theorem blankAt_of_gap {text gap after : List Char} {start : Nat}
    (split : text.drop start = gap ++ after) (blank : Blank gap) {i : Nat} (low : start ≤ i)
    (high : i < start + gap.length) : BlankAt text i := by
  have within : i - start < gap.length := by omega
  have here : text[i]? = some gap[i - start] := by
    have dropped : (text.drop start)[i - start]? = text[i]? := by
      rw [List.getElem?_drop, Nat.add_sub_cancel' low]
    rw [← dropped, split, List.getElem?_append_left within, List.getElem?_eq_getElem within]
  exact ⟨_, here, blank _ (List.getElem_mem within)⟩

theorem drop_add_of_drop {text front rest : List Char} {start : Nat}
    (split : text.drop start = front ++ rest) : text.drop (start + front.length) = rest := by
  rw [← List.drop_drop, split, List.drop_left]

namespace Lexer

/-- The next token of a lexer stands behind blanks where the lexer stands in a text. -/
theorem exists_standsIn_of_next {text : List Char} {lexer after : Lexer} {token : Token}
    (here : text.drop lexer.offset = lexer.rest) (found : lexer.next = (.ok token, after)) :
    ∃ gap, text.drop lexer.offset = gap ++ (token.lexeme ++ after.rest) ∧ Blank gap
      ∧ token.position = lexer.offset + gap.length ∧ after.offset = token.stop
      ∧ text.drop after.offset = after.rest ∧ token.StandsIn text := by
  rcases exists_spelled_of_next found with ⟨gap, rest, blank, spelled, ends, position, stop⟩
  have split : text.drop lexer.offset = gap ++ (token.lexeme ++ after.rest) := here.trans rest
  have front : text.drop token.position = token.lexeme ++ after.rest := by
    rw [position, drop_add_of_drop split]
  have behind : text.drop token.stop = after.rest := drop_add_of_drop front
  refine ⟨gap, split, blank, position, stop, stop ▸ behind, ?_, spelled, behind.symm ▸ ends⟩
  rw [front]
  exact List.prefix_append _ _

theorem closes_of_last {text : List Char} {lexer after : Lexer} {token : Token}
    (here : text.drop lexer.offset = lexer.rest) (le : lexer.offset ≤ text.length)
    (found : lexer.next = (.ok token, after)) (last : token.kind = .endOfInput) :
    Covers text lexer.offset [] token.position ∧ Closes text token.position (.ok token) := by
  rcases exists_standsIn_of_next here found with ⟨gap, split, blank, position, stop, behind, stands⟩
  have nothing : token.lexeme ++ after.rest = [] := by
    have lexeme : token.lexeme = [] := by
      rw [Token.eq_of_last stands.spelled last]
      rfl
    have ends := stands.ends
    rw [last, ← stop, behind] at ends
    rw [lexeme, show after.rest = [] from ends, List.append_nil]
  have lengths := congrArg List.length split
  rw [nothing, List.append_nil, List.length_drop] at lengths
  have whole : token.position = text.length := by omega
  constructor
  · apply Covers.nil (by omega)
    intro i low high
    exact blankAt_of_gap split blank low (position ▸ high)
  · have closes := Closes.endOfInput whole
    rw [← Token.eq_of_last stands.spelled last] at closes
    exact closes

theorem closes_of_refused {text : List Char} {lexer after : Lexer} {error : QueryError}
    (here : text.drop lexer.offset = lexer.rest) (found : lexer.next = (.error error, after)) :
    ∃ stop, Covers text lexer.offset [] stop ∧ Closes text stop (.error error) := by
  rcases exists_refused_of_next found with ⟨gap, c, behind, rest, blank, refused⟩
  have split := here.trans rest
  have at_stop : text.drop (lexer.offset + gap.length) = c :: behind := drop_add_of_drop split
  have first : text[lexer.offset + gap.length]? = some c := by
    rw [← List.head?_drop, at_stop, List.head?_cons]
  refine ⟨lexer.offset + gap.length, ?_, ?_⟩
  · apply Covers.nil (Nat.le_add_right _ _)
    intro i low high
    exact blankAt_of_gap split blank low high
  · rcases refused with ⟨rfl, alone, rfl⟩ | ⟨solid, starts_none, rfl⟩
    · refine .unterminated first ?_
      rw [← List.drop_drop, at_stop]
      exact alone
    · exact .unexpected first solid starts_none

theorem exists_covers_items {text : List Char} {lexer : Lexer}
    (here : text.drop lexer.offset = lexer.rest) (le : lexer.offset ≤ text.length) :
    ∃ (tokens : List Token) (last : Except QueryError Token) (stop : Nat),
      lexer.items = tokens.map .ok ++ [last] ∧ Covers text lexer.offset tokens stop
        ∧ Closes text stop last := by
  induction lexer using Lexer.items.induct with
  | case1 lexer token after found last =>
    refine ⟨[], .ok token, token.position, ?_, closes_of_last here le found last⟩
    rw [items_of_next found, following_of_last last]
    rfl
  | case2 lexer token after found going ih =>
    rcases exists_standsIn_of_next here found with
      ⟨gap, split, blank, position, stop, behind, stands⟩
    have within : after.offset ≤ text.length := by
      have lengths := congrArg List.length split
      rw [List.length_drop, List.length_append, List.length_append] at lengths
      rw [stop, Token.stop]
      omega
    rcases ih behind within with ⟨tokens, last, stop', items, covers, closes⟩
    refine ⟨token :: tokens, last, stop', ?_, ?_, closes⟩
    · rw [items_of_next found, following_of_ne going, items]
      rfl
    · apply Covers.cons (by omega) _ going stands (stop ▸ covers)
      intro i low high
      exact blankAt_of_gap split blank low (position ▸ high)
  | case3 lexer error after found =>
    rcases closes_of_refused here found with ⟨stop, covers, closes⟩
    refine ⟨[], .error error, stop, ?_, covers, closes⟩
    rw [items_of_next found]
    rfl

end Lexer

theorem exists_covers_tokenize (text : String) :
    ∃ (tokens : List Token) (last : Except QueryError Token) (stop : Nat),
      tokenize text = tokens.map .ok ++ [last] ∧ Covers text.toList 0 tokens stop
        ∧ Closes text.toList stop last :=
  Lexer.exists_covers_items List.drop_zero (Nat.zero_le _)

/-- The tokens of a text cover it up to its end or to the character that is refused, at ever higher
positions. A text with the same items is closed in the same place, and up to there it is the same
but for the blanks. -/
theorem tokenize_covers (text : String) :
    ∃ (tokens : List Token) (last : Except QueryError Token) (stop : Nat),
      tokenize text = tokens.map .ok ++ [last]
        ∧ Covers text.toList 0 tokens stop
        ∧ Closes text.toList stop last
        ∧ (tokens.map Token.position ++ [stop]).Pairwise (· < ·)
        ∧ ∀ other : String, tokenize other = tokenize text →
            Closes other.toList stop last
              ∧ ∀ i < stop, text.toList[i]? = other.toList[i]?
                ∨ BlankAt text.toList i ∧ BlankAt other.toList i := by
  rcases exists_covers_tokenize text with ⟨tokens, last, stop, items, covers, closes⟩
  refine ⟨tokens, last, stop, items, covers, closes, covers.increasing, ?_⟩
  intro other same
  rcases exists_covers_tokenize other with ⟨tokens', last', stop', items', covers', closes'⟩
  rw [items, items'] at same
  rcases List.append_inj' same rfl with ⟨fronts, lasts⟩
  obtain rfl : tokens' = tokens := (List.map_inj_right fun _ _ eq => Except.ok.inj eq).1 fronts
  obtain rfl : last' = last := List.singleton_inj.1 lasts
  obtain rfl : stop = stop' := closes.stop_eq closes'
  exact ⟨closes', fun i high => covers.alike covers' (Nat.zero_le i) high⟩

end RecordQuery
