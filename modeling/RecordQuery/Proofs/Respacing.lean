import Mathlib.Data.List.Chain
import RecordQuery.Proofs.LookAhead

/-!
# Other blanks between the tokens

The blanks of a text can be exchanged: where some kept two tokens apart, some have to stay, and
everywhere else there may be any number of them. The text then has the same tokens in other places,
and it is read as the same term or refused for the same token.
-/
namespace RecordQuery

open Lexeme (Spelled Ends)

abbrev Gapped := List Char × Token

def KeepsApart (before behind : Gapped) : Prop :=
  before.2.stop < behind.2.position → behind.2.kind ≠ .endOfInput → behind.1 ≠ []

instance : DecidableRel KeepsApart := fun before behind =>
  inferInstanceAs (Decidable (before.2.stop < behind.2.position →
    behind.2.kind ≠ .endOfInput → behind.1 ≠ []))

/-- New gaps for the tokens of a text. -/
structure Spacing (tokens : List Token) where
  gapped : List Gapped
  tokens_eq : gapped.map Prod.snd = tokens
  blank : ∀ front ∈ gapped, Blank front.1
  apart : gapped.IsChain KeepsApart

def spread (gapped : List Gapped) : List Char :=
  gapped.flatMap fun front => front.1 ++ front.2.lexeme

def Spacing.text {tokens : List Token} (spacing : Spacing tokens) : String :=
  String.ofList (spread spacing.gapped)

theorem spread_cons (front : Gapped) (gapped : List Gapped) :
    spread (front :: gapped) = front.1 ++ (front.2.lexeme ++ spread gapped) := by
  rw [spread, List.flatMap_cons, List.append_assoc]
  rfl

theorem ends_of_exchange {token next : Token} {gap gap' rest rest' : List Char}
    (going : token.kind ≠ .endOfInput) (ends : Ends token.kind (gap ++ (next.lexeme ++ rest)))
    (spelled : Spelled next.kind next.text.toList) (blank : Blank gap')
    (keeps : gap ≠ [] → next.kind ≠ .endOfInput → gap' ≠ [])
    (last : next.kind = .endOfInput → rest' = []) :
    Ends token.kind (gap' ++ (next.lexeme ++ rest')) := by
  cases gap' with
  | cons c gap' => exact Lexeme.ends_cons_of_isWhiteSpace going (blank c (by simp)) _
  | nil =>
    rw [List.nil_append]
    by_cases is_last : next.kind = .endOfInput
    · rw [last is_last, Token.eq_of_last spelled is_last]
      exact Lexeme.ends_nil token.kind
    · have gap_eq : gap = [] := by
        by_contra gap_ne
        exact keeps gap_ne is_last rfl
      have nonempty := Token.lexeme_ne_nil spelled is_last
      rw [gap_eq, List.nil_append] at ends
      apply Lexeme.ends_of_head?_eq going _ ends
      rw [List.head?_append_of_ne_nil _ nonempty, List.head?_append_of_ne_nil _ nonempty]

namespace Lexer

/-- With other blanks in front of them, the tokens of a text are still its tokens. -/
theorem spaced_spread {gapped : List Gapped} {lexer : Lexer}
    (read : lexer.items = gapped.map fun front => .ok front.2)
    (blank : ∀ front ∈ gapped, Blank front.1) (apart : gapped.IsChain KeepsApart) :
    Spaced (gapped.map fun front => front.2.piece) (spread gapped) := by
  induction gapped generalizing lexer with
  | nil => exact absurd read lexer.items_ne_nil
  | cons front gapped ih =>
    rcases exists_next_of_items read with ⟨after, found, behind⟩
    rcases exists_spelled_of_next found with ⟨-, -, -, spelled, ends, -, offset⟩
    rw [List.map_cons, spread_cons]
    by_cases last : front.2.kind = .endOfInput
    · rw [following_of_last last] at behind
      obtain rfl : gapped = [] := List.map_eq_nil_iff.1 behind.symm
      rw [Token.eq_of_last spelled last]
      change Spaced _ (front.1 ++ ([] ++ []))
      rw [List.append_nil, List.append_nil]
      exact .last (blank front (by simp))
    · rw [following_of_ne last] at behind
      have blank_behind : ∀ other ∈ gapped, Blank other.1 := fun other mem =>
        blank other (List.mem_cons_of_mem _ mem)
      refine .more (blank front (by simp)) last spelled ?_ (ih behind blank_behind apart.tail)
      cases gapped with
      | nil => exact Lexeme.ends_nil _
      | cons next gapped =>
        rcases exists_next_of_items behind with ⟨beyond, found', nothing⟩
        rcases exists_spelled_of_next found' with ⟨gap, rest, -, spelled', -, position, -⟩
        rw [rest] at ends
        rw [spread_cons]
        apply ends_of_exchange last ends spelled' (blank_behind next (by simp))
        · intro gap_ne is_going
          apply (List.isChain_cons_cons.1 apart).1 _ is_going
          have := List.length_pos_iff.2 gap_ne
          omega
        · intro is_last
          rw [following_of_last is_last] at nothing
          rw [List.map_eq_nil_iff.1 nothing.symm]
          rfl

theorem exists_gapped {tokens : List Token} {lexer : Lexer}
    (read : lexer.items = tokens.map .ok) :
    ∃ gapped : List Gapped, gapped.map Prod.snd = tokens ∧ (∀ front ∈ gapped, Blank front.1)
      ∧ gapped.IsChain KeepsApart ∧ spread gapped = lexer.rest
      ∧ ∀ front ∈ gapped.head?, front.2.position = lexer.offset + front.1.length := by
  induction tokens generalizing lexer with
  | nil => exact absurd read lexer.items_ne_nil
  | cons token tokens ih =>
    rcases exists_next_of_items read with ⟨after, found, behind⟩
    rcases exists_spelled_of_next found with ⟨gap, rest, blank, spelled, ends, position, offset⟩
    by_cases last : token.kind = .endOfInput
    · rw [following_of_last last] at behind
      obtain rfl : tokens = [] := List.map_eq_nil_iff.1 behind.symm
      have nothing : after.rest = [] := by
        rw [last] at ends
        exact ends
      refine ⟨[(gap, token)], rfl, by simpa using blank, .singleton _, ?_, by simpa using position⟩
      rw [spread_cons, rest, nothing]
      rfl
    · rw [following_of_ne last] at behind
      rcases ih behind with ⟨gapped, tokens_eq, blanks, apart, spread_eq, head⟩
      refine ⟨(gap, token) :: gapped, ?_, ?_, ?_, ?_, by simpa using position⟩
      · rw [List.map_cons, tokens_eq]
      · exact List.forall_mem_cons.2 ⟨blank, blanks⟩
      · rw [List.isChain_cons]
        refine ⟨?_, apart⟩
        intro next mem lt _ empty
        have next_position := head next mem
        rw [empty, offset, List.length_nil, Nat.add_zero] at next_position
        exact absurd lt (by rw [next_position]; exact Nat.lt_irrefl _)
      · rw [spread_cons, spread_eq, rest]

end Lexer

/-- The same result, with a refusal moved from a token to the one in its place. -/
inductive Moved {α : Type} (tokens others : List Token) :
    Except QueryError α → Except QueryError α → Prop
  | ok (a : α) : Moved tokens others (.ok a) (.ok a)
  | numberFormat : Moved tokens others (.error .numberFormat) (.error .numberFormat)
  | malformed {token other : Token} (fault : Fault) (mem : (token, other) ∈ tokens.zip others) :
      Moved tokens others (.error (.malformed fault token.position))
        (.error (.malformed fault other.position))

theorem Moved.cons {α : Type} {tokens others : List Token} {a b : Except QueryError α}
    (moved : Moved tokens others a b) (token other : Token) :
    Moved (token :: tokens) (other :: others) a b := by
  cases moved with
  | ok a => exact .ok a
  | numberFormat => exact .numberFormat
  | malformed fault mem => exact .malformed fault (List.mem_cons_of_mem _ mem)

namespace Place

theorem moved_refusal (expected : Expectation) (kind : TokenKind) (text : String) (p q : Nat) :
    Moved (α := Place) [⟨kind, text, p⟩] [⟨kind, text, q⟩]
      (.error (.unexpected expected ⟨kind, text, p⟩))
      (.error (.unexpected expected ⟨kind, text, q⟩)) :=
  .malformed (.unexpectedToken expected (Token.found ⟨kind, text, p⟩)) (List.mem_singleton_self _)

theorem moved_step (place : Place) (kind : TokenKind) (text : String) (p q : Nat) :
    Moved [⟨kind, text, p⟩] [⟨kind, text, q⟩] (place.step ⟨kind, text, p⟩)
      (place.step ⟨kind, text, q⟩) := by
  cases place with
  | start =>
    cases kind with
    | exclamation | identifier => exact .ok _
    | _ => exact moved_refusal ..
  | marked =>
    cases kind with
    | identifier => exact .ok _
    | _ => exact moved_refusal ..
  | named field =>
    cases kind with
    | comparison op => exact .ok _
    | endOfInput => exact .ok _
    | _ => exact moved_refusal ..
  | compared field op =>
    cases kind with
    | string => exact .ok _
    | number =>
      simp only [step, TokenKind.isLiteral, if_true, Token.literal]
      cases Literal.ofNumber? text with
      | none => exact .numberFormat
      | some value => exact .ok _
    | null =>
      simp only [step, TokenKind.isLiteral, if_true, Token.literal]
      cases Literal.ofNull? text with
      | none => exact moved_refusal ..
      | some value => exact .ok _
    | boolean =>
      simp only [step, TokenKind.isLiteral, if_true, Token.literal]
      cases Literal.ofBool? text with
      | none => exact moved_refusal ..
      | some value => exact .ok _
    | _ => exact moved_refusal ..
  | closed expr =>
    cases kind with
    | endOfInput => exact .ok _
    | _ => exact moved_refusal ..
  | done expr => exact moved_refusal ..

/-- Tokens with the same kinds and texts lead to the same place, or to refusals of tokens in the
same place among them. -/
theorem moved_run {tokens others : List Token} (place : Place)
    (same : others.map Token.piece = tokens.map Token.piece) :
    Moved tokens others (place.run (tokens.map .ok)) (place.run (others.map .ok)) := by
  induction tokens generalizing place others with
  | nil =>
    obtain rfl : others = [] := List.map_eq_nil_iff.1 same
    exact .ok place
  | cons token tokens ih =>
    rcases List.map_eq_cons_iff.1 same with ⟨other, others, rfl, piece, rest⟩
    rcases token with ⟨kind, text, p⟩
    rcases other with ⟨kind', text', q⟩
    obtain ⟨rfl, chars⟩ := Prod.mk.inj piece
    obtain rfl : text' = text := String.toList_injective chars
    have moved := moved_step place kind' text' p q
    generalize step : place.step ⟨kind', text', p⟩ = result at moved
    generalize step' : place.step ⟨kind', text', q⟩ = result' at moved
    rw [List.map_cons, List.map_cons]
    cases moved with
    | ok next =>
      rw [run_cons_of_step step, run_cons_of_step step']
      exact (ih next rest).cons _ _
    | numberFormat =>
      rw [run_cons_of_refusal step, run_cons_of_refusal step']
      exact .numberFormat
    | malformed fault mem =>
      rw [run_cons_of_refusal step, run_cons_of_refusal step']
      exact .malformed fault (List.mem_cons.2 (.inl (List.mem_singleton.1 mem)))

end Place

theorem Moved.of_map {α β : Type} {f : α → β} (injective : Function.Injective f)
    {tokens others : List Token} {a b : Except QueryError α}
    (moved : Moved tokens others (a.map f) (b.map f)) : Moved tokens others a b := by
  cases a with
  | error error =>
    cases b with
    | error error' =>
      have moved : Moved (α := β) tokens others (.error error) (.error error') := moved
      cases moved with
      | numberFormat => exact .numberFormat
      | malformed fault mem => exact .malformed fault mem
    | ok b =>
      have moved : Moved tokens others (.error error) (.ok (f b)) := moved
      cases moved
  | ok a =>
    cases b with
    | error error' =>
      have moved : Moved tokens others (.ok (f a)) (.error error') := moved
      cases moved
    | ok b =>
      have moved : Moved tokens others (.ok (f a)) (.ok (f b)) := moved
      generalize image : f b = value at moved
      cases moved
      obtain rfl : b = a := injective image
      exact .ok b

/-- A text with other gaps has the same tokens in other places, and it is read as the same term or
refused for the same token or number. -/
theorem Spacing.moved_parse {text : String} {tokens : List Token}
    (read : tokenize text = tokens.map .ok) :
    (∃ spacing : Spacing tokens, spacing.text = text)
      ∧ ∀ spacing : Spacing tokens, ∃ others : List Token,
          tokenize spacing.text = others.map .ok
            ∧ others.map Token.piece = tokens.map Token.piece
            ∧ Moved tokens others (Expr.parse text) (Expr.parse spacing.text) := by
  constructor
  · rcases Lexer.exists_gapped read with ⟨gapped, tokens_eq, blank, apart, spread_eq, -⟩
    refine ⟨⟨gapped, tokens_eq, blank, apart⟩, ?_⟩
    rw [Spacing.text, spread_eq]
    exact String.ofList_toList
  · intro spacing
    rcases spacing with ⟨gapped, rfl, blank, apart⟩
    have gapped_read : tokenize text = gapped.map fun front => .ok front.2 := by
      rw [read, List.map_map]
      rfl
    have spaced := Lexer.spaced_spread gapped_read blank apart
    rw [← String.toList_ofList (l := spread gapped)] at spaced
    rcases tokenize_eq_iff_spaced.2 spaced with ⟨others, reread, pieces⟩
    have same : others.map Token.piece = (gapped.map Prod.snd).map Token.piece := by
      rw [pieces, List.map_map]
      rfl
    refine ⟨others, reread, same, ?_⟩
    apply Moved.of_map (f := Place.done) fun _ _ eq => Place.done.inj eq
    rw [Expr.map_done_parse, Expr.map_done_parse, read, Spacing.text, reread]
    exact Place.moved_run .start same

/-- The sign stays with its digit, the operator may be set apart, and the name that is too much is
refused where it stands now. -/
theorem Spacing.moved_parse_of_sign :
    ∃ (tokens : List Token) (spacing : Spacing tokens),
      tokenize "a<-1 b" = tokens.map .ok ∧ spacing.text = " a < -1\t b"
        ∧ ∃ others : List Token, tokenize spacing.text = others.map .ok
          ∧ others.map Token.piece = tokens.map Token.piece
          ∧ Moved tokens others (Expr.parse "a<-1 b") (Expr.parse spacing.text) := by
  let gapped : List Gapped := [([' '], ⟨.identifier, "a", 0⟩),
    ([' '], ⟨.comparison .less, "<", 1⟩), ([' '], ⟨.number, "-1", 2⟩),
    (['\t', ' '], ⟨.identifier, "b", 5⟩), ([], ⟨.endOfInput, "", 6⟩)]
  have all_blank : (gapped.all fun front => front.1.all Unicode.isWhiteSpace) = true := by
    decide +kernel
  have blank : ∀ front ∈ gapped, Blank front.1 := fun front mem =>
    List.all_eq_true.1 (List.all_eq_true.1 all_blank front mem)
  have apart : gapped.IsChain KeepsApart := by decide +kernel
  have read : tokenize "a<-1 b" = (gapped.map Prod.snd).map .ok := by decide +kernel
  exact ⟨_, ⟨gapped, rfl, blank, apart⟩, read, rfl, (moved_parse read).2 _⟩

end RecordQuery
