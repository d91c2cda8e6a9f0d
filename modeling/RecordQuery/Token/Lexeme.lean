import RecordQuery.Token.Basic
import RecordQuery.Unicode.Alphanumeric
import RecordQuery.Unicode.WhiteSpace

/-!
# Lexemes

The longest lexeme at the front of a text that does not start with a blank. A number lexeme is a
whole run of letters, digits, points and underscores: whether it is a number is decided later, so
that a malformed number is never split. The main lemma says that a lexeme is spelled by the
characters at the front of the text.
-/
namespace RecordQuery

/-- What stands at the front of a text: a token, a quote without its partner, or a character that
starts no token. -/
inductive Lexeme
  | token (kind : TokenKind) (contents : List Char)
  | unterminated
  | unexpected (c : Char)
deriving DecidableEq, Repr

namespace Lexeme

def isNameStart (c : Char) : Bool := Unicode.isAlphabetic c || c == '_'

def isNameChar (c : Char) : Bool := Unicode.isAlphanumeric c || c == '_'

def isNumberStart (c : Char) : Bool := c.isDigit || c == '-'

def isNumberChar (c : Char) : Bool := Unicode.isAlphanumeric c || c == '.' || c == '_'

/-- The kind of a word: three words are literals, all others are field names. -/
def wordKind (word : List Char) : TokenKind :=
  if word = ['n', 'u', 'l', 'l'] then .null
  else if word = ['t', 'r', 'u', 'e'] ∨ word = ['f', 'a', 'l', 's', 'e'] then .boolean
  else .identifier

/-- How a lexeme of the kind with these contents is spelled: only text stands between quotes. -/
def spelling (kind : TokenKind) (contents : List Char) : List Char :=
  match kind with
  | .string => '\'' :: (contents ++ ['\''])
  | _ => contents

/-- The operator that starts with `c`, when the character behind it is `next`: an equals sign joins
the mark before it. -/
def operator? (c : Char) (next : Option Char) : Option (TokenKind × List Char) :=
  let orJoined (alone joined : TokenKind) : TokenKind × List Char :=
    if next = some '=' then (joined, [c, '=']) else (alone, [c])
  match c with
  | '=' => some (.comparison .equal, [c])
  | '!' => some (orJoined .exclamation (.comparison .notEqual))
  | '<' => some (orJoined (.comparison .less) (.comparison .lessEqual))
  | '>' => some (orJoined (.comparison .greater) (.comparison .greaterEqual))
  | _ => none

/-- The lexeme at the front of a text that does not start with a blank. -/
def first : List Char → Lexeme
  | [] => .token .endOfInput []
  | c :: rest =>
    match operator? c rest.head? with
    | some (kind, chars) => .token kind chars
    | none =>
      if c = '\'' then
        if '\'' ∈ rest then .token .string (rest.takeWhile (· != '\'')) else .unterminated
      else if isNameStart c then
        let word := c :: rest.takeWhile isNameChar
        .token (wordKind word) word
      else if isNumberStart c then .token .number (c :: rest.takeWhile isNumberChar)
      else .unexpected c

theorem spelling_wordKind (word : List Char) : spelling (wordKind word) word = word := by
  unfold wordKind
  split
  · rfl
  · split <;> rfl

theorem takeWhile_quote_append {rest : List Char} (h : '\'' ∈ rest) :
    rest.takeWhile (· != '\'') ++ ['\''] <+: rest := by
  induction rest with
  | nil => simp at h
  | cons c rest ih =>
    by_cases hc : c = '\''
    · simp [hc]
    · have hr : '\'' ∈ rest := by simpa [Ne.symm hc] using h
      simpa [hc] using ih hr

theorem cons_takeWhile_prefix (c : Char) (p : Char → Bool) (rest : List Char) :
    c :: rest.takeWhile p <+: c :: rest := by
  simpa using List.takeWhile_prefix p

theorem operator?_eq_some {c : Char} {next : Option Char} {kind : TokenKind} {chars : List Char}
    (h : operator? c next = some (kind, chars)) :
    (kind = .exclamation ∨ ∃ op, kind = .comparison op)
      ∧ (chars = [c] ∨ next = some '=' ∧ chars = [c, '=']) := by
  unfold operator? at h
  by_cases joined : next = some '='
  · simp only [joined, if_true] at h
    split at h <;> simp_all
    all_goals
      obtain ⟨rfl, rfl⟩ := h
      simp
  · simp only [joined, if_false] at h
    split at h <;> simp_all
    all_goals
      obtain ⟨rfl, rfl⟩ := h
      simp

theorem operator_prefix {c : Char} {kind : TokenKind} {chars rest : List Char}
    (h : operator? c rest.head? = some (kind, chars)) : chars <+: c :: rest := by
  obtain rfl | ⟨joined, rfl⟩ := (operator?_eq_some h).2
  · simp
  · cases rest with
    | nil => simp at joined
    | cons d rest =>
      obtain rfl : d = '=' := by simpa using joined
      simp

theorem spelling_operator {c : Char} {next : Option Char} {kind : TokenKind} {chars : List Char}
    (h : operator? c next = some (kind, chars)) : spelling kind chars = chars := by
  obtain rfl | ⟨op, rfl⟩ := (operator?_eq_some h).1 <;> rfl

theorem spelling_prefix_of_first {text contents : List Char} {kind : TokenKind}
    (h : first text = .token kind contents) : spelling kind contents <+: text := by
  cases text with
  | nil =>
    cases h
    simp [spelling]
  | cons c rest =>
    simp only [first] at h
    split at h
    · rename_i found
      cases h
      rw [spelling_operator found]
      exact operator_prefix found
    · split at h
      · rename_i quote
        split at h
        · rename_i closed
          cases h
          subst quote
          simpa [spelling] using takeWhile_quote_append closed
        · cases h
      · split at h
        · cases h
          rw [spelling_wordKind]
          exact cons_takeWhile_prefix ..
        · split at h
          · cases h
            exact cons_takeWhile_prefix ..
          · cases h

theorem spelling_ne_nil_of_first {text contents : List Char} {kind : TokenKind}
    (h : first text = .token kind contents) (hk : kind ≠ .endOfInput) :
    spelling kind contents ≠ [] := by
  cases text with
  | nil =>
    cases h
    exact absurd rfl hk
  | cons c rest =>
    simp only [first] at h
    split at h
    · rename_i found
      cases h
      rw [spelling_operator found]
      obtain rfl | ⟨_, rfl⟩ := (operator?_eq_some found).2 <;> simp
    · split at h
      · split at h
        · cases h
          simp [spelling]
        · cases h
      · split at h
        · cases h
          rw [spelling_wordKind]
          simp
        · split at h
          · cases h
            simp [spelling]
          · cases h

end Lexeme
end RecordQuery
