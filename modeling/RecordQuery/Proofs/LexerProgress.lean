import RecordQuery.Proofs.Coverage
import RecordQuery.Proofs.RepeatedCalls

/-!
# How far a lexer gets

A lexer stands in its text: what remains is the text from its position on, and the position is never
past the end. A call passes blanks, and then takes one token, or everything if a quote is open, or
nothing if the character starts no token. So a call leaves the lexer as it is or with less text, and
a lexer that is called as often as the text has characters has settled: it gives the end of the
input for ever, or the same refusal. Reading item by item is another matter, for it stops at the
first refusal although the lexer could go on.
-/
namespace RecordQuery

def QueryError.IsLexical (error : QueryError) : Prop :=
  ∃ position, error = .malformed .unterminatedString position
    ∨ ∃ c, error = .malformed (.unexpectedCharacter c) position

theorem Closes.stop_eq_length {text : List Char} {stop : Nat} {token : Token}
    (closes : Closes text stop (.ok token)) : stop = text.length := by
  cases closes with
  | endOfInput whole => exact whole

namespace Lexer

variable {lexer after : Lexer} {error : QueryError}

theorem advance_advance (m n : Nat) (lexer : Lexer) :
    (lexer.advance m).advance n = lexer.advance (m + n) := by
  simp only [advance, List.drop_drop, Nat.add_assoc]

theorem exists_advance_of_next (lexer : Lexer) :
    ∃ n ≤ lexer.rest.length, lexer.next.2 = lexer.advance n := by
  have blanks : (lexer.rest.takeWhile Unicode.isWhiteSpace).length ≤ lexer.rest.length :=
    (List.takeWhile_prefix _).length_le
  have behind : lexer.skipBlanks.rest.length
      = lexer.rest.length - (lexer.rest.takeWhile Unicode.isWhiteSpace).length := by
    rw [skipBlanks, advance, List.length_drop]
  rw [next]
  split
  · rename_i kind contents found
    have fits := (Lexeme.spelling_prefix_of_first found).length_le
    exact ⟨_, by omega, advance_advance _ _ _⟩
  · exact ⟨_, by omega, advance_advance _ _ _⟩
  · exact ⟨_, blanks, rfl⟩

theorem rest_eq_nil_of_unterminated {position : Nat}
    (failed : lexer.next = (.error (.malformed .unterminatedString position), after)) :
    after.rest = [] := by
  rw [next] at failed
  split at failed
  · cases failed
  · cases failed
    exact List.drop_length
  · cases failed

theorem offset_eq_of_unexpected {c : Char} {position : Nat}
    (failed : lexer.next = (.error (.malformed (.unexpectedCharacter c) position), after)) :
    after.offset = position := by
  rw [next] at failed
  split at failed
  · cases failed
  · cases failed
  · cases failed
    rfl

theorem isLexical_of_next (fails : lexer.next = (.error error, after)) : error.IsLexical := by
  rw [next] at fails
  split at fails
  · cases fails
  · cases fails
    exact ⟨_, .inl rfl⟩
  · rename_i c _
    cases fails
    exact ⟨_, .inr ⟨c, rfl⟩⟩

theorem eq_or_length_lt_of_next (lexer : Lexer) :
    lexer.next.2 = lexer ∨ lexer.next.2.rest.length < lexer.rest.length := by
  obtain ⟨n, le, moved⟩ := lexer.exists_advance_of_next
  rw [moved]
  cases n with
  | zero => exact .inl rfl
  | succ n =>
    right
    rw [advance, List.length_drop]
    omega

/-- The lexer stands in a text, with what remains of it ahead. -/
structure StandsIn (lexer : Lexer) (text : List Char) : Prop where
  rest_eq : text.drop lexer.offset = lexer.rest
  offset_le : lexer.offset ≤ text.length

theorem standsIn_ofText (text : String) : (ofText text).StandsIn text.toList :=
  ⟨rfl, Nat.zero_le _⟩

theorem StandsIn.length_rest {text : List Char} (stands : lexer.StandsIn text) :
    lexer.offset + lexer.rest.length = text.length := by
  have := stands.offset_le
  rw [← stands.rest_eq, List.length_drop]
  omega

theorem StandsIn.next {text : List Char} (stands : lexer.StandsIn text) :
    lexer.next.2.StandsIn text := by
  obtain ⟨n, le, moved⟩ := lexer.exists_advance_of_next
  have room := stands.length_rest
  rw [moved]
  constructor
  · rw [advance, ← stands.rest_eq, List.drop_drop]
  · change lexer.offset + n ≤ text.length
    omega

theorem StandsIn.offset_eq {text : List Char} (stands : lexer.StandsIn text)
    (done : lexer.rest = []) : lexer.offset = text.length := by
  have room := stands.length_rest
  rw [done] at room
  exact room

/-- What one call gives, and how far it gets, in a text of which the lexer has taken a part. -/
structure Progress (text : List Char) (before : Lexer) (item : Except QueryError Token)
    (after : Lexer) : Prop where
  offset_le : before.offset ≤ after.offset
  le_length : after.offset ≤ text.length
  /-- A token is taken whole, with at least one character, from its place in the text. -/
  token {token : Token} (given : item = .ok token) (going : token.kind ≠ .endOfInput) :
    before.offset ≤ token.position ∧ token.position < token.stop ∧ token.stop = after.offset
      ∧ token.StandsIn text
  endOfInput {token : Token} (given : item = .ok token) (last : token.kind = .endOfInput) :
    token = ⟨.endOfInput, "", text.length⟩ ∧ after.offset = text.length
  lexical {error : QueryError} (given : item = .error error) : error.IsLexical
  unterminated {position : Nat} (given : item = .error (.malformed .unterminatedString position)) :
    before.offset ≤ position ∧ position < after.offset ∧ after.offset = text.length
  /-- Only blanks are taken before a character that is refused. -/
  unexpected {c : Char} {position : Nat}
    (given : item = .error (.malformed (.unexpectedCharacter c) position)) :
    after.offset = position ∧ text[position]? = some c ∧ Unicode.isWhiteSpace c = false
      ∧ ∀ i, before.offset ≤ i → i < position → BlankAt text i

/-- What one call does, for each of the things that it can give. -/
theorem StandsIn.progress {text : List Char} (stands : lexer.StandsIn text) :
    Progress text lexer lexer.next.1 lexer.next.2 := by
  have behind := stands.next
  have forward : lexer.offset ≤ lexer.next.2.offset := by
    obtain ⟨n, -, moved⟩ := lexer.exists_advance_of_next
    rw [moved]
    exact Nat.le_add_right _ _
  rcases found : lexer.next with ⟨item, after⟩
  rw [found] at behind forward
  constructor
  · exact forward
  · exact behind.offset_le
  · rintro token rfl going
    obtain ⟨gap, -, -, position, stop, -, here⟩ := exists_standsIn_of_next stands.rest_eq found
    exact ⟨by omega, Token.position_lt_stop here going, stop.symm, here⟩
  · rintro token rfl last
    obtain ⟨-, closes⟩ := closes_of_last stands.rest_eq stands.offset_le found last
    have whole := closes.stop_eq_length
    obtain ⟨gap, -, -, position, stop, -, here⟩ := exists_standsIn_of_next stands.rest_eq found
    have nothing := Token.eq_of_last here.spelled last
    rw [whole] at nothing
    refine ⟨nothing, ?_⟩
    rw [stop, Token.stop, whole, nothing]
    rfl
  · rintro error rfl
    exact isLexical_of_next found
  · rintro position rfl
    obtain ⟨stop, covers, closes⟩ := closes_of_refused stands.rest_eq found
    have whole := behind.offset_eq (rest_eq_nil_of_unterminated found)
    cases closes with
    | unterminated quote =>
      have within := (List.getElem?_eq_some_iff.1 quote).1
      exact ⟨covers.start_le, whole ▸ within, whole⟩
  · rintro c position rfl
    obtain ⟨stop, covers, closes⟩ := closes_of_refused stands.rest_eq found
    cases closes with
    | unexpected here solid =>
      refine ⟨offset_eq_of_unexpected found, here, solid, ?_⟩
      intro i low high
      rcases covers.gaps i low high with blank | ⟨_, none, _⟩
      · exact blank
      · cases none

/-- A call that takes nothing gives the end of the input or refuses a character. -/
theorem Progress.cases_of_stuck {text : List Char} {item : Except QueryError Token}
    (progress : Progress text lexer item lexer) :
    item = .ok ⟨.endOfInput, "", text.length⟩
      ∨ ∃ c position, item = .error (.malformed (.unexpectedCharacter c) position) := by
  cases item with
  | ok token =>
    by_cases last : token.kind = .endOfInput
    · exact .inl (congrArg _ (progress.endOfInput rfl last).1)
    · obtain ⟨low, taken, stop, -⟩ := progress.token rfl last
      omega
  | error error =>
    obtain ⟨position, rfl | ⟨c, rfl⟩⟩ := progress.lexical rfl
    · obtain ⟨low, taken, -⟩ := progress.unterminated rfl
      omega
    · exact .inr ⟨c, position, rfl⟩

theorem run_eq_calls (times : Nat) (lexer : Lexer) : run times lexer = calls next times lexer := by
  induction times generalizing lexer with
  | zero => rfl
  | succ times ih =>
    rw [calls_succ, ← ih]
    rfl

theorem StandsIn.run {text : List Char} (stands : lexer.StandsIn text) (times : Nat) :
    (Lexer.run times lexer).2.StandsIn text := by
  rw [run_eq_calls]
  exact calls_keeps (P := (StandsIn · text)) (fun _ => StandsIn.next) stands times

theorem StandsIn.progress_run {text : List Char} (stands : lexer.StandsIn text) {i times : Nat}
    (within : i < times) :
    ∃ item, (Lexer.run times lexer).1[i]? = some item
      ∧ Progress text (Lexer.run i lexer).2 item (Lexer.run (i + 1) lexer).2 := by
  have progress := (stands.run i).progress
  rw [run_eq_calls] at progress
  rw [run_eq_calls, run_eq_calls, run_eq_calls, getElem?_calls within, calls_succ_snd]
  exact ⟨_, rfl, progress⟩

theorem StandsIn.offset_run_le {text : List Char} (stands : lexer.StandsIn text) {i j : Nat}
    (le : i ≤ j) : (Lexer.run i lexer).2.offset ≤ (Lexer.run j lexer).2.offset := by
  induction le with
  | refl => exact Nat.le_refl _
  | @step j _ ih =>
    obtain ⟨_, -, progress⟩ := stands.progress_run (Nat.lt_succ_self j)
    exact Nat.le_trans ih progress.offset_le

theorem StandsIn.eq_of_unterminated {text : List Char} (stands : lexer.StandsIn text)
    {i j times p q : Nat}
    (one : (Lexer.run times lexer).1[i]? = some (.error (.malformed .unterminatedString p)))
    (other : (Lexer.run times lexer).1[j]? = some (.error (.malformed .unterminatedString q))) :
    i = j := by
  have taken {k position : Nat}
      (here : (Lexer.run times lexer).1[k]?
        = some (.error (.malformed .unterminatedString position))) :
      (Lexer.run k lexer).2.offset < text.length
        ∧ (Lexer.run (k + 1) lexer).2.offset = text.length := by
    have within : k < times := lt_of_getElem?_calls (run_eq_calls times lexer ▸ here)
    obtain ⟨item, given, progress⟩ := stands.progress_run within
    rw [here] at given
    obtain ⟨low, less, whole⟩ := progress.unterminated (Option.some.inj given).symm
    exact ⟨by omega, whole⟩
  obtain ⟨before, whole⟩ := taken one
  obtain ⟨before', whole'⟩ := taken other
  rcases Nat.lt_trichotomy i j with less | same | more
  · have between := stands.offset_run_le (show i + 1 ≤ j from less)
    omega
  · exact same
  · have between := stands.offset_run_le (show j + 1 ≤ i from more)
    omega

/-- After as many calls as there is text, every call gives the same: the end of the input, or the
refusal of one character. -/
theorem StandsIn.exists_settled {text : List Char} (stands : lexer.StandsIn text) (times : Nat) :
    ∃ last, (last = .ok ⟨.endOfInput, "", text.length⟩
        ∨ ∃ c position, last = .error (.malformed (.unexpectedCharacter c) position))
      ∧ ∀ i, text.length ≤ i → i < times → (Lexer.run times lexer).1[i]? = some last := by
  have room := stands.length_rest
  have enough : lexer.rest.length ≤ text.length := by omega
  have stuck := stuck_calls (fun lexer : Lexer => lexer.rest.length) eq_or_length_lt_of_next enough
  have progress := (stands.run text.length).progress
  rw [run_eq_calls, stuck] at progress
  refine ⟨_, progress.cases_of_stuck, ?_⟩
  intro i late within
  rw [run_eq_calls, getElem?_calls within,
    calls_eq_of_le (fun lexer : Lexer => lexer.rest.length) eq_or_length_lt_of_next enough late]

end Lexer

/-- A lexer that is read item by item, with a mark once it has given the last one. -/
structure TokenStream where
  lexer : Lexer
  finished : Bool

namespace TokenStream

def isLast : Except QueryError Token → Bool
  | .ok token => token.kind == .endOfInput
  | .error _ => true

def ofText (text : String) : TokenStream := ⟨.ofText text, false⟩

def pull (stream : TokenStream) : Option (Except QueryError Token) × TokenStream :=
  if stream.finished then (none, stream)
  else (some stream.lexer.next.1, ⟨stream.lexer.next.2, isLast stream.lexer.next.1⟩)

theorem pull_of_finished (lexer : Lexer) :
    pull ⟨lexer, true⟩ = (none, ⟨lexer, true⟩) := rfl

theorem pull_of_going (lexer : Lexer) :
    pull ⟨lexer, false⟩ = (some lexer.next.1, ⟨lexer.next.2, isLast lexer.next.1⟩) := rfl

theorem following_of_isLast {item : Except QueryError Token} (last : isLast item = true)
    (after : Lexer) : Lexer.following item after = [] := by
  cases item with
  | ok token => exact Lexer.following_of_last (eq_of_beq last) after
  | error error => rfl

theorem following_of_not_isLast {item : Except QueryError Token} (going : isLast item = false)
    (after : Lexer) : Lexer.following item after = after.items := by
  cases item with
  | ok token => exact Lexer.following_of_ne (beq_eq_false_iff_ne.1 going) after
  | error error => cases going

/-- The items come one by one, and nothing comes behind the last. -/
theorem pull_calls_eq (i : Nat) (lexer : Lexer) :
    (pull (calls pull i ⟨lexer, false⟩).2).1 = lexer.items[i]? := by
  have items : lexer.items = lexer.next.1 :: Lexer.following lexer.next.1 lexer.next.2 :=
    Lexer.items_of_next rfl
  induction i generalizing lexer with
  | zero =>
    rw [calls_zero, pull_of_going, items]
    rfl
  | succ i ih =>
    rw [calls_succ, pull_of_going, items, List.getElem?_cons_succ]
    cases last : isLast lexer.next.1 with
    | true =>
      rw [following_of_isLast last, calls_of_stuck (pull_of_finished _ ▸ rfl), pull_of_finished]
      rfl
    | false =>
      rw [following_of_not_isLast last]
      exact ih lexer.next.2 (Lexer.items_of_next rfl)

end TokenStream

namespace Lexer

theorem length_items_le (lexer : Lexer) : lexer.items.length ≤ lexer.rest.length + 1 := by
  induction lexer using Lexer.items.induct with
  | case1 lexer token after found last =>
    rw [items_of_next found, following_of_last last]
    simp
  | case2 lexer token after found going ih =>
    have less := length_rest_lt_of_next found going
    rw [items_of_next found, following_of_ne going, List.length_cons]
    omega
  | case3 lexer error after found =>
    rw [items_of_next found]
    simp [following]

/-- Called any number of times on a text, refusals or not, a lexer makes progress in it and stays
within it. An open quote is found at most once. After as many calls as the text has characters, all
give the same, which is the end of the input or the refusal of one character. Read item by item, the
text has at most one item more than characters, of which exactly the last is the end of the input or
a refusal, and then there are no more. -/
theorem run_in_bounds_and_settles (text : String) (times : Nat) :
    (∀ i < times, ∃ item, (run times (ofText text)).1[i]? = some item
        ∧ Progress text.toList (run i (ofText text)).2 item (run (i + 1) (ofText text)).2)
      ∧ (∀ i j p q : Nat,
        (run times (ofText text)).1[i]? = some (.error (.malformed .unterminatedString p)) →
        (run times (ofText text)).1[j]? = some (.error (.malformed .unterminatedString q)) → i = j)
      ∧ (∃ last, (last = .ok ⟨.endOfInput, "", text.length⟩
          ∨ ∃ c position, last = .error (.malformed (.unexpectedCharacter c) position))
        ∧ ∀ i, text.length ≤ i → i < times → (run times (ofText text)).1[i]? = some last)
      ∧ (tokenize text).length ≤ text.length + 1
      ∧ (∃ (tokens : List Token) (last : Except QueryError Token),
        tokenize text = tokens.map .ok ++ [last] ∧ (∀ token ∈ tokens, token.kind ≠ .endOfInput)
          ∧ TokenStream.isLast last = true)
      ∧ ∀ i < times, (calls TokenStream.pull times (.ofText text)).1[i]?
        = some (tokenize text)[i]? := by
  have stands := standsIn_ofText text
  refine ⟨?_, ?_, ?_, ?_, ?_, ?_⟩
  · intro i within
    exact stands.progress_run within
  · intro i j p q one other
    exact stands.eq_of_unterminated one other
  · have settled := stands.exists_settled times
    rwa [String.length_toList] at settled
  · have bound := length_items_le (ofText text)
    rwa [ofText, String.length_toList] at bound
  · rcases exists_covers_tokenize text with ⟨tokens, last, stop, items, covers, closes⟩
    refine ⟨tokens, last, items, covers.going, ?_⟩
    cases closes <;> rfl
  · intro i within
    rw [getElem?_calls within]
    exact congrArg some (TokenStream.pull_calls_eq i (ofText text))

end Lexer
end RecordQuery
