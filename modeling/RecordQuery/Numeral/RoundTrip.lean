import RecordQuery.Numeral.Basic

/-!
# Reading number texts back

Reading and writing are inverse to each other: every numeral is read back from its text, and what is
read from a text is written as that text. So a text is a number text exactly if it is written for
some numeral, and then for one only.
-/
namespace RecordQuery.Numeral

theorem isDigit_of_mem_lastDigits {width n : Nat} {c : Char} (h : c ∈ lastDigits width n) :
    c.isDigit = true := by
  induction width generalizing n with
  | zero => simp [lastDigits] at h
  | succ width ih =>
    rcases List.mem_append.1 h with h | h
    · exact ih h
    · obtain rfl := List.mem_singleton.1 h
      simpa [Nat.isDigit_digitChar] using Nat.mod_lt n (by omega)

/-- Digits read after a start count the start once for each power of ten that they fill. -/
theorem ofDigitChars_eq_add (digits : List Char) (start : Nat) :
    Nat.ofDigitChars 10 digits start
      = start * powerOfTen digits.length + Nat.ofDigitChars 10 digits 0 := by
  induction digits generalizing start with
  | nil => simp
  | cons c rest ih =>
    rw [Nat.ofDigitChars_cons, Nat.ofDigitChars_cons, ih, ih (10 * 0 + _), List.length_cons,
      powerOfTen_succ, Nat.add_mul, Nat.mul_zero, Nat.zero_add, Nat.mul_comm 10 start,
      Nat.mul_assoc, Nat.mul_comm 10 (powerOfTen _), Nat.add_assoc]

theorem digitValue_lt {c : Char} (h : c.isDigit = true) : c.toNat - '0'.toNat < 10 := by
  simp only [Char.isDigit, ge_iff_le, Bool.and_eq_true, decide_eq_true_eq] at h
  have upper : c.toNat ≤ 57 := h.2
  have zero : '0'.toNat = 48 := rfl
  omega

theorem digitChar_digitValue {c : Char} (h : c.isDigit = true) :
    Nat.digitChar (c.toNat - '0'.toNat) = c := by
  apply Char.toNat_inj.1
  rw [Nat.toNat_digitChar_of_lt_ten (digitValue_lt h)]
  simp only [Char.isDigit, ge_iff_le, Bool.and_eq_true, decide_eq_true_eq] at h
  have lower : 48 ≤ c.toNat := h.1
  have zero : '0'.toNat = 48 := rfl
  omega

theorem ofDigitChars_lt {digits : List Char} (h : ∀ c ∈ digits, c.isDigit = true) :
    Nat.ofDigitChars 10 digits 0 < powerOfTen digits.length := by
  induction digits with
  | nil => simp
  | cons c rest ih =>
    have low := digitValue_lt (h c (by simp))
    have tail := ih fun d hd => h d (by simp [hd])
    rw [Nat.ofDigitChars_cons, ofDigitChars_eq_add, List.length_cons, powerOfTen_succ]
    have scaled : (10 * 0 + (c.toNat - '0'.toNat)) * powerOfTen rest.length
        ≤ 9 * powerOfTen rest.length := Nat.mul_le_mul_right _ (by omega)
    omega

theorem ofDigitChars_lastDigits (width n start : Nat) :
    Nat.ofDigitChars 10 (lastDigits width n) start
      = start * powerOfTen width + n % powerOfTen width := by
  induction width generalizing n with
  | zero => simp [lastDigits, Nat.mod_one]
  | succ width ih =>
    have parts : n % (10 * powerOfTen width) = n % 10 + 10 * (n / 10 % powerOfTen width) :=
      Nat.mod_mul
    rw [lastDigits, Nat.ofDigitChars_append, ih,
      Nat.ofDigitChars_cons_digitChar_of_lt_ten (Nat.mod_lt n (by omega)), Nat.ofDigitChars_nil,
      powerOfTen_succ, Nat.mul_comm (powerOfTen width) 10, parts, Nat.mul_add,
      Nat.mul_left_comm 10 start]
    omega

theorem lastDigits_succ (width n : Nat) :
    lastDigits (width + 1) n = Nat.digitChar (n / powerOfTen width % 10) :: lastDigits width n := by
  induction width generalizing n with
  | zero => simp [lastDigits]
  | succ width ih =>
    rw [lastDigits, ih, List.cons_append, Nat.div_div_eq_div_mul, powerOfTen_succ,
      Nat.mul_comm 10 (powerOfTen width)]
    rfl

/-- Digits are the last digits of what they read as, whatever stands before them. -/
theorem lastDigits_ofDigitChars {digits : List Char} (h : ∀ c ∈ digits, c.isDigit = true)
    (start : Nat) : lastDigits digits.length (Nat.ofDigitChars 10 digits start) = digits := by
  induction digits generalizing start with
  | nil => rfl
  | cons c rest ih =>
    have tail : ∀ d ∈ rest, d.isDigit = true := fun d hd => h d (by simp [hd])
    have below := ofDigitChars_lt tail
    have low := digitValue_lt (h c (by simp))
    rw [List.length_cons, lastDigits_succ, Nat.ofDigitChars_cons, ih tail, ofDigitChars_eq_add,
      Nat.add_comm (_ * _), Nat.add_mul_div_right _ _ (powerOfTen_pos _),
      Nat.div_eq_of_lt below, Nat.zero_add, Nat.mul_add_mod, Nat.mod_eq_of_lt low,
      digitChar_digitValue (h c (by simp))]

/-- Digits behind a positive number without needless zeros are the digits of a number. -/
theorem toDigits_append {digits : List Char} (h : ∀ c ∈ digits, c.isDigit = true) {start : Nat}
    (pos : 0 < start) :
    Nat.toDigits 10 start ++ digits = Nat.toDigits 10 (Nat.ofDigitChars 10 digits start) := by
  induction digits generalizing start with
  | nil => simp
  | cons c rest ih =>
    have digit := h c (by simp)
    have low := digitValue_lt digit
    have joined := Nat.toDigits_append_toDigits (by omega : 1 < 10) pos low
    rw [Nat.toDigits_of_lt_base low, digitChar_digitValue digit] at joined
    rw [Nat.ofDigitChars_cons, ← ih (fun d hd => h d (by simp [hd])) (by omega), ← joined,
      List.append_assoc, List.singleton_append]

theorem isWholePart_cons {c : Char} {rest : List Char} (hc : c ≠ '0') :
    isWholePart (c :: rest) = (c :: rest).all Char.isDigit := by
  unfold isWholePart
  split <;> simp_all

theorem head?_toDigits_ne_zero {n : Nat} (pos : 0 < n) :
    (Nat.toDigits 10 n).head? ≠ some '0' := by
  induction n using Nat.strongRecOn with
  | ind n ih =>
    by_cases small : n < 10
    · rw [Nat.toDigits_of_lt_base small]
      intro h
      have := Nat.digitChar_eq_zero.1 (Option.some.inj h)
      omega
    · have higher := ih (n / 10) (by omega) (by omega)
      rw [Nat.toDigits_of_base_le (by omega) (by omega)]
      cases found : Nat.toDigits 10 (n / 10) with
      | nil => exact absurd found Nat.toDigits_ne_nil
      | cons c rest => simpa [found] using higher

theorem isWholePart_toDigits (n : Nat) : isWholePart (Nat.toDigits 10 n) = true := by
  rcases Nat.eq_zero_or_pos n with rfl | pos
  · rw [Nat.toDigits_zero]
    rfl
  · have head := head?_toDigits_ne_zero pos
    have digits : ∀ c ∈ Nat.toDigits 10 n, c.isDigit = true := fun c hc =>
      Nat.isDigit_of_mem_toDigits (by omega) (by omega) hc
    cases found : Nat.toDigits 10 n with
    | nil => exact absurd found Nat.toDigits_ne_nil
    | cons c rest =>
      rw [found] at head digits
      rw [isWholePart_cons (by simpa using head)]
      simpa using digits

theorem cases_of_isWholePart {digits : List Char} (h : isWholePart digits = true) :
    digits = ['0'] ∨ ∃ c rest, digits = c :: rest ∧ c ≠ '0' := by
  cases digits with
  | nil => simp [isWholePart] at h
  | cons c rest =>
    by_cases zero : c = '0'
    · subst zero
      cases rest with
      | nil => exact .inl rfl
      | cons d rest => simp [isWholePart] at h
    · exact .inr ⟨c, rest, rfl, zero⟩

theorem isDigit_of_isWholePart {digits : List Char} (h : isWholePart digits = true) :
    ∀ c ∈ digits, c.isDigit = true := by
  rcases cases_of_isWholePart h with rfl | ⟨c, rest, rfl, nonzero⟩
  · simp [Char.isDigit]
  · rw [isWholePart_cons nonzero] at h
    exact List.all_eq_true.1 h

theorem toDigits_ofDigitChars {digits : List Char} (h : isWholePart digits = true) :
    Nat.toDigits 10 (Nat.ofDigitChars 10 digits 0) = digits := by
  have all := isDigit_of_isWholePart h
  rcases cases_of_isWholePart h with rfl | ⟨c, rest, rfl, nonzero⟩
  · simp [Nat.ofDigitChars_cons]
  · have digit := all c (by simp)
    have pos : 0 < c.toNat - '0'.toNat := by
      rcases Nat.eq_zero_or_pos (c.toNat - '0'.toNat) with zero | pos
      · have same := digitChar_digitValue digit
        rw [zero] at same
        exact absurd same.symm nonzero
      · exact pos
    have tail : ∀ d ∈ rest, d.isDigit = true := fun d hd => all d (by simp [hd])
    rw [Nat.ofDigitChars_cons, Nat.mul_zero, Nat.zero_add, ← toDigits_append tail pos,
      Nat.toDigits_of_lt_base (digitValue_lt digit), digitChar_digitValue digit,
      List.singleton_append]

theorem takeWhile_append_of_head {p : Char → Bool} {front rest : List Char}
    (inside : ∀ c ∈ front, p c = true) (stop : ∀ c, rest.head? = some c → p c = false) :
    (front ++ rest).takeWhile p = front ∧ (front ++ rest).dropWhile p = rest := by
  rw [List.takeWhile_append_of_pos inside, List.dropWhile_append_of_pos inside]
  cases rest with
  | nil => simp
  | cons c rest => simp [stop c rfl]

theorem readUnsigned?_writeUnsigned (magnitude scale : Nat) :
    readUnsigned? (writeUnsigned magnitude scale) = some (magnitude, scale) := by
  have digits : ∀ c ∈ Nat.toDigits 10 (magnitude / powerOfTen scale), c.isDigit = true :=
    fun c hc => Nat.isDigit_of_mem_toDigits (by omega) (by omega) hc
  have stop : ∀ c, (if scale = 0 then [] else '.' :: lastDigits scale magnitude).head? = some c →
      c.isDigit = false := by
    intro c hc
    split at hc
    · simp at hc
    · obtain rfl : '.' = c := by simpa using hc
      rfl
  obtain ⟨front, back⟩ := takeWhile_append_of_head digits stop
  unfold readUnsigned? writeUnsigned
  rw [front, back]
  simp only [isWholePart_toDigits, Bool.not_true, Bool.false_eq_true, if_false]
  rcases Nat.eq_zero_or_pos scale with rfl | pos
  · simp
  · have nonempty : lastDigits scale magnitude ≠ [] := by
      intro h
      have := length_lastDigits scale magnitude
      rw [h] at this
      simp at this
      omega
    have all : (lastDigits scale magnitude).all Char.isDigit = true :=
      List.all_eq_true.2 fun c hc => isDigit_of_mem_lastDigits hc
    rw [if_neg (by omega)]
    simp only [nonempty, all, ne_eq, not_false_eq_true, and_self, if_true, length_lastDigits,
      Option.some.injEq, Prod.mk.injEq, and_true]
    rw [Nat.ofDigitChars_append, ofDigitChars_lastDigits, Nat.ofDigitChars_ten_toDigits]
    exact Nat.div_add_mod' magnitude (powerOfTen scale)

theorem eq_writeUnsigned_of_readUnsigned? {text : List Char} {magnitude scale : Nat}
    (h : readUnsigned? text = some (magnitude, scale)) : text = writeUnsigned magnitude scale := by
  have split_text : text = text.takeWhile Char.isDigit ++ text.dropWhile Char.isDigit :=
    (List.takeWhile_append_dropWhile ..).symm
  unfold readUnsigned? at h
  simp only at h
  split at h
  · cases h
  · rename_i whole
    have whole : isWholePart (text.takeWhile Char.isDigit) = true := by simpa using whole
    split at h
    · rename_i nothing
      cases h
      rw [nothing, List.append_nil] at split_text
      rw [← split_text] at whole ⊢
      simp [writeUnsigned, toDigits_ofDigitChars whole]
    · rename_i c fraction rest
      split at h
      · rename_i point
        obtain ⟨rfl, nonempty, all⟩ := point
        cases h
        rw [rest] at split_text
        have tail : ∀ d ∈ fraction, d.isDigit = true := List.all_eq_true.1 all
        have long : fraction.length ≠ 0 := by simpa using nonempty
        have below := ofDigitChars_lt tail
        unfold writeUnsigned
        rw [if_neg long, Nat.ofDigitChars_append, lastDigits_ofDigitChars tail,
          ofDigitChars_eq_add, Nat.add_comm (_ * _),
          Nat.add_mul_div_right _ _ (powerOfTen_pos _), Nat.div_eq_of_lt below, Nat.zero_add,
          toDigits_ofDigitChars whole]
        exact split_text
      · cases h

theorem read?_sign_append {text : List Char} {magnitude scale : Nat} (negative : Bool)
    (h : readUnsigned? text = some (magnitude, scale)) :
    read? ((if negative then ['-'] else []) ++ text) = some ⟨negative, magnitude, scale⟩ := by
  cases negative with
  | true => simp [read?, h]
  | false =>
    simp only [Bool.false_eq_true, if_false, List.nil_append]
    unfold read?
    split
    · -- a sign is no digit, so nothing that starts with one is read as unsigned
      simp [readUnsigned?, isWholePart, Char.isDigit] at h
    · simp [h]

/-- A numeral is read back from its text. -/
theorem read?_write (n : Numeral) : read? n.write = some n :=
  read?_sign_append n.negative (readUnsigned?_writeUnsigned n.magnitude n.scale)

/-- What is read from a text is written as that text. -/
theorem eq_write_of_read? {text : List Char} {n : Numeral} (h : read? text = some n) :
    text = n.write := by
  unfold read? at h
  split at h
  · obtain ⟨⟨magnitude, scale⟩, found, rfl⟩ := Option.map_eq_some_iff.1 h
    simp [write, ← eq_writeUnsigned_of_readUnsigned? found]
  · obtain ⟨⟨magnitude, scale⟩, found, rfl⟩ := Option.map_eq_some_iff.1 h
    simp [write, ← eq_writeUnsigned_of_readUnsigned? found]

end RecordQuery.Numeral
