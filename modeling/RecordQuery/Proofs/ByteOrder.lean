import Mathlib.Tactic.SplitIfs

/-!
# The order of texts by their bytes

Texts are ordered by their code points. Their UTF-8 bytes stand in the same order: where two
characters differ, so do their bytes, and the first byte that differs is smaller for the smaller
code point.
-/
namespace RecordQuery.Unicode

def bytes (text : String) : List UInt8 := text.toUTF8.data.toList

theorem bytes_eq_flatMap (text : String) :
    bytes text = text.toList.flatMap String.utf8EncodeChar := by
  rw [bytes, String.toUTF8_eq_toByteArray, ← String.utf8Encode_toList, List.utf8Encode,
    List.toList_data_toByteArray]

/-- A smaller character comes first by its bytes, whatever follows. -/
theorem encode_append_lt {c d : Char} (h : c < d) (rest rest' : List UInt8) :
    String.utf8EncodeChar c ++ rest < String.utf8EncodeChar d ++ rest' := by
  have less : c.val.toNat < d.val.toNat := h
  have bound : d.val.toNat < 0x110000 := by
    rcases d.valid with low | high
    · exact Nat.lt_trans low (by decide)
    · exact high.2
  simp only [String.utf8EncodeChar]
  generalize c.val.toNat = m at less
  generalize d.val.toNat = n at less bound
  -- The bytes after the first are digits to the base 64, so the quotients are taken step by step.
  rw [show m / 4096 = m / 64 / 64 by omega, show m / 262144 = m / 64 / 64 / 64 by omega,
    show n / 4096 = n / 64 / 64 by omega, show n / 262144 = n / 64 / 64 / 64 by omega]
  split_ifs <;>
    simp only [List.cons_append, List.nil_append, List.cons_lt_cons_iff, UInt8.lt_iff_toNat_lt,
      ← UInt8.toNat_inj, UInt8.toNat_ofNat'] <;>
    omega

theorem flatMap_encode_lt {a b : List Char} (h : a < b) :
    a.flatMap String.utf8EncodeChar < b.flatMap String.utf8EncodeChar := by
  induction h with
  | @nil d rest =>
    obtain ⟨byte, more, encoded⟩ :=
      List.exists_cons_of_ne_nil (String.utf8EncodeChar_ne_nil (c := d))
    simp [encoded]
  | @cons c rest rest' _ ih =>
    rw [List.flatMap_cons, List.flatMap_cons]
    exact List.append_left_lt ih
  | @rel c rest d rest' less =>
    rw [List.flatMap_cons, List.flatMap_cons]
    exact encode_append_lt less _ _

/-- Texts in ascending order are in ascending order by their bytes. -/
theorem bytes_lt_bytes {a b : String} (h : a < b) : bytes a < bytes b := by
  rw [bytes_eq_flatMap, bytes_eq_flatMap]
  exact flatMap_encode_lt h

end RecordQuery.Unicode
