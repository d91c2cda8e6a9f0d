/-!
# Number texts

A number text is an optional minus sign, a whole part without needless zeros, and optionally a point
with at least one digit after it. It is determined by its sign, its digits with the point taken out,
and the number of digits after the point, so reading and writing are inverse to each other: `-0`
and `0` and `0.0` are three numerals of one value.
-/
namespace RecordQuery

def powerOfTen (k : Nat) : Nat := Nat.pow 10 k

@[simp] theorem powerOfTen_zero : powerOfTen 0 = 1 := rfl

theorem powerOfTen_succ (k : Nat) : powerOfTen (k + 1) = powerOfTen k * 10 := rfl

theorem powerOfTen_pos (k : Nat) : 0 < powerOfTen k := by
  induction k with
  | zero => simp
  | succ k ih =>
    rw [powerOfTen_succ]
    omega

def int64OfInt? (n : Int) : Option Int64 :=
  if Int64.minValue.toInt ≤ n ∧ n ≤ Int64.maxValue.toInt then some (Int64.ofInt n) else none

theorem int64OfInt?_toInt (n : Int64) : int64OfInt? n.toInt = some n := by
  rw [int64OfInt?, if_pos ⟨n.minValue_le_toInt, n.toInt_le⟩, Int64.ofInt_toInt]

theorem int64OfInt?_eq_none_iff {n : Int} :
    int64OfInt? n = none ↔ n < Int64.minValue.toInt ∨ Int64.maxValue.toInt < n := by
  rw [int64OfInt?]
  split
  · simp only [reduceCtorEq, false_iff]
    omega
  · simp only [true_iff]
    omega

theorem toInt_of_int64OfInt? {i : Int} {n : Int64} (h : int64OfInt? i = some n) :
    n.toInt = i := by
  rw [int64OfInt?] at h
  split at h
  · rename_i within
    cases h
    have high : Int64.maxValue.toInt < 2 ^ 63 := by decide
    exact Int64.toInt_ofInt_of_le within.1 (Int.lt_of_le_of_lt within.2 high)
  · cases h

/-- A number text: the sign, the digits without the point, and how many of them follow the point. -/
structure Numeral where
  negative : Bool
  magnitude : Nat
  scale : Nat
deriving DecidableEq, Repr

namespace Numeral

def ofInt (i : Int) : Numeral := ⟨decide (i < 0), i.natAbs, 0⟩

/-- The signed digits, so that the value is `coefficient / 10 ^ scale`. -/
def coefficient (n : Numeral) : Int :=
  if n.negative then -(n.magnitude : Int) else n.magnitude

@[simp] theorem natAbs_coefficient (n : Numeral) : n.coefficient.natAbs = n.magnitude := by
  unfold coefficient
  split <;> simp

@[simp] theorem coefficient_ofInt (i : Int) : (ofInt i).coefficient = i := by
  unfold coefficient ofInt
  by_cases h : i < 0
  · simp only [h, decide_true, if_true]
    omega
  · simp only [h, decide_false, Bool.false_eq_true, if_false]
    omega

/-- The last `width` decimal digits of `n`, with leading zeros. -/
def lastDigits : Nat → Nat → List Char
  | 0, _ => []
  | width + 1, n => lastDigits width (n / 10) ++ [Nat.digitChar (n % 10)]

@[simp] theorem length_lastDigits (width n : Nat) : (lastDigits width n).length = width := by
  induction width generalizing n with
  | zero => rfl
  | succ width ih => simp [lastDigits, ih]

def writeUnsigned (magnitude scale : Nat) : List Char :=
  Nat.toDigits 10 (magnitude / powerOfTen scale)
    ++ (if scale = 0 then [] else '.' :: lastDigits scale magnitude)

def write (n : Numeral) : List Char :=
  (if n.negative then ['-'] else []) ++ writeUnsigned n.magnitude n.scale

def text (n : Numeral) : String := String.ofList n.write

/-- The whole part `0`, or digits that do not start with a zero. -/
def isWholePart : List Char → Bool
  | [] => false
  | ['0'] => true
  | c :: rest => c != '0' && (c :: rest).all Char.isDigit

/-- Reads an unsigned number text as its digits and the number of them after the point. -/
def readUnsigned? (text : List Char) : Option (Nat × Nat) :=
  let whole := text.takeWhile Char.isDigit
  if !isWholePart whole then none
  else
    match text.dropWhile Char.isDigit with
    | [] => some (Nat.ofDigitChars 10 whole 0, 0)
    | c :: fraction =>
      if c = '.' ∧ fraction ≠ [] ∧ fraction.all Char.isDigit then
        some (Nat.ofDigitChars 10 (whole ++ fraction) 0, fraction.length)
      else none

/-- Reads a number text; anything before, after or in between makes it no number. -/
def read? : List Char → Option Numeral
  | '-' :: rest => (readUnsigned? rest).map fun (magnitude, scale) => ⟨true, magnitude, scale⟩
  | text => (readUnsigned? text).map fun (magnitude, scale) => ⟨false, magnitude, scale⟩

def toInt64? (n : Numeral) : Option Int64 :=
  if n.scale = 0 then int64OfInt? n.coefficient else none

end Numeral
end RecordQuery
