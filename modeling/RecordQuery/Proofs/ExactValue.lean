import Mathlib.Algebra.Order.Field.Rat
import Mathlib.Data.Bool.Basic
import Mathlib.Data.String.Basic
import Mathlib.Order.Compare
import Mathlib.Tactic.FieldSimp
import Mathlib.Tactic.Positivity
import RecordQuery.Expr.Literal
import RecordQuery.Predicate.ValueTest

/-!
# Exact values of numbers

The rational number that an integer or a decimal stands for. The order of decimals, which is
computed on coefficients brought to one scale, is the order of these rationals.
-/
namespace RecordQuery

theorem powerOfTen_eq_pow (k : ℕ) : powerOfTen k = 10 ^ k := by
  induction k with
  | zero => rfl
  | succ k ih => rw [powerOfTen_succ, ih, pow_succ]

namespace Decimal

def toRat (d : Decimal) : ℚ := d.coefficient / 10 ^ d.scale

@[simp] theorem toRat_ofInt64 (n : Int64) : (ofInt64 n).toRat = n.toInt := by
  simp [toRat, ofInt64]

theorem toRat_eq_scaledUp_div (d : Decimal) (places : ℕ) :
    d.toRat = (d.scaledUp places : ℚ) / 10 ^ (d.scale + places) := by
  unfold toRat scaledUp
  rw [powerOfTen_eq_pow, pow_add]
  push_cast
  field_simp

/-- The computed order of two decimals is the order of their values. -/
theorem cmp_compares (a b : Decimal) : (a.cmp b).Compares a.toRat b.toRat := by
  have strict : StrictMono fun x : ℤ => (x : ℚ) / 10 ^ (a.scale + b.scale) := by
    intro x y h
    have cast : (x : ℚ) < y := Int.cast_lt.2 h
    exact div_lt_div_of_pos_right cast (by positivity)
  rw [a.toRat_eq_scaledUp_div b.scale, b.toRat_eq_scaledUp_div a.scale,
    Nat.add_comm b.scale a.scale]
  exact strict.compares.2 ((compare_iff _ _).1 rfl)

end Decimal

def Value.number? : Value → Option ℚ
  | integer n => some n.toInt
  | decimal d => some d.toRat
  | _ => none

def Literal.number? : Literal → Option ℚ
  | integer n => some n.toInt
  | decimal d => some d.toRat
  | _ => none

namespace CompareOp

/-- The relation between a value and a literal that an operator asks for. -/
def Relates {α : Type*} [LinearOrder α] (op : CompareOp) (a b : α) : Prop :=
  match op with
  | equal => a = b
  | notEqual => a ≠ b
  | less => a < b
  | lessEqual => a ≤ b
  | greater => b < a
  | greaterEqual => b ≤ a

instance {α : Type*} [LinearOrder α] (op : CompareOp) (a b : α) : Decidable (op.Relates a b) := by
  cases op <;> unfold Relates <;> infer_instance

theorem holds_iff_relates {α : Type*} [LinearOrder α] {a b : α} {order : Ordering}
    (h : order.Compares a b) (op : CompareOp) : op.holds order = true ↔ op.Relates a b := by
  cases order with
  | lt =>
    have lt : a < b := h
    cases op <;> simp [holds, Relates, lt, lt.le, lt.ne, lt.not_gt]
  | eq =>
    have eq : a = b := h
    cases op <;> simp [holds, Relates, eq]
  | gt =>
    have gt : b < a := h
    cases op <;> simp [holds, Relates, gt, gt.le, gt.ne', gt.not_gt]

end CompareOp
end RecordQuery
