import RecordQuery.Binary64.Basic

/-!
# The shortest decimal form

The shortest decimal fraction that reads back as a given number, and the nearest to the number of
those with equally few digits. The fractions that read back form an interval around the number,
whose ends belong to it if the significand is even. The grids of the multiples of `10 ^ power` are
tried from coarse to fine; on each the two neighbours of the number are the only candidates that
matter, for if any point of the grid lies in the interval, one of them does.
-/
namespace RecordQuery.Binary64

/-- The number and its interval in units of a quarter of the last place, over a power of ten. -/
structure Window where
  centre : Nat
  low : Nat
  high : Nat
  /-- Whether the ends of the interval read back as the number. -/
  closed : Bool
deriving DecidableEq, Repr

/-- The interval of a number. Below a power of two the neighbour is half as far away, unless the
number has the least exponent. -/
def window (x : Binary64) : Window where
  centre := 4 * x.significand
  low :=
    4 * x.significand - if x.significand = 0x10000000000000 ∧ -1074 < x.exponent then 1 else 2
  high := 4 * x.significand + 2
  closed := x.significand % 2 == 0

def Window.contains (w : Window) (factor point : Nat) : Bool :=
  if w.closed then w.low * factor ≤ point && point ≤ w.high * factor
  else w.low * factor < point && point < w.high * factor

/-- The multiple of `10 ^ power` in the interval that is nearest to the number, as its quotient by
`10 ^ power`; the even quotient if two are equally near. -/
def onGrid? (x : Binary64) (power : Int) : Option Nat :=
  let w := x.window
  let factor := powerOfTen (-power).toNat <<< (x.exponent - 2).toNat
  let step := powerOfTen power.toNat <<< (2 - x.exponent).toNat
  let below := w.centre * factor / step
  let excess := 2 * (w.centre * factor % step)
  let nearBelow := excess < step ∨ (excess = step ∧ below % 2 = 0)
  let belowFits := w.contains factor (below * step)
  let aboveFits := w.contains factor ((below + 1) * step)
  if belowFits ∧ (nearBelow ∨ !aboveFits) then some below
  else if aboveFits then some (below + 1)
  else none

theorem contains_of_onGrid? {x : Binary64} {power : Int} {n : Nat}
    (h : x.onGrid? power = some n) :
    x.window.contains (powerOfTen (-power).toNat <<< (x.exponent - 2).toNat)
      (n * (powerOfTen power.toNat <<< (2 - x.exponent).toNat)) = true := by
  unfold onGrid? at h
  simp only at h
  split at h
  · rename_i fits
    cases h
    exact fits.1
  · split at h
    · rename_i fits
      cases h
      exact fits
    · cases h

/-- The shortest form of a number as digits and a power of ten; zero has the form `0`. -/
def shortest (x : Binary64) : Nat × Int :=
  if x.significand = 0 then (0, 0)
  else
    let whole := (x.significand <<< x.exponent.toNat) >>> (-x.exponent).toNat
    let top : Int := (Nat.toDigits 10 whole).length
    let powers := (List.range 400).map fun (i : Nat) => top - i
    (powers.findSome? fun power => (x.onGrid? power).map (·, power)).getD (0, 0)

end RecordQuery.Binary64
