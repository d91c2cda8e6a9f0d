import RecordQuery.Binary64.Scaling
import RecordQuery.Binary64.Shortest
import RecordQuery.Numeral.Basic
import RecordQuery.Value

/-!
# Numbers in documents

A number text without a point or an exponent denotes an integer if 64 bits hold it, with or without
sign; every other number text denotes a floating-point number, and `-0` does so too. The float is
made from the leading digits, taken as one whole number and scaled by a power of ten, each step
rounded: for long texts and high powers it need not be the one nearest to the text. A number is
read as a field's value exactly or not at all: an integer as such if 64 signed bits hold it,
anything else as the decimal with the digits of its shortest form.
-/
namespace RecordQuery.Json

inductive Number
  | integer (n : Int)
  | float (x : Binary64)
deriving DecidableEq, Repr

namespace Number

/-- The whole numbers that are kept as such: those of 64 bits, signed or unsigned. -/
def isMachineInteger (n : Int) : Bool := Int64.minValue.toInt ≤ n && n < UInt64.size

def readExponent? (text : List Char) : Option Int :=
  let read (digits : List Char) : Option Nat :=
    if digits ≠ [] ∧ digits.all Char.isDigit then some (Nat.ofDigitChars 10 digits 0) else none
  match text with
  | '-' :: digits => (read digits).map fun n => -(n : Int)
  | '+' :: digits => (read digits).map Int.ofNat
  | digits => (read digits).map Int.ofNat

/-- Appends digits to a whole number for as long as 64 bits hold it, and counts those left over. -/
def fill (start : Nat) : List Char → Nat × Nat
  | [] => (start, 0)
  | c :: rest =>
    let next := 10 * start + (c.toNat - '0'.toNat)
    if next < UInt64.size then fill next rest else (start, rest.length + 1)

/-- The leading digits of a number text as `n * 10 ^ p` with `n` of 64 bits. Digits before the point
that find no room count as zeros, and digits after it are taken up as long as there is room. -/
def leading (mantissa : List Char) : Nat × Int :=
  let digits (part : List Char) : List Char := part.filter Char.isDigit
  let fraction := digits (mantissa.dropWhile (· != '.'))
  let (whole, unread) := fill 0 (digits (mantissa.takeWhile (· != '.')))
  let (number, dropped) := fill whole fraction
  (number, unread + dropped - fraction.length)

def float? (negative : Bool) (mantissa : List Char) (power : Int) : Option Number := do
  let (number, scale) := leading mantissa
  let x ← Binary64.ofRatio? negative number 1
  return .float (← x.scale? (scale + power))

/-- Reads a number text of a document; nothing if it is none or lies beyond every float. -/
def read? (text : List Char) : Option Number := do
  let isExponentMark (c : Char) : Bool := c == 'e' || c == 'E'
  let mantissa := text.takeWhile fun c => !isExponentMark c
  let numeral ← Numeral.read? mantissa
  match text.dropWhile fun c => !isExponentMark c with
  | [] =>
    let isNegativeZero := numeral.negative && numeral.magnitude == 0
    if numeral.scale = 0 ∧ isMachineInteger numeral.coefficient ∧ !isNegativeZero then
      return .integer numeral.coefficient
    else float? numeral.negative mantissa 0
  | _ :: exponent => float? numeral.negative mantissa (← readExponent? exponent)

def decimal? (negative : Bool) (digits : Nat) (power : Int) : Option Decimal :=
  let magnitude : Int := digits * powerOfTen power.toNat
  Decimal.ofScaled? (if negative then -magnitude else magnitude) (-power).toNat

def value? : Number → Option Value
  | integer n =>
    match int64OfInt? n with
    | some i => some (.integer i)
    | none => (Decimal.ofScaled? n 0).map .decimal
  | float x => (decimal? x.negative x.shortest.1 x.shortest.2).map .decimal

end Number
end RecordQuery.Json
