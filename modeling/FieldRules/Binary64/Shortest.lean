import FieldRules.Binary64.Basic

/-!
# Shortest decimal of a double precision number

The decimals that round to a positive number fill an interval around it. `shortest` tries one digit,
two digits and so on up to seventeen, on each grid the two neighbours of the number, and takes the
first grid with a point in the interval; of two such points it takes the nearer.
-/

namespace FieldRules.Binary64

/-- A positive decimal: its digits, the first not zero, and the exponent of the first digit. -/
structure Decimal where
  digits : List Char
  exponent : Int

structure Ratio where
  numerator : Nat
  denominator : Nat

namespace Ratio

def ofBinary (significand : Nat) (exponent : Int) : Ratio :=
  if exponent < 0 then ⟨significand, 1 <<< (-exponent).toNat⟩
  else ⟨significand <<< exponent.toNat, 1⟩

def ofTens (significand : Nat) (exponent : Int) : Ratio :=
  if exponent < 0 then ⟨significand, tenTo (-exponent).toNat⟩
  else ⟨significand * tenTo exponent.toNat, 1⟩

def half (r : Ratio) : Ratio := ⟨r.numerator, 2 * r.denominator⟩

def compare (r s : Ratio) : Ordering :=
  Ord.compare (r.numerator * s.denominator) (s.numerator * r.denominator)

/-- The exponent of the first decimal digit. -/
def decimalExponent (r : Ratio) : Int :=
  if r.denominator ≤ r.numerator then
    ((Nat.toDigits 10 (r.numerator / r.denominator)).length : Int) - 1
  else
    let ceiling := (r.denominator + r.numerator - 1) / r.numerator
    0 - ((Nat.toDigits 10 (ceiling - 1)).length : Int)

/-- The whole number of units of `10 ^ exponent`, rounded down. -/
def inTens (r : Ratio) (exponent : Int) : Nat :=
  if exponent < 0 then r.numerator * tenTo (-exponent).toNat / r.denominator
  else r.numerator / (r.denominator * tenTo exponent.toNat)

end Ratio

/-- The reals that round to `significand · 2 ^ exponent`; the ends belong to them when the
significand is even. -/
structure Interval where
  low : Ratio
  high : Ratio
  closed : Bool

def roundingInterval (significand : Nat) (exponent : Int) : Interval where
  low :=
    let half := if significand = leastNormal ∧ minExponent < exponent then 1 else 2
    .ofBinary (4 * significand - half) (exponent - 2)
  high := .ofBinary (4 * significand + 2) (exponent - 2)
  closed := significand % 2 = 0

def Interval.contains (i : Interval) (r : Ratio) : Bool :=
  match i.low.compare r, r.compare i.high with
  | .lt, .lt => true
  | .eq, .lt => i.closed
  | .lt, .eq => i.closed
  | _, _ => false

/-- The point of the grid of `10 ^ grid` in the interval that is nearest to the value. -/
def nearestOnGrid? (value : Ratio) (interval : Interval) (grid : Int) : Option Nat :=
  let below := value.inTens grid
  let above := below + 1
  match interval.contains (.ofTens below grid), interval.contains (.ofTens above grid) with
  | false, false => none
  | true, false => some below
  | false, true => some above
  | true, true =>
    match value.compare (Ratio.ofTens (below + above) grid).half with
    | .lt => some below
    | .gt => some above
    | .eq => some (if below % 2 = 0 then below else above)

def dropTrailingZeros (digits : List Char) : List Char :=
  (digits.reverse.dropWhile (· == '0')).reverse

/-- The shortest decimal that rounds to `significand · 2 ^ exponent`, which is not zero. -/
def shortest (significand : Nat) (exponent : Int) : Decimal :=
  let value := Ratio.ofBinary significand exponent
  let interval := roundingInterval significand exponent
  let top := value.decimalExponent
  let found := (List.range 17).findSome? fun (n : Nat) =>
    let grid := top - n
    (nearestOnGrid? value interval grid).map fun point => (point, grid)
  let (point, grid) := found.getD (value.inTens (top - 16), top - 16)
  let digits := Nat.toDigits 10 point
  ⟨dropTrailingZeros digits, grid + digits.length - 1⟩

end FieldRules.Binary64
