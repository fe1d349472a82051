/-!
# Double precision numbers

`Binary64` is a number of the 64-bit binary floating-point format, held by its value: a sign, a
significand below `2 ^ 53` and the exponent of its last bit. There is one NaN.

Every result is made by `ofRatio`, which rounds an exact ratio to the nearest representable number
and takes the even neighbour on a tie. Order and equality compare exact values.
-/

namespace FieldRules

/-- `finite negative significand exponent` is `± significand · 2 ^ exponent`. -/
inductive Binary64
  | nan
  | infinite (negative : Bool)
  | finite (negative : Bool) (significand : Nat) (exponent : Int)
deriving DecidableEq, Inhabited

namespace Binary64

def minExponent : Int := -1074

def maxExponent : Int := 971

/-- The least significand of 53 bits, `2 ^ 52`. All but the smallest numbers have 53 bits. -/
def leastNormal : Nat := 0x10000000000000

def tenTo (n : Nat) : Nat := Nat.pow 10 n

def zero (negative : Bool) : Binary64 := .finite negative 0 minExponent

/-- The ratio `numerator / denominator` in units of `2 ^ exponent`, as quotient, remainder and
divisor. -/
def inUnits (numerator denominator : Nat) (exponent : Int) : Nat × Nat × Nat :=
  let n := if exponent < 0 then numerator <<< (-exponent).toNat else numerator
  let d := if exponent < 0 then denominator else denominator <<< exponent.toNat
  (n / d, n % d, d)

/-- The exponent at which a positive ratio has 53 significant bits, or the least exponent if that
is below it. -/
def exponentOf (numerator denominator : Nat) : Int :=
  let e : Int := (numerator.log2 : Int) - denominator.log2 - 52
  let e := if (inUnits numerator denominator e).1 < leastNormal then e - 1 else e
  max e minExponent

/-- Half of a unit goes to the even neighbour. -/
def roundHalfEven (quotient remainder divisor : Nat) : Nat :=
  if divisor < 2 * remainder ∨ (2 * remainder = divisor ∧ quotient % 2 = 1) then quotient + 1
  else quotient

def ofRatio (negative : Bool) (numerator denominator : Nat) : Binary64 :=
  if numerator = 0 then zero negative
  else
    let e := exponentOf numerator denominator
    let (q, r, d) := inUnits numerator denominator e
    let m := roundHalfEven q r d
    let (m, e) := if m = 2 * leastNormal then (leastNormal, e + 1) else (m, e)
    if maxExponent < e then .infinite negative else .finite negative m e

def ofInt (n : Int) : Binary64 := ofRatio (n < 0) n.natAbs 1

/-- `± significand · 10 ^ exponent`. An exponent far out of range is decided without computing the
power. -/
def ofDecimal (negative : Bool) (significand : Nat) (exponent : Int) : Binary64 :=
  if significand = 0 then zero negative
  else
    let top := ((Nat.toDigits 10 significand).length : Int) + exponent
    if 310 < top then .infinite negative
    else if top < -330 then zero negative
    else if exponent < 0 then ofRatio negative significand (tenTo (-exponent).toNat)
    else ofRatio negative (significand * tenTo exponent.toNat) 1

def negate : Binary64 → Binary64
  | .nan => .nan
  | .infinite s => .infinite !s
  | .finite s m e => .finite (!s) m e

def isFinite : Binary64 → Bool
  | .finite .. => true
  | _ => false

def isInfinite : Binary64 → Bool
  | .infinite _ => true
  | _ => false

def isZero : Binary64 → Bool
  | .finite _ m _ => m = 0
  | _ => false

/-- The product of two numbers that are not NaN and of which none is infinite. -/
def scaleUp : Binary64 → Binary64 → Binary64
  | .finite s m e, .finite t n f =>
    let x := e + f
    if x < 0 then ofRatio (s != t) (m * n) (1 <<< (-x).toNat)
    else ofRatio (s != t) ((m * n) <<< x.toNat) 1
  | _, _ => .nan

def scaleDown : Binary64 → Binary64 → Binary64
  | .finite s m e, .finite t n f =>
    let x := e - f
    if x < 0 then ofRatio (s != t) m (n <<< (-x).toNat)
    else ofRatio (s != t) (m <<< x.toNat) n
  | _, _ => .nan

/-- The value of a finite number in units of `2 ^ minExponent`. -/
def units (negative : Bool) (significand : Nat) (exponent : Int) : Int :=
  let n : Int := (significand <<< (exponent - minExponent).toNat : Nat)
  if negative then -n else n

/-- The order of values; NaN is not comparable, and the two zeros are equal. -/
def order? : Binary64 → Binary64 → Option Ordering
  | .nan, _ => none
  | _, .nan => none
  | .infinite s, .infinite t => some (compare (!s) (!t))
  | .infinite s, .finite .. => some (if s then .lt else .gt)
  | .finite .., .infinite t => some (if t then .gt else .lt)
  | .finite s m e, .finite t n f => some (compare (units s m e) (units t n f))

def same (x y : Binary64) : Bool := order? x y == some .eq

def atMost (x y : Binary64) : Bool :=
  match order? x y with
  | some .lt => true
  | some .eq => true
  | _ => false

def signBit (negative : Bool) : Nat := if negative then 0x8000000000000000 else 0

def bits : Binary64 → Nat
  | .nan => 0x7FF8000000000000
  | .infinite s => signBit s + 0x7FF0000000000000
  | .finite s m e =>
    if m < leastNormal then signBit s + m
    else signBit s + (e - minExponent + 1).toNat * leastNormal + (m - leastNormal)

end Binary64

end FieldRules
