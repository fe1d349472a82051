import FieldRules.Json.Value

/-!
# JSON numerals

A numeral without fraction and exponent is an integer when it fits 64 bits, unsigned if it is not
negative and signed if it is. Every other numeral is a float: its leading digits make a 64-bit
significand, the digits beyond that only count towards the exponent, and the significand is scaled
by a power of ten with one rounding for each step. A numeral that leaves the range of floats is no
number.
-/

namespace FieldRules.Json

structure Numeral where
  negative : Bool
  whole : List Nat
  fraction : Option (List Nat)
  exponent : Option (Bool × List Nat)

namespace Numeral

def digit? (c : Char) : Option Nat := if c.isDigit then some (c.toNat - 48) else none

def spanDigits : List Char → List Nat × List Char
  | [] => ([], [])
  | c :: cs =>
    match digit? c with
    | some d => let (ds, rest) := spanDigits cs; (d :: ds, rest)
    | none => ([], c :: cs)

def readFraction : List Char → Option (Option (List Nat) × List Char)
  | '.' :: cs =>
    match spanDigits cs with
    | ([], _) => none
    | (ds, rest) => some (some ds, rest)
  | cs => some (none, cs)

def readExponentDigits (negative : Bool) (cs : List Char) :
    Option (Option (Bool × List Nat) × List Char) :=
  match spanDigits cs with
  | ([], _) => none
  | (ds, rest) => some (some (negative, ds), rest)

def readExponent : List Char → Option (Option (Bool × List Nat) × List Char)
  | c :: cs =>
    if c = 'e' ∨ c = 'E' then
      match cs with
      | '+' :: cs => readExponentDigits false cs
      | '-' :: cs => readExponentDigits true cs
      | cs => readExponentDigits false cs
    else some (none, c :: cs)
  | [] => some (none, [])

/-- Reads the numeral at the front of a text that has lost its sign. A zero is followed by no other
digit. -/
def readUnsigned (negative : Bool) (cs : List Char) : Option (Numeral × List Char) :=
  match spanDigits cs with
  | ([], _) => none
  | (0 :: _ :: _, _) => none
  | (whole, cs) => do
    let (fraction, cs) ← readFraction cs
    let (exponent, cs) ← readExponent cs
    some (⟨negative, whole, fraction, exponent⟩, cs)

def maxUnsigned : Nat := 0xFFFFFFFFFFFFFFFF
def maxExponent : Nat := 0x7FFFFFFF

/-- The least integer is the negative of this one. -/
def maxNegated : Nat := 0x8000000000000000

/-- Digits gathered into a significand as long as it fits 64 bits, and the power of ten to apply. -/
structure Scaled where
  significand : Nat
  exponent : Int

/-- Digits before the point: one that does not fit, and all after it, count as powers of ten. -/
def gatherWhole (s : Scaled) : List Nat → Scaled
  | [] => s
  | d :: ds =>
    if s.significand * 10 + d ≤ maxUnsigned then
      gatherWhole ⟨s.significand * 10 + d, s.exponent⟩ ds
    else ⟨s.significand, s.exponent + (d :: ds).length⟩

/-- Digits after the point: one that does not fit, and all after it, are dropped. -/
def gatherFraction (s : Scaled) : List Nat → Scaled
  | [] => s
  | d :: ds =>
    if s.significand * 10 + d ≤ maxUnsigned then
      gatherFraction ⟨s.significand * 10 + d, s.exponent - 1⟩ ds
    else s

def powerOfTen (n : Nat) : Binary64 := .ofDecimal false 1 n

/-- Divides by `10 ^ 308` as long as the power to divide by is greater, then by the rest. -/
def scaleDownBy (x : Binary64) (power : Nat) : Binary64 :=
  if power ≤ 308 then x.scaleDown (powerOfTen power)
  else if x.isZero then x
  else scaleDownBy (x.scaleDown (powerOfTen 308)) (power - 308)
termination_by power

/-- `significand · 10 ^ exponent`, unless that is out of range. -/
def scale (s : Scaled) : Option Binary64 :=
  let x := Binary64.ofRatio false s.significand 1
  if s.exponent < 0 then some (scaleDownBy x s.exponent.natAbs)
  else if s.exponent ≤ 308 then
    let y := x.scaleUp (powerOfTen s.exponent.toNat)
    if y.isInfinite then none else some y
  else if x.isZero then some x
  else none

/-- Applies the exponent of a numeral; one beyond 31 bits leaves nothing but zero or an overflow. -/
def applyExponent (s : Scaled) : Option (Bool × List Nat) → Option Binary64
  | none => scale s
  | some (negative, ds) =>
    let e := ds.foldl (fun n d => n * 10 + d) 0
    if maxExponent < e then
      if s.significand ≠ 0 ∧ negative = false then none else some (.zero false)
    else scale ⟨s.significand, if negative then s.exponent - e else s.exponent + e⟩

def signed (negative : Bool) (x : Binary64) : Number := .float (if negative then x.negate else x)

def value (n : Numeral) : Option Number :=
  let whole := gatherWhole ⟨0, 0⟩ n.whole
  match n.fraction, n.exponent with
  | none, none =>
    if whole.exponent ≠ 0 then (scale whole).map (signed n.negative)
    else if n.negative = false then some (.integer whole.significand)
    else if whole.significand = 0 ∨ maxNegated < whole.significand then
      some (signed true (.ofRatio false whole.significand 1))
    else some (.integer (-whole.significand))
  | none, exponent => (applyExponent whole exponent).map (signed n.negative)
  | some ds, exponent =>
    (applyExponent (gatherFraction whole ds) exponent).map (signed n.negative)

end Numeral

def readNumber : List Char → Option (Number × List Char)
  | '-' :: cs => do
    let (n, rest) ← Numeral.readUnsigned true cs
    some (← n.value, rest)
  | cs => do
    let (n, rest) ← Numeral.readUnsigned false cs
    some (← n.value, rest)

end FieldRules.Json
