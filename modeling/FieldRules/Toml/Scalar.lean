import FieldRules.Toml.Value

/-!
# TOML numbers, words and dates

The values that are written without quotes or brackets. Digits may be separated by single
underscores; only a lone zero starts with a zero; integers fit 128 bits with or without a sign; a
float is rounded to the nearest double and must not overflow.
-/

namespace FieldRules.Toml

/-- Removes the underscores between digits; `none` if one does not stand between two digits or there
is no digit. -/
def plainDigits? (isDigit : Char → Bool) : List Char → Option (List Char)
  | [] => none
  | [c] => if isDigit c then some [c] else none
  | c :: '_' :: cs => if isDigit c then (plainDigits? isDigit cs).map (c :: ·) else none
  | c :: cs => if isDigit c then (plainDigits? isDigit cs).map (c :: ·) else none

def digitValue (c : Char) : Nat :=
  if c.isDigit then c.toNat - 48 else if c.isLower then c.toNat - 87 else c.toNat - 55

def numberOf (base : Nat) (digits : List Char) : Nat :=
  digits.foldl (fun n c => n * base + digitValue c) 0

def integer? (n : Int) : Option Toml :=
  if -0x80000000000000000000000000000000 ≤ n ∧ n ≤ 0xFFFFFFFFFFFFFFFFFFFFFFFFFFFFFFFF then
    some (.integer n)
  else none

def radix? (base : Nat) (isDigit : Char → Bool) (cs : List Char) : Option Toml := do
  integer? (numberOf base (← plainDigits? isDigit cs))

def isHexDigit (c : Char) : Bool := c.isDigit || ('a' ≤ c && c ≤ 'f') || ('A' ≤ c && c ≤ 'F')

def wholeDigits? (cs : List Char) : Option (List Char) :=
  match plainDigits? Char.isDigit cs with
  | some ('0' :: _ :: _) => none
  | digits => digits

def withSign (negative : Bool) (n : Nat) : Int := if negative then -n else n

def exponent? : List Char → Option Int
  | [] => some 0
  | '+' :: cs => (plainDigits? Char.isDigit cs).map fun ds => numberOf 10 ds
  | '-' :: cs => (plainDigits? Char.isDigit cs).map fun ds => -numberOf 10 ds
  | cs => (plainDigits? Char.isDigit cs).map fun ds => numberOf 10 ds

def decimal? (negative : Bool) (cs : List Char) : Option Toml := do
  let (mantissa, exponent) := cs.span fun c => c ≠ 'e' && c ≠ 'E'
  let (whole, fraction) := mantissa.span (· ≠ '.')
  let whole ← wholeDigits? whole
  if fraction.isEmpty && exponent.isEmpty then integer? (withSign negative (numberOf 10 whole))
  else
    let fraction ← if fraction.isEmpty then some [] else plainDigits? Char.isDigit (fraction.drop 1)
    let power ← if exponent.length = 1 then none else exponent? (exponent.drop 1)
    let x := Binary64.ofDecimal negative (numberOf 10 (whole ++ fraction)) (power - fraction.length)
    if x.isInfinite then none else some (.float x)

def signed? (negative : Bool) : List Char → Option Toml
  | ['i', 'n', 'f'] => some (.float (.infinite negative))
  | ['n', 'a', 'n'] => some (.float .nan)
  | cs => decimal? negative cs

def scalar? : List Char → Option Toml
  | ['t', 'r', 'u', 'e'] => some (.boolean true)
  | ['f', 'a', 'l', 's', 'e'] => some (.boolean false)
  | '+' :: cs => signed? false cs
  | '-' :: cs => signed? true cs
  | '0' :: 'x' :: cs => radix? 16 isHexDigit cs
  | '0' :: 'o' :: cs => radix? 8 (fun c => '0' ≤ c && c ≤ '7') cs
  | '0' :: 'b' :: cs => radix? 2 (fun c => c = '0' || c = '1') cs
  | cs => (Datetime.read? cs).map .datetime <|> signed? false cs

def isScalarChar (c : Char) : Bool :=
  c.isAlphanum || c = '_' || c = '+' || c = '-' || c = '.' || c = ':'

/-- Reads a word without quotes. A blank between a date and a time belongs to the word. -/
def readScalar (cs : List Char) : Option (Toml × List Char) :=
  let (word, rest) := cs.span isScalarChar
  match (Datetime.readDate? word), rest with
  | some (_, []), ' ' :: c :: more =>
    if c.isDigit then
      let (time, rest) := (c :: more).span isScalarChar
      (scalar? (word ++ ' ' :: time)).map (·, rest)
    else (scalar? word).map (·, rest)
  | _, _ => (scalar? word).map (·, rest)

end FieldRules.Toml
