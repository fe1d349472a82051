import FieldRules.Binary64.Basic

/-!
# Numbers in texts

Decimal digits with at most one point and at least one digit, an optional exponent and an optional
sign, or one of the words for infinity and NaN in any case.
-/

namespace FieldRules.Binary64

def digitsValue (digits : List Char) : Nat :=
  digits.foldl (fun n c => n * 10 + (c.toNat - 48)) 0

def lowerAscii (c : Char) : Char := if 'A' ≤ c ∧ c ≤ 'Z' then Char.ofNat (c.toNat + 32) else c

def exponentOfText? (cs : List Char) : Option Int :=
  let (negative, digits) :=
    match cs with
    | '+' :: ds => (false, ds)
    | '-' :: ds => (true, ds)
    | ds => (false, ds)
  if digits.isEmpty || !digits.all Char.isDigit then none
  else some (if negative then -digitsValue digits else digitsValue digits)

def decimalOfText? (negative : Bool) (cs : List Char) : Option Binary64 := do
  let (whole, rest) := cs.span Char.isDigit
  let (fraction, rest) :=
    match rest with
    | '.' :: rest => rest.span Char.isDigit
    | rest => ([], rest)
  if whole.isEmpty && fraction.isEmpty then none
  else
    let exponent ←
      match rest with
      | [] => some 0
      | 'e' :: rest => exponentOfText? rest
      | 'E' :: rest => exponentOfText? rest
      | _ => none
    some (ofDecimal negative (digitsValue (whole ++ fraction)) (exponent - fraction.length))

def unsignedOfText? (negative : Bool) (cs : List Char) : Option Binary64 :=
  let word := cs.map lowerAscii
  if word = ['i', 'n', 'f'] ∨ word = ['i', 'n', 'f', 'i', 'n', 'i', 't', 'y'] then
    some (.infinite negative)
  else if word = ['n', 'a', 'n'] then some .nan
  else decimalOfText? negative cs

def ofText? : List Char → Option Binary64
  | '+' :: cs => unsignedOfText? false cs
  | '-' :: cs => unsignedOfText? true cs
  | cs => unsignedOfText? false cs

end FieldRules.Binary64
