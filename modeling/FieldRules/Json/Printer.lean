import FieldRules.Binary64.Shortest
import FieldRules.Json.Value

/-!
# JSON text

`Json.compact` writes a value without blanks, the members of an object in the order in which they
are listed. A float is written with the fewest digits that read back: positionally, with a fraction
always, when the exponent of its first digit is at least `-5` and below `16`, and with a signed
exponent otherwise.
-/

namespace FieldRules.Json

def isPositional (exponent : Int) : Bool := -5 ≤ exponent && exponent < 16

def signText (negative : Bool) : String := if negative then "-" else ""

def positional (d : Binary64.Decimal) : String :=
  if d.exponent < 0 then
    "0." ++ String.ofList (List.replicate (-d.exponent - 1).toNat '0' ++ d.digits)
  else
    let whole := d.exponent.toNat + 1
    let digits := d.digits ++ List.replicate (whole - d.digits.length) '0'
    let fraction := digits.drop whole
    String.ofList (digits.take whole ++ '.' :: if fraction.isEmpty then ['0'] else fraction)

def scientific (d : Binary64.Decimal) : String :=
  let point := if d.digits.length = 1 then [] else ['.']
  let sign := if d.exponent < 0 then "-" else "+"
  String.ofList (d.digits.take 1 ++ point ++ d.digits.drop 1) ++ "e" ++ sign
    ++ toString d.exponent.natAbs

/-- The text of a float. A value with no JSON form is written `null`. -/
def floatText : Binary64 → String
  | .finite negative significand exponent =>
    if significand = 0 then signText negative ++ "0.0"
    else
      let d := Binary64.shortest significand exponent
      signText negative ++ if isPositional d.exponent then positional d else scientific d
  | _ => "null"

def Number.text : Number → String
  | .integer n => toString n
  | .float x => floatText x

def hexDigit (n : Nat) : Char := (Nat.toDigits 16 n).headD '0'

def escape (c : Char) : List Char :=
  match c with
  | '"' => ['\\', '"']
  | '\\' => ['\\', '\\']
  | '\n' => ['\\', 'n']
  | '\r' => ['\\', 'r']
  | '\t' => ['\\', 't']
  | _ =>
    if c.toNat = 8 then ['\\', 'b']
    else if c.toNat = 12 then ['\\', 'f']
    else if c.toNat < 32 then
      ['\\', 'u', '0', '0', hexDigit (c.toNat / 16), hexDigit (c.toNat % 16)]
    else [c]

def quoted (s : String) : String := String.ofList ('"' :: s.toList.flatMap escape ++ ['"'])

mutual

def compact : Json → String
  | .null => "null"
  | .boolean b => if b then "true" else "false"
  | .number n => n.text
  | .text s => quoted s
  | .array items => "[" ++ String.intercalate "," (compactItems items) ++ "]"
  | .object members => "\x7b" ++ String.intercalate "," (compactMembers members) ++ "\x7d"

def compactItems : List Json → List String
  | [] => []
  | x :: xs => compact x :: compactItems xs

def compactMembers : Entries Json → List String
  | [] => []
  | (k, x) :: xs => (quoted k ++ ":" ++ compact x) :: compactMembers xs

end

end FieldRules.Json
