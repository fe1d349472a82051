import FieldRules.Binary64.Numeric
import FieldRules.Pattern.Machine
import FieldRules.Rule.Registry
import FieldRules.Text.Blank

/-!
# Built-in rule kinds

Seven kinds: bounds on the length of texts and arrays, bounds on numbers, patterns that texts match
somewhere, lists of allowed values, and integers. None of them looks at the record, suspends or ends
in an error.
-/

namespace FieldRules.Builtin

def length? : Json → Option Nat
  | .text s => some s.toList.length
  | .array items => some items.length
  | _ => none

/-- The value of a number, or of a text that writes one between white space. -/
def number? : Json → Option Binary64
  | .number n => some n.toBinary64
  | .text s => Binary64.ofText? (Text.trim s.toList)
  | _ => none

/-- Two numbers are the same by value; other values are the same part by part. -/
def sameValue : Json → Json → Bool
  | .number m, .number n => m.toBinary64.same n.toBinary64
  | a, b => a.same b

def isInteger : Json → Bool
  | .number (.integer _) => true
  | _ => false

/-- Lengths count in 64 bits, so every integer that is not negative is a length. -/
def lengthParameter (kind : String) : Option Toml → Except BuildError Nat
  | some (.integer n) =>
    if 0 ≤ n then .ok n.toNat else .error (.badParameter kind .nonNegativeInteger)
  | _ => .error (.badParameter kind .nonNegativeInteger)

def numberParameter (kind : String) : Option Toml → Except BuildError Binary64
  | some (.integer n) => .ok (.ofInt n)
  | some (.float x) => .ok x
  | _ => .error (.badParameter kind .number)

def minLength : Factory := fun parameter =>
  (lengthParameter "min_length" parameter).map fun least =>
    .ofValue fun value => (length? value).any (least ≤ ·)

def maxLength : Factory := fun parameter =>
  (lengthParameter "max_length" parameter).map fun most =>
    .ofValue fun value => (length? value).any (· ≤ most)

def minimum : Factory := fun parameter =>
  (numberParameter "min" parameter).map fun least =>
    .ofValue fun value => (number? value).any least.atMost

def maximum : Factory := fun parameter =>
  (numberParameter "max" parameter).map fun most =>
    .ofValue fun value => (number? value).any fun x => x.atMost most

def pattern : Factory
  | some (.text source) =>
    match Pattern.compile source with
    | .ok machine =>
      .ok <| .ofValue fun
        | .text s => machine.isMatch s
        | _ => false
    | .error fault => .error (.badPattern source fault)
  | _ => .error (.badParameter "pattern" .text)

def oneOf : Factory
  | some (.array items) =>
    .ok (.ofValue fun value => (Toml.itemsToJson items).any fun allowed => sameValue allowed value)
  | _ => .error (.badParameter "one_of" .array)

def integer : Factory := fun _ => .ok (.ofValue isInteger)

def registrations : Entries Factory :=
  [("min_length", minLength), ("max_length", maxLength), ("min", minimum), ("max", maximum),
    ("pattern", pattern), ("one_of", oneOf), ("integer", integer)]

end Builtin

def Registry.builtin : Registry := SortedTable.ofList Builtin.registrations

end FieldRules
