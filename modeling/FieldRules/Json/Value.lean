import FieldRules.Binary64.Basic
import FieldRules.Table.Sorted

/-!
# JSON values

A number is an integer or a double precision number, and the two kinds are never equal. The members
of an object are listed in key order with no key twice, which is the form that `Json.ofTable` gives
them; `Json.same` compares values in that form.
-/

namespace FieldRules

inductive Json.Number
  | integer (value : Int)
  | float (value : Binary64)
deriving Inhabited

inductive Json
  | null
  | boolean (value : Bool)
  | number (value : Json.Number)
  | text (value : String)
  | array (items : List Json)
  | object (members : List (String × Json))
deriving Inhabited

abbrev Record := SortedTable Json

namespace Json

def ofTable (t : SortedTable Json) : Json := .object t.entries

/-- `null` stands for the empty record; no value but an object is a record otherwise. -/
def asRecord? : Json → Option Record
  | .null => some ∅
  | .object members => some (SortedTable.ofList members)
  | _ => none

namespace Number

def same : Number → Number → Bool
  | .integer m, .integer n => m = n
  | .float x, .float y => x.same y
  | _, _ => false

def toBinary64 : Number → Binary64
  | .integer n => .ofInt n
  | .float x => x

end Number

mutual

def same : Json → Json → Bool
  | .null, .null => true
  | .boolean a, .boolean b => a = b
  | .number m, .number n => m.same n
  | .text s, .text t => s = t
  | .array xs, .array ys => sameItems xs ys
  | .object xs, .object ys => sameMembers xs ys
  | _, _ => false

def sameItems : List Json → List Json → Bool
  | [], [] => true
  | x :: xs, y :: ys => same x y && sameItems xs ys
  | _, _ => false

def sameMembers : Entries Json → Entries Json → Bool
  | [], [] => true
  | (k, x) :: xs, (l, y) :: ys => k = l && same x y && sameMembers xs ys
  | _, _ => false

end

end Json

end FieldRules
