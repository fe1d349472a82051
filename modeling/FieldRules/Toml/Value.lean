import FieldRules.Json.Value
import FieldRules.Toml.Datetime

/-!
# TOML values

The entries of a table are listed in key order with no key twice. `toJson` gives every value a JSON
form: a float that JSON cannot write becomes null, and a date or time becomes an object with one
member that holds its text.
-/

namespace FieldRules

inductive Toml
  | text (value : String)
  | integer (value : Int)
  | float (value : Binary64)
  | boolean (value : Bool)
  | datetime (value : Toml.Datetime)
  | array (items : List Toml)
  | table (entries : List (String × Toml))
deriving Inhabited

namespace Toml

def datetimeKey : String := "$__toml_private_datetime"

mutual

def toJson : Toml → Json
  | .text s => .text s
  | .integer n => .number (.integer n)
  | .float x => if x.isFinite then .number (.float x) else .null
  | .boolean b => .boolean b
  | .datetime d => .object [(datetimeKey, .text d.text)]
  | .array items => .array (itemsToJson items)
  | .table entries => .object (entriesToJson entries)

def itemsToJson : List Toml → List Json
  | [] => []
  | x :: xs => toJson x :: itemsToJson xs

def entriesToJson : Entries Toml → Entries Json
  | [] => []
  | (k, x) :: xs => (k, toJson x) :: entriesToJson xs

end

end Toml

end FieldRules
