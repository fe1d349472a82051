import FieldRules.Json.Printer

/-!
# Message tables

A table maps rule names to the messages for their failure. An empty message counts as absent when it
is looked up, though it is kept. `resolve` turns a failing name into a text: its own message, else
the default message, else the name itself.
-/

namespace FieldRules

abbrev Messages := SortedTable String

inductive MessagesFault
  | array
  | noMapping (value : Json)
  | notText (key : String) (value : Json)

def MessagesFault.description : MessagesFault → String
  | .array => "expected a mapping, got an array"
  | .noMapping value => "expected a mapping, got `" ++ value.compact ++ "`"
  | .notText key value =>
    "message for `" ++ key ++ "` must be a string, got `" ++ value.compact ++ "`"

namespace Messages

def defaultKey : String := "default"

/-- The message under a key, unless it is empty. -/
def message? (m : Messages) (key : String) : Option String :=
  (m.get? key).filter fun text => text ≠ ""

def remove (m : Messages) (key : String) : Option String × Messages := (m.get? key, m.erase key)

def resolve (m : Messages) (name : String) : String :=
  ((m.message? name).or (m.message? defaultKey)).getD name

def addMembers (m : Messages) : Entries Json → Except MessagesFault Messages
  | [] => .ok m
  | (key, .text message) :: rest => addMembers (m.insert key message) rest
  | (key, value) :: _ => .error (.notText key value)

/-- The table of a JSON value: `null` stands for the empty table, and the members of an object are
taken in key order. -/
def ofJson : Json → Except MessagesFault Messages
  | .null => .ok ∅
  | .object members => addMembers ∅ (SortedTable.ofList members).entries
  | .array _ => .error .array
  | value => .error (.noMapping value)

end Messages

end FieldRules
