import FieldRules.Options

/-!
# Log events

Everything the library reports while it works, with the level at which it does so.
-/

namespace FieldRules

inductive Level
  | trace
  | debug
  | info
  | warn
  | error
deriving DecidableEq

namespace Level

def rank : Level → Nat
  | .trace => 0
  | .debug => 1
  | .info => 2
  | .warn => 3
  | .error => 4

def name : Level → String
  | .trace => "TRACE"
  | .debug => "DEBUG"
  | .info => "INFO"
  | .warn => "WARN"
  | .error => "ERROR"

end Level

inductive Event
  | verdict (field rule : String) (passed : Bool)
  | skippedUnknown (field : String)
  | compiled (fields : Nat) (options : Options)
  | loaded (path : String) (fields : Nat)
  | checked (invalid total : Nat)
deriving DecidableEq

namespace Event

def level : Event → Level
  | .verdict .. => .trace
  | .skippedUnknown _ => .warn
  | .compiled .. => .debug
  | .loaded .. => .info
  | .checked .. => .info

def text : Event → String
  | .verdict field rule passed =>
    "field [" ++ field ++ "] rule [" ++ rule ++ "] passed: " ++ boolText passed
  | .skippedUnknown field => "Field [" ++ field ++ "] not in schema, skipping"
  | .compiled fields options =>
    "compiled " ++ toString fields ++ " field validators (" ++ options.show ++ ")"
  | .loaded path fields => "Loaded schema " ++ path ++ " (" ++ toString fields ++ " fields)"
  | .checked invalid total => toString invalid ++ " of " ++ toString total ++ " records invalid"

def line (e : Event) : String := e.level.name ++ " " ++ e.text

end Event

/-- A result with the events on the way to it. -/
abbrev Logged (α : Type) := List Event × α

def Logged.after {α : Type} (l : Logged α) (events : List Event) : Logged α :=
  (events ++ l.1, l.2)

end FieldRules
