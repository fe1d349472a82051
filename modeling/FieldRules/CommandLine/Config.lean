import FieldRules.CommandLine.Arguments
import FieldRules.Event

/-!
# Configuration of a run

What a run of the program uses: files, fields, options and the level of the log. Empty field names
do not count, and if none is left every field is meant.
-/

namespace FieldRules.CommandLine

structure Config where
  schemaPath : String
  /-- Without a path the records come from the standard input. -/
  inputPath : Option String
  fields : Option (List String)
  ignoreUnknown : Bool
  strict : Bool
  listRequired : Bool
  logLevel : String

namespace Config

def fieldNames? (pieces : Option (List String)) : Option (List String) :=
  match pieces.map (List.filter (· ≠ "")) with
  | some [] => none
  | names => names

def ofArguments (schema : String) (a : Arguments) : Config where
  schemaPath := schema
  inputPath := a.input
  fields := fieldNames? a.fields
  ignoreUnknown := a.ignoreUnknown
  strict := a.strict
  listRequired := a.required
  logLevel := a.logLevel.getD "warn"

def read (words : List String) : Except Refusal Config := do
  let a ← Arguments.read words
  match a.schema with
  | some schema => .ok (ofArguments schema a)
  | none => .error .missingSchema

def options (c : Config) (base : Options) : Options where
  unknownFields := if c.ignoreUnknown then .ignore else base.unknownFields
  strictRules := c.strict || base.strictRules

end Config

/-- The lowest level that a level text lets through; a text that names no level lets errors through
only, and `off` nothing. -/
def threshold (text : String) : Nat :=
  let lower (c : Char) : Char := if 'A' ≤ c ∧ c ≤ 'Z' then Char.ofNat (c.toNat + 32) else c
  match String.ofList (text.toList.map lower) with
  | "trace" => Level.trace.rank
  | "debug" => Level.debug.rank
  | "info" => Level.info.rank
  | "warn" => Level.warn.rank
  | "error" => Level.error.rank
  | "off" => Level.error.rank + 1
  | _ => Level.error.rank

def shown (level : String) (events : List Event) : List Event :=
  events.filter fun e => threshold level ≤ e.level.rank

end FieldRules.CommandLine
