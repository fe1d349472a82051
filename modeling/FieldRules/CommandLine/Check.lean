import FieldRules.CommandLine.Config
import FieldRules.Json.Stream
import FieldRules.Rule.Builtin
import FieldRules.SchemaFile.Resolution
import FieldRules.Validator.Validation

/-!
# Checking a stream of records

A run loads the schema, builds the validator, and then either lists the required fields or checks
the records of a stream one after another. The first item that is no record, or whose validation has
no answer, ends the run. `prepare` does what comes before the records are read, `finish` the rest,
and `run` both.
-/

namespace FieldRules.CommandLine

inductive Failure
  | load (cause : LoadError)
  | schema (path : String) (cause : SchemaError)
  | unreadableRecords (path : Option String)
  | notJson (position : Nat)
  | notRecord (position : Nat)
  | validation (cause : ValidationError)

def Failure.message : Failure → String
  | .load (.unreadable path) => "Failed to read schema file: " ++ path
  | .load (.invalid path _) => "Invalid schema file: " ++ path
  | .schema path _ => "Invalid schema: " ++ path
  | .unreadableRecords (some path) => "Failed to read records: " ++ path
  | .unreadableRecords none => "Failed to read records from stdin"
  | .notJson position => "Failed to parse record #" ++ toString position
  | .notRecord position => "Record #" ++ toString position ++ " is not a JSON object"
  | .validation cause => cause.message

structure Outcome where
  output : List String
  events : List Event
  result : Except Failure Bool

def Outcome.exitCode (o : Outcome) : Nat :=
  match o.result with
  | .ok true => 0
  | _ => 1

def answerLine : Option Failures → String
  | none => Json.compact .null
  | some failures =>
    Json.compact (.object (failures.entries.map fun (name, text) => (name, .text text)))

def validate (v : Validator) (fields : Option (List String)) (record : Record) :
    Logged (Except ValidationError (Option Failures)) :=
  match fields with
  | some names => v.validateFields names record
  | none => v.validateAll record

def Outcome.after (o : Outcome) (line : String) (events : List Event) : Outcome :=
  ⟨line :: o.output, events ++ o.events, o.result⟩

/-- Checks the records of a stream, after `checked` others of which `invalid` were not valid. -/
def checkStream (v : Validator) (fields : Option (List String)) (checked invalid : Nat) :
    Json.Stream → Outcome
  | .finished => ⟨[], [.checked invalid checked], .ok (invalid = 0)⟩
  | .broken => ⟨[], [], .error (.notJson (checked + 1))⟩
  | .value item rest =>
    match item.asRecord? with
    | none => ⟨[], [], .error (.notRecord (checked + 1))⟩
    | some record =>
      match validate v fields record with
      | (events, .error cause) => ⟨[], events, .error (.validation cause)⟩
      | (events, .ok failures) =>
        (checkStream v fields (checked + 1) (if failures.isSome then invalid + 1 else invalid)
          rest).after (answerLine failures) events

def prepare (c : Config) (schemaText : Option String) : Logged (Except Failure Validator) :=
  match LoadedSchema.load .builtin c.schemaPath schemaText with
  | (events, .error cause) => (events, .error (.load cause))
  | (events, .ok loaded) =>
    let (built, result) :=
      Validator.logged (Validator.build loaded.schema loaded.messages (c.options loaded.options))
    (events ++ built, result.mapError (.schema c.schemaPath))

def requiredLine (v : Validator) : String :=
  Json.compact (.object (v.requiredFields.entries.map fun (name, flag) => (name, .boolean flag)))

/-- Checks the records of a text, which is absent if it cannot be read. -/
def finish (c : Config) (v : Validator) (records : Option String) : Outcome :=
  match records with
  | none => ⟨[], [], .error (.unreadableRecords c.inputPath)⟩
  | some text => checkStream v c.fields 0 0 (Json.Stream.read text)

def run (c : Config) (schemaText records : Option String) : Outcome :=
  match prepare c schemaText with
  | (events, .error failure) => ⟨[], events, .error failure⟩
  | (events, .ok v) =>
    if c.listRequired then ⟨[requiredLine v], events, .ok true⟩
    else
      let o := finish c v records
      ⟨o.output, events ++ o.events, o.result⟩

def programName : String := "fieldcheck"

def versionLine : String := programName ++ " 0.1.0"

end FieldRules.CommandLine
