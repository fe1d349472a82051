import FieldRules.Validator.Basic

/-!
# Validating records

`validateField` runs one field by itself. `validateFields` runs several together: without an
undeclared name, or where such names are ignored, the fields take turns, the first error ends the
call, and the failures are gathered by name with the messages for them.
-/

namespace FieldRules

/-- The message for each field that fails. -/
abbrev Failures := SortedTable String

namespace Validator

def runUnknown (policy : UnknownFields) (name : String) : Run ValidationError (Option String) :=
  match policy with
  | .reject => .fail (.unknownField name)
  | .ignore => .report (.skippedUnknown name) (.pure none)

def runField (v : Validator) (name : String) (record : Record) :
    Run ValidationError (Option String) :=
  match v.field? name with
  | some field => (field.run (record.get? name) record).map (Option.map v.messages.resolve)
  | none => runUnknown v.options.unknownFields name

def validateField (v : Validator) (name : String) (record : Record) :
    Logged (Except ValidationError (Option String)) :=
  (v.runField name record).alone

/-- Like `validateField`, but an undeclared name never matters. -/
def validateFieldLenient (v : Validator) (name : String) (record : Record) :
    Logged (Except ValidationError (Option String)) :=
  match v.field? name with
  | some _ => v.validateField name record
  | none => ([], .ok none)

def refused? (v : Validator) (names : List String) : Option String :=
  match v.options.unknownFields with
  | .reject => names.find? fun name => (v.field? name).isNone
  | .ignore => none

/-- The failures among the results for some names; there is no empty table of failures. -/
def gather (results : List (String × Option String)) : Option Failures :=
  let failures := results.filterMap fun (name, failure) => failure.map (name, ·)
  if failures.isEmpty then none else some (SortedTable.ofList failures)

def validateFields (v : Validator) (names : List String) (record : Record) :
    Logged (Except ValidationError (Option Failures)) :=
  match v.refused? names with
  | some name => ([], .error (.unknownField name))
  | none =>
    let runs := names.map fun name => (v.runField name record).map fun failure => (name, failure)
    let (events, results) := Run.together runs
    (events, results.map gather)

def validateAll (v : Validator) (record : Record) :
    Logged (Except ValidationError (Option Failures)) :=
  v.validateFields v.fieldNames record

end Validator

end FieldRules
