import FieldRules.Run
import FieldRules.Schema

/-!
# Compiled fields

Compiling a field checks the names of its rules and settles whether it is required. A value that is
absent, null or the empty text never reaches a rule; any other value goes through the rules in order
up to the first that does not pass.
-/

namespace FieldRules

inductive ValidationError
  | unknownField (field : String)
  | rule (field rule source : String)
deriving DecidableEq

def ValidationError.message : ValidationError → String
  | .unknownField field => "Field [" ++ field ++ "] not in schema"
  | .rule field name source => "Rule [" ++ name ++ "] on field [" ++ field ++ "] failed: " ++ source

structure Field where
  name : String
  required : Bool
  rules : Entries Predicate

namespace Field

/-- What fails when a required field has no value. -/
def requiredRule : String := "isRequired"

def ruleNameFault? (name : String) : Option RulesFault :=
  if name = "" then some .emptyName
  else if name = requiredRule then some .reservedName
  else none

def fault? (spec : FieldSpec) (strict : Bool) : Option RulesFault :=
  if strict && spec.isEmpty then some .noRules else spec.rules.names.findSome? ruleNameFault?

def compile (name : String) (spec : FieldSpec) (strict : Bool) : Except SchemaError Field :=
  match fault? spec strict with
  | some fault => .error (.rules name fault)
  | none => .ok ⟨name, spec.required.getD false, spec.rules.entries⟩

/-- A value is there unless it is null or the empty text. -/
def hasContent : Json → Bool
  | .null => false
  | .text s => s ≠ ""
  | _ => true

/-- Goes through rules up to the first that fails, whose name is the result, or ends in an error. -/
def runRules (field : String) (value : Json) (record : Record) :
    Entries Predicate → Run ValidationError (Option String)
  | [] => .pure none
  | (rule, predicate) :: rest =>
    let trial := predicate value record
    .delay trial.suspensions <|
      match trial.verdict with
      | .error source => .fail (.rule field rule source)
      | .ok passed =>
        .report (.verdict field rule passed) <|
          if passed then runRules field value record rest else .pure (some rule)

/-- The run of a field on a value, if there is one; its result is the name of what fails. -/
def run (f : Field) (value : Option Json) (record : Record) :
    Run ValidationError (Option String) :=
  match value.filter hasContent with
  | some value => runRules f.name value record f.rules
  | none => .pure (if f.required then some requiredRule else none)

def debugText (f : Field) : String :=
  "FieldValidator \x7b field: " ++ Text.quoted f.name ++ ", required: " ++ boolText f.required
    ++ ", rules: " ++ Text.listed (f.rules.names.map Text.quoted) ++ " \x7d"

end Field

end FieldRules
