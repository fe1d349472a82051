import FieldRules.Pattern.Expression
import FieldRules.Rule.Predicate
import FieldRules.Text.Quoted
import FieldRules.Toml.Value

/-!
# Registries of rule kinds

A registry maps the name of a rule kind to a factory, which makes a predicate from an optional
parameter.
-/

namespace FieldRules

inductive Expected
  | nonNegativeInteger
  | number
  | text
  | array
deriving DecidableEq

inductive BuildError
  | unknownKind (kind : String)
  | badParameter (kind : String) (expected : Expected)
  | badPattern (source : String) (fault : Pattern.Fault)
  | custom (text : String)
deriving DecidableEq

def Expected.description : Expected → String
  | .nonNegativeInteger => "a non-negative integer"
  | .number => "a numeric"
  | .text => "a string"
  | .array => "an array"

def BuildError.message : BuildError → String
  | .unknownKind kind => "Unknown rule kind '" ++ kind ++ "'"
  | .badParameter kind expected =>
    "Rule kind '" ++ kind ++ "' expects " ++ expected.description ++ " `value`"
  | .badPattern source _ => "Invalid pattern '" ++ source ++ "'"
  | .custom text => text

abbrev Factory := Option Toml → Except BuildError Predicate

abbrev Registry := SortedTable Factory

namespace Registry

def register (r : Registry) (kind : String) (factory : Factory) : Registry := r.insert kind factory

def kinds (r : Registry) : List String := r.names

def build (r : Registry) (kind : String) (parameter : Option Toml) : Except BuildError Predicate :=
  match r.get? kind with
  | some factory => factory parameter
  | none => .error (.unknownKind kind)

def debugText (r : Registry) : String :=
  "RuleRegistry \x7b kinds: " ++ Text.listed (r.kinds.map Text.quoted) ++ " \x7d"

end Registry

end FieldRules
