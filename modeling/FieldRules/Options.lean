/-!
# Options of a validator
-/

namespace FieldRules

/-- What happens to a name that the schema does not declare: validating it is an error, or it is
skipped with a warning. -/
inductive UnknownFields
  | reject
  | ignore
deriving DecidableEq, Inhabited

/-- With `strictRules`, a field must declare whether it is required or have a rule. -/
structure Options where
  unknownFields : UnknownFields := .reject
  strictRules : Bool := false
deriving DecidableEq, Inhabited

def boolText (b : Bool) : String := if b then "true" else "false"

def UnknownFields.show : UnknownFields → String
  | .reject => "Reject"
  | .ignore => "Ignore"

def Options.show (o : Options) : String :=
  "ValidatorOptions \x7b unknown_fields: " ++ o.unknownFields.show ++ ", strict_rules: "
    ++ boolText o.strictRules ++ " \x7d"

end FieldRules
