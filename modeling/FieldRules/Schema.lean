import FieldRules.Messages
import FieldRules.Rule.Predicate
import FieldRules.Table.Ordered
import FieldRules.Text.Quoted

/-!
# Schemas

A field declares whether it is required, or leaves that open, and has rules in the order in which
their names came. A schema is a table of fields in the order of their declaration.
-/

namespace FieldRules

structure FieldSpec where
  required : Option Bool
  rules : OrderedTable Predicate
deriving Inhabited

namespace FieldSpec

def empty : FieldSpec := ⟨none, ∅⟩

def setRequired (s : FieldSpec) (flag : Bool) : FieldSpec := { s with required := some flag }

def require (s : FieldSpec) : FieldSpec := s.setRequired true

/-- Adds a rule; one of the same name is replaced where it stands. -/
def addRule (s : FieldSpec) (name : String) (p : Predicate) : FieldSpec :=
  { s with rules := s.rules.insert name p }

def addTest (s : FieldSpec) (name : String) (test : Json → Record → Bool) : FieldSpec :=
  s.addRule name (.ofTest test)

def addAttempt (s : FieldSpec) (name : String) (attempt : Json → Record → Except String Bool) :
    FieldSpec :=
  s.addRule name (.ofAttempt attempt)

/-- Adds a rule that may suspend, each time as often as it likes. -/
def addTask (s : FieldSpec) (name : String) (task : Json → Record → Trial) : FieldSpec :=
  s.addRule name task

def isEmpty (s : FieldSpec) : Bool := s.required.isNone && s.rules.isEmpty

/-- A field that has a rule is not empty. -/
theorem isEmpty_of_mem_names {s : FieldSpec} {rule : String} (h : rule ∈ s.rules.names) :
    s.isEmpty = false := by
  have hrules : s.rules.isEmpty = false := by
    rw [Bool.eq_false_iff, Ne, OrderedTable.isEmpty_iff_names]
    exact List.ne_nil_of_mem h
  rw [isEmpty, hrules, Bool.and_false]

def requiredText : Option Bool → String
  | none => "None"
  | some flag => "Some(" ++ (if flag then "true" else "false") ++ ")"

def debugText (s : FieldSpec) : String :=
  "FieldSpec \x7b is_required: " ++ requiredText s.required ++ ", rules: "
    ++ Text.listed (s.rules.names.map Text.quoted) ++ " \x7d"

end FieldSpec

abbrev Schema := OrderedTable FieldSpec

namespace Schema

def debugText (s : Schema) : String :=
  "Schema \x7b fields: "
    ++ Text.listed (s.entries.map fun (name, spec) =>
        "(" ++ Text.quoted name ++ ", " ++ spec.debugText ++ ")")
    ++ " \x7d"

end Schema

inductive RulesFault
  | noRules
  | emptyName
  | reservedName
deriving DecidableEq

def RulesFault.description : RulesFault → String
  | .noRules => "no rules declared"
  | .emptyName => "empty rule name"
  | .reservedName => "`isRequired` is reserved and cannot name a rule"

inductive SchemaError
  | noFields
  | messages (fault : MessagesFault)
  | rules (field : String) (fault : RulesFault)

def SchemaError.message : SchemaError → String
  | .noFields => "Invalid schema"
  | .messages fault => "Invalid messages: " ++ fault.description
  | .rules field fault => "Invalid rules for field [" ++ field ++ "]: " ++ fault.description

end FieldRules
