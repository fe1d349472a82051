import FieldRules.Rule.Registry
import FieldRules.Toml.Reader
import FieldRules.Validator.Basic

/-!
# Schema files

A schema file holds options, messages and a list of fields, each with a list of rules. `ofToml?`
takes these from a TOML table and ignores keys that it does not know. Where a table with fixed keys
is expected, an array with their values in order will do as well; only keys with a default may be
left out at its end.
-/

namespace FieldRules

structure RuleEntry where
  name : String
  kind : Option String
  parameter : Option Toml

def RuleEntry.kindName (r : RuleEntry) : String := r.kind.getD r.name

structure FieldEntry where
  name : String
  required : Option Bool
  rules : List RuleEntry

structure SchemaFile where
  options : Options
  messages : Option Toml
  fields : List FieldEntry

namespace SchemaFile

/-- The date or time that a table stands for if its first key is the one for dates and times. -/
def datetimeTable? : Entries Toml → Option (Option Toml)
  | (key, value) :: _ =>
    if key = Toml.datetimeKey then
      match value with
      | .text s => some ((Toml.Datetime.read? s.toList).map .datetime)
      | _ => some none
    else none
  | [] => none

mutual

/-- A value that may be anything but an integer of more than 64 bits; a table that stands for a date
or time becomes one. -/
def free? : Toml → Option Toml
  | .integer n =>
    if -0x8000000000000000 ≤ n ∧ n ≤ 0x7FFFFFFFFFFFFFFF then some (.integer n) else none
  | .array items => (freeItems? items).map .array
  | .table entries =>
    match datetimeTable? entries with
    | some value => value
    | none => (freeEntries? entries).map .table
  | value => some value

def freeItems? : List Toml → Option (List Toml)
  | [] => some []
  | x :: xs => do some ((← free? x) :: (← freeItems? xs))

def freeEntries? : Entries Toml → Option (Entries Toml)
  | [] => some []
  | (k, x) :: xs => do some ((k, ← free? x) :: (← freeEntries? xs))

end

def text? : Toml → Option String
  | .text s => some s
  | _ => none

def flag? : Toml → Option Bool
  | .boolean b => some b
  | _ => none

def list? (item? : Toml → Option α) : Toml → Option (List α)
  | .array items => items.mapM item?
  | _ => none

/-- The value under a key: `none` if it is there and is not what is expected. -/
def at? (entries : Entries Toml) (key : String) (expected? : Toml → Option α) :
    Option (Option α) :=
  match entries.look key with
  | some value => (expected? value).map some
  | none => some none

def place? (items : List Toml) (i : Nat) (expected? : Toml → Option α) : Option (Option α) :=
  match items[i]? with
  | some value => (expected? value).map some
  | none => some none

def policyNamed? (name : String) : Option UnknownFields :=
  if name = "reject" then some .reject
  else if name = "ignore" then some .ignore
  else none

/-- A policy by its name, which may stand as the only key of a table over nothing. -/
def policy? : Toml → Option UnknownFields
  | .text name => policyNamed? name
  | .table [(name, .table [])] => policyNamed? name
  | .table [(name, .array [])] => policyNamed? name
  | _ => none

def options? : Toml → Option Options
  | .table entries => do
    let policy ← at? entries "unknown_fields" policy?
    let strict ← at? entries "strict_rules" flag?
    some ⟨policy.getD .reject, strict.getD false⟩
  | .array items => do
    let policy ← place? items 0 policy?
    let strict ← place? items 1 flag?
    some ⟨policy.getD .reject, strict.getD false⟩
  | .datetime _ => some {}
  | _ => none

def rule? : Toml → Option RuleEntry
  | .table entries => do
    let name ← (← at? entries "name" text?)
    some ⟨name, ← at? entries "kind" text?, ← at? entries "value" free?⟩
  | .array items => do
    let name ← (← place? items 0 text?)
    let kind ← (← place? items 1 text?)
    let value ← (← place? items 2 free?)
    some ⟨name, some kind, some value⟩
  | _ => none

def field? : Toml → Option FieldEntry
  | .table entries => do
    let name ← (← at? entries "name" text?)
    let required ← at? entries "required" flag?
    let rules ← at? entries "rule" (list? rule?)
    some ⟨name, required, rules.getD []⟩
  | .array items => do
    let name ← (← place? items 0 text?)
    let required ← (← place? items 1 flag?)
    let rules ← place? items 2 (list? rule?)
    some ⟨name, some required, rules.getD []⟩
  | _ => none

def ofToml? : Toml → Option SchemaFile
  | .table entries => do
    let options ← at? entries "options" options?
    let messages ← at? entries "messages" free?
    let fields ← at? entries "field" (list? field?)
    some ⟨options.getD {}, messages, fields.getD []⟩
  | _ => none

def read? (text : String) : Option SchemaFile := (Toml.read? text).bind ofToml?

end SchemaFile

end FieldRules
