import FieldRules.Field

/-!
# Validators

A validator has its schema, its messages and its options, and one compiled field for each field of
the schema, in the same order. That the fields are what the schema compiles to under the options is
part of the type, so every validator is one that `build` makes. `build` compiles everything up
front; `extend` builds a new validator from edited copies of the schema and the messages of another.
-/

namespace FieldRules

def Validator.compileAll (strict : Bool) : Entries FieldSpec → Except SchemaError (List Field)
  | [] => .ok []
  | (name, spec) :: rest => do
    let field ← Field.compile name spec strict
    let fields ← compileAll strict rest
    .ok (field :: fields)

structure Validator where
  schema : Schema
  messages : Messages
  options : Options
  fields : List Field
  declared : schema.isEmpty = false
  compiled : Validator.compileAll options.strictRules schema.entries = .ok fields

namespace Validator

def build (schema : Schema) (messages : Messages) (options : Options) :
    Except SchemaError Validator :=
  if hempty : schema.isEmpty then .error .noFields
  else
    match hfields : compileAll options.strictRules schema.entries with
    | .error e => .error e
    | .ok fields => .ok ⟨schema, messages, options, fields, Bool.eq_false_iff.mpr hempty, hfields⟩

def logged (built : Except SchemaError Validator) : Logged (Except SchemaError Validator) :=
  match built with
  | .ok v => ([.compiled v.fields.length v.options], built)
  | .error _ => ([], built)

def extend (v : Validator) (editSchema : Schema → Schema) (editMessages : Messages → Messages) :
    Except SchemaError Validator :=
  build (editSchema v.schema) (editMessages v.messages) v.options

def extendSchema (v : Validator) (edit : Schema → Schema) : Except SchemaError Validator :=
  v.extend edit id

def extendMessages (v : Validator) (edit : Messages → Messages) : Except SchemaError Validator :=
  v.extend id edit

def fieldNames (v : Validator) : List String := v.fields.map Field.name

def field? (v : Validator) (name : String) : Option Field := v.fields.find? fun f => f.name = name

def index (v : Validator) : SortedTable Nat := SortedTable.ofList v.fieldNames.zipIdx

def requiredFields (v : Validator) : SortedTable Bool :=
  SortedTable.ofList ((v.fields.filter Field.required).map fun f => (f.name, true))

end Validator

end FieldRules
