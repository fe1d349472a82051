import FieldRules.SchemaFile.Basic

/-!
# From schema files to validators

`resolve` builds every rule through a registry, in the order of the file, and reads the messages.
Entries of one name are one field, and the last of them counts; the same holds for the rules of a
field. An error has a chain of texts, outermost first; it ends where the text of a reader begins,
since those texts are not part of the library.
-/

namespace FieldRules

structure LoadedSchema where
  schema : Schema
  messages : Messages
  options : Options

def LoadedSchema.build (l : LoadedSchema) : Except SchemaError Validator :=
  Validator.build l.schema l.messages l.options

inductive ResolveError
  | rule (rule field : String) (cause : BuildError)
  | messages (fault : MessagesFault)

inductive ParseError
  | notSchemaFile
  | unresolved (cause : ResolveError)

inductive LoadError
  | unreadable (path : String)
  | invalid (path : String) (cause : ParseError)

def ResolveError.chain : ResolveError → List String
  | .rule name field cause =>
    ["Failed to build rule '" ++ name ++ "' for field '" ++ field ++ "'", cause.message]
  | .messages fault => [SchemaError.message (.messages fault)]

def ParseError.chain : ParseError → List String
  | .notSchemaFile => ["Failed to parse schema TOML"]
  | .unresolved cause => cause.chain

def LoadError.chain : LoadError → List String
  | .unreadable path => ["Failed to read schema file: " ++ path]
  | .invalid path cause => ("Invalid schema file: " ++ path) :: cause.chain

namespace SchemaFile

def addRules (registry : Registry) (field : String) (spec : FieldSpec) :
    List RuleEntry → Except ResolveError FieldSpec
  | [] => .ok spec
  | entry :: rest =>
    match registry.build entry.kindName entry.parameter with
    | .ok predicate => addRules registry field (spec.addRule entry.name predicate) rest
    | .error cause => .error (.rule entry.name field cause)

def fieldSpec (registry : Registry) (entry : FieldEntry) : Except ResolveError FieldSpec :=
  let spec : FieldSpec :=
    match entry.required with
    | some flag => FieldSpec.empty.setRequired flag
    | none => .empty
  addRules registry entry.name spec entry.rules

def addFields (registry : Registry) (schema : Schema) :
    List FieldEntry → Except ResolveError Schema
  | [] => .ok schema
  | entry :: rest => do
    let spec ← fieldSpec registry entry
    addFields registry (schema.insert entry.name spec) rest

def readMessages : Option Toml → Except ResolveError Messages
  | none => .ok ∅
  | some value => (Messages.ofJson value.toJson).mapError .messages

def resolve (registry : Registry) (file : SchemaFile) : Except ResolveError LoadedSchema := do
  let schema ← addFields registry ∅ file.fields
  let messages ← readMessages file.messages
  .ok ⟨schema, messages, file.options⟩

end SchemaFile

namespace LoadedSchema

def parse (registry : Registry) (text : String) : Except ParseError LoadedSchema :=
  match SchemaFile.read? text with
  | none => .error .notSchemaFile
  | some file => (file.resolve registry).mapError .unresolved

def load (registry : Registry) (path : String) (content : Option String) :
    Logged (Except LoadError LoadedSchema) :=
  match content with
  | none => ([], .error (.unreadable path))
  | some text =>
    match parse registry text with
    | .error cause => ([], .error (.invalid path cause))
    | .ok loaded => ([.loaded path loaded.schema.size], .ok loaded)

end LoadedSchema

end FieldRules
