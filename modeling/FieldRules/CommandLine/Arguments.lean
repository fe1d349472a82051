/-!
# Command line arguments

The arguments are one schema file, options with a value, and flags; words after `--` are never
options. The value of an option stands after an equals sign or in the next word, unless that word
looks like an option itself. An option without its value, and a value that may not be empty, are
faults only once the next option or file is reached; until then an unknown word comes first.
-/

namespace FieldRules.CommandLine

inductive Refusal
  | missingSchema
  | unknownArgument
  | invalidValue
  | repeated
  | needlessValue
  | help
  | version
deriving DecidableEq

inductive Slot
  | schema
  | input
  | fields
  | logLevel
deriving DecidableEq

inductive Flag
  | ignoreUnknown
  | strict
  | required
deriving DecidableEq

inductive LongOption
  | valued (slot : Slot)
  | flag (flag : Flag)
  | help
  | version

/-- What the arguments say; the names of fields come in pieces cut at commas, also empty ones. -/
structure Arguments where
  schema : Option String := none
  input : Option String := none
  fields : Option (List String) := none
  logLevel : Option String := none
  ignoreUnknown : Bool := false
  strict : Bool := false
  required : Bool := false

/-- Reading in progress: an option or file that has been begun, with its value once it is there, and
whether `--` has been passed. -/
structure Reading where
  arguments : Arguments := {}
  pending : Option (Slot × Option String) := none
  afterEscape : Bool := false

def cutAtCommas : List Char → List (List Char)
  | [] => [[]]
  | c :: cs =>
    match cutAtCommas cs with
    | [] => [[c]]
    | piece :: pieces => if c = ',' then [] :: piece :: pieces else (c :: piece) :: pieces

def pieces (text : String) : List String := (cutAtCommas text.toList).map String.ofList

def Slot.allowsEmpty : Slot → Bool
  | .fields => true
  | .logLevel => true
  | .schema => false
  | .input => false

namespace Arguments

/-- Gives an option or the file its value; only the fields may be given several times. -/
def give (a : Arguments) (slot : Slot) (value : String) : Except Refusal Arguments :=
  let once (old : Option String) (new : Arguments) : Except Refusal Arguments :=
    if old.isSome then .error .repeated
    else if value = "" && !slot.allowsEmpty then .error .invalidValue
    else .ok new
  match slot with
  | .schema => once a.schema { a with schema := some value }
  | .input => once a.input { a with input := some value }
  | .logLevel => once a.logLevel { a with logLevel := some value }
  | .fields => .ok { a with fields := some (a.fields.getD [] ++ pieces value) }

def raise (a : Arguments) (flag : Flag) : Except Refusal Arguments :=
  match flag with
  | .ignoreUnknown =>
    if a.ignoreUnknown then .error .repeated else .ok { a with ignoreUnknown := true }
  | .strict => if a.strict then .error .repeated else .ok { a with strict := true }
  | .required => if a.required then .error .repeated else .ok { a with required := true }

end Arguments

def longOption? (name : String) : Option LongOption :=
  match name with
  | "input" => some (.valued .input)
  | "fields" => some (.valued .fields)
  | "log-level" => some (.valued .logLevel)
  | "ignore-unknown" => some (.flag .ignoreUnknown)
  | "strict" => some (.flag .strict)
  | "required" => some (.flag .required)
  | "help" => some .help
  | "version" => some .version
  | _ => none

namespace Reading

def settle (r : Reading) : Except Refusal Reading :=
  match r.pending with
  | none => .ok r
  | some (_, none) => .error .invalidValue
  | some (slot, some value) => do
    .ok { r with arguments := ← r.arguments.give slot value, pending := none }

def readLong (r : Reading) (name : String) (attached : Option String) :
    Except Refusal Reading := do
  match longOption? name, attached with
  | none, _ => .error .unknownArgument
  | some (.valued slot), none =>
    let r ← r.settle
    .ok { r with pending := some (slot, none) }
  | some (.valued slot), some value =>
    let r ← r.settle
    .ok { r with arguments := ← r.arguments.give slot value }
  | some _, some _ => .error .needlessValue
  | some (.flag flag), none =>
    let r ← r.settle
    .ok { r with arguments := ← r.arguments.raise flag }
  | some .help, none =>
    let _ ← r.settle
    .error .help
  | some .version, none =>
    let _ ← r.settle
    .error .version

/-- A word of short options; the first one decides. -/
def readShort (r : Reading) (letter : Char) : Except Refusal Reading := do
  if letter = 'h' then
    let _ ← r.settle
    .error .help
  else if letter = 'V' then
    let _ ← r.settle
    .error .version
  else .error .unknownArgument

/-- A word that is no option: the value that is waited for, or the schema file. -/
def readPlain (r : Reading) (word : String) : Except Refusal Reading := do
  match r.pending, r.afterEscape with
  | some (slot, none), false => .ok { r with pending := some (slot, some word) }
  | _, _ =>
    let begun := match r.pending with
      | some (slot, _) => slot = .schema
      | none => false
    if r.arguments.schema.isSome || begun then .error .unknownArgument
    else
      let r ← r.settle
      .ok { r with pending := some (.schema, some word) }

def readWord (r : Reading) (word : String) : Except Refusal Reading :=
  if r.afterEscape then r.readPlain word
  else
    match word.toList with
    | ['-', '-'] => .ok { r with afterEscape := true }
    | '-' :: '-' :: cs =>
      let (name, attached) := cs.span (· ≠ '=')
      r.readLong (String.ofList name)
        (if attached.isEmpty then none else some (String.ofList (attached.drop 1)))
    | '-' :: c :: _ => r.readShort c
    | _ => r.readPlain word

def finish (r : Reading) : Except Refusal Arguments := do
  let r ← r.settle
  if r.arguments.schema.isNone then .error .missingSchema else .ok r.arguments

end Reading

def Arguments.read (words : List String) : Except Refusal Arguments := do
  let r ← words.foldlM Reading.readWord {}
  r.finish

end FieldRules.CommandLine
