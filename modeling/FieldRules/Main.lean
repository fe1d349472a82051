import FieldRules.CommandLine.Check

/-!
# The command line program

Reads the files that a run asks for, and prints its lines to the standard output, its events and its
failure to the standard error.
-/

namespace FieldRules.CommandLine

def usageLines : List String :=
  ["Validate JSON records against a TOML field schema",
    "",
    "Usage: fieldcheck [OPTIONS] <SCHEMA>",
    "",
    "Arguments:",
    "  <SCHEMA>  Path to the TOML schema file",
    "",
    "Options:",
    "      --input <INPUT>          Read records from this file instead of stdin",
    "      --fields <FIELDS>        Comma-separated fields to validate",
    "      --ignore-unknown         Skip unknown fields with a warning instead of failing",
    "      --strict                 Reject fields that declare no rules",
    "      --required               Print the required fields and exit",
    "      --log-level <LOG_LEVEL>  Log level (trace, debug, info, warn, error) [default: warn]",
    "  -h, --help                   Print help",
    "  -V, --version                Print version"]

def usage : String := String.intercalate "\n" usageLines

def Refusal.text : Refusal → String
  | .missingSchema => "error: the following required arguments were not provided:\n  <SCHEMA>"
  | .unknownArgument => "error: unexpected argument found"
  | .invalidValue => "error: a value is required for an option but none was supplied"
  | .repeated => "error: an argument cannot be used multiple times"
  | .needlessValue => "error: unexpected value for an option that takes none"
  | .help => usage
  | .version => versionLine

def readFile (path : String) : IO (Option String) := do
  try
    return String.fromUTF8? (← IO.FS.readBinFile path)
  catch _ => return none

partial def readRest (stream : IO.FS.Stream) (done : ByteArray) : IO ByteArray := do
  let more ← stream.read 65536
  if more.isEmpty then return done else readRest stream (done ++ more)

def readRecords (c : Config) : IO (Option String) := do
  match c.inputPath with
  | some path => readFile path
  | none =>
    try
      return String.fromUTF8? (← readRest (← IO.getStdin) .empty)
    catch _ => return none

def printOutcome (c : Config) (o : Outcome) : IO UInt32 := do
  for e in shown c.logLevel o.events do IO.eprintln e.line
  for line in o.output do IO.println line
  match o.result with
  | .error failure => IO.eprintln ("Error: " ++ failure.message)
  | .ok _ => pure ()
  return if o.exitCode = 0 then 0 else 1

def runProgram (words : List String) : IO UInt32 := do
  match Config.read words with
  | .error .help => IO.println usage; return 0
  | .error .version => IO.println versionLine; return 0
  | .error refusal => IO.eprintln refusal.text; return 2
  | .ok c =>
    let schemaText ← readFile c.schemaPath
    match (prepare c schemaText).2 with
    | .error _ => printOutcome c (run c schemaText none)
    | .ok _ =>
      let records ← if c.listRequired then pure none else readRecords c
      printOutcome c (run c schemaText records)

end FieldRules.CommandLine

def main (words : List String) : IO UInt32 := FieldRules.CommandLine.runProgram words
