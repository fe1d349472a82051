import FieldRules.Toml.Document
import FieldRules.Toml.Quoted
import FieldRules.Toml.Scalar

/-!
# Reading TOML

A document is a list of lines, each with at most one statement. Inside arrays and inline tables
blanks, newlines and comments may stand between any two parts but those of a key, and a comma may
stand after the last element. Arrays and inline tables nest to a depth of at most `maxDepth`, and a
key has at most `maxKeyParts` parts.
-/

namespace FieldRules.Toml

def skipBlanks (cs : List Char) : List Char := cs.dropWhile fun c => c = ' ' || c = '\t'

def skipComment : List Char → List Char
  | '#' :: cs => cs.dropWhile isVisible
  | cs => cs

def endLine? (cs : List Char) : Option (List Char) :=
  match skipComment (skipBlanks cs) with
  | [] => some []
  | '\n' :: cs => some cs
  | '\r' :: '\n' :: cs => some cs
  | _ => none

/-- Skips blanks, newlines and comments. A comment that ends in no newline stops there. -/
def skipFiller : (inComment : Bool) → List Char → List Char
  | false, ' ' :: cs => skipFiller false cs
  | false, '\t' :: cs => skipFiller false cs
  | false, '#' :: cs => skipFiller true cs
  | _, '\n' :: cs => skipFiller false cs
  | _, '\r' :: '\n' :: cs => skipFiller false cs
  | true, c :: cs => if isVisible c then skipFiller true cs else c :: cs
  | false, cs => cs
  | true, [] => []

def isBareKeyChar (c : Char) : Bool := c.isAlphanum || c = '_' || c = '-'

def readKeyPart (cs : List Char) : Option (String × List Char) :=
  match cs with
  | '"' :: cs => readBasic (cs.length + 1) [] cs
  | '\'' :: cs => readLiteral [] cs
  | cs =>
    match cs.span isBareKeyChar with
    | ([], _) => none
    | (key, rest) => some (String.ofList key, rest)

/-- Reads a key with its dots and the blanks around it; earlier parts come last first. -/
def readKeyFrom : (fuel : Nat) → (done : List String) → List Char → Option (Key × List Char)
  | 0, _, _ => none
  | fuel + 1, done, cs => do
    let (part, rest) ← readKeyPart (skipBlanks cs)
    match skipBlanks rest with
    | '.' :: rest => readKeyFrom fuel (part :: done) rest
    | rest => some ((done.reverse, part), rest)

def maxKeyParts : Nat := 80

def readKey (cs : List Char) : Option (Key × List Char) := do
  let (key, rest) ← readKeyFrom (cs.length + 1) [] cs
  if key.1.length < maxKeyParts then some (key, rest) else none

def maxDepth : Nat := 80

mutual

def readValue : (fuel depth : Nat) → List Char → Option (Toml × List Char)
  | 0, _, _ => none
  | fuel + 1, depth, cs =>
    match cs with
    | '"' :: _ => (readQuoted cs).map fun (s, rest) => (.text s, rest)
    | '\'' :: _ => (readQuoted cs).map fun (s, rest) => (.text s, rest)
    | '[' :: rest =>
      match depth with
      | 0 => none
      | depth + 1 =>
        (readItems fuel depth [] rest).map fun (items, rest) => (.array items, rest)
    | '\x7b' :: rest =>
      match depth with
      | 0 => none
      | depth + 1 => do
        let (pairs, rest) ← readPairs fuel depth [] rest
        some (← Draft.table? pairs, rest)
    | cs => readScalar cs

def readItems : (fuel depth : Nat) → List Toml → List Char → Option (List Toml × List Char)
  | 0, _, _, _ => none
  | fuel + 1, depth, done, cs =>
    match skipFiller false cs with
    | ']' :: rest => some (done.reverse, rest)
    | cs => do
      let (x, rest) ← readValue fuel depth cs
      match skipFiller false rest with
      | ',' :: rest => readItems fuel depth (x :: done) rest
      | ']' :: rest => some ((x :: done).reverse, rest)
      | _ => none

def readPairs :
    (fuel depth : Nat) → List Statement → List Char → Option (List Statement × List Char)
  | 0, _, _, _ => none
  | fuel + 1, depth, done, cs =>
    match skipFiller false cs with
    | '\x7d' :: rest => some (done.reverse, rest)
    | cs => do
      let (key, rest) ← readKey cs
      match skipFiller false rest with
      | '=' :: rest =>
        let (x, rest) ← readValue fuel depth (skipFiller false rest)
        match skipFiller false rest with
        | ',' :: rest => readPairs fuel depth (.pair key x :: done) rest
        | '\x7d' :: rest => some ((.pair key x :: done).reverse, rest)
        | _ => none
      | _ => none

end

/-- Reads the statement of a line, if it has one, up to the end of the line. -/
def readLine (cs : List Char) : Option (Option Statement × List Char) :=
  match skipBlanks cs with
  | [] => some (none, [])
  | '\n' :: rest => some (none, rest)
  | '\r' :: '\n' :: rest => some (none, rest)
  | '#' :: rest => (endLine? ('#' :: rest)).map (none, ·)
  | '[' :: '[' :: rest => do
    let (key, rest) ← readKey rest
    match rest with
    | ']' :: ']' :: rest => some (some (.element key), ← endLine? rest)
    | _ => none
  | '[' :: rest => do
    let (key, rest) ← readKey rest
    match rest with
    | ']' :: rest => some (some (.table key), ← endLine? rest)
    | _ => none
  | cs => do
    let (key, rest) ← readKey cs
    match rest with
    | '=' :: rest =>
      let rest := skipBlanks rest
      let (x, rest) ← readValue (2 * rest.length + 2) maxDepth rest
      some (some (.pair key x), ← endLine? rest)
    | _ => none

def readLines : (fuel : Nat) → List Statement → List Char → Option (List Statement)
  | 0, _, _ => none
  | _ + 1, done, [] => some done.reverse
  | fuel + 1, done, cs => do
    let (statement, rest) ← readLine cs
    readLines fuel (statement.toList ++ done) rest

/-- Reads a document, after a byte order mark if there is one. Every line takes a character, so the
length of the text bounds their number. -/
def read? (text : String) : Option Toml := do
  let cs := text.toList
  let cs := if cs.head? = some (Char.ofNat 0xFEFF) then cs.drop 1 else cs
  Draft.table? (← readLines (cs.length + 1) [] cs)

end FieldRules.Toml
