import FieldRules.Json.Numeral

/-!
# Reading JSON

Each function reads at the front of a list of characters and returns what follows, or `none` if the
front is not what it should be. Arrays and objects nest to a depth of at most `maxDepth`; of several
members with one key the last counts.
-/

namespace FieldRules.Json

def isBlank (c : Char) : Bool := c = ' ' || c = '\t' || c = '\n' || c = '\r'

def skipBlanks (cs : List Char) : List Char := cs.dropWhile isBlank

def hexValue? (c : Char) : Option Nat :=
  if c.isDigit then some (c.toNat - 48)
  else if 'a' ≤ c ∧ c ≤ 'f' then some (c.toNat - 87)
  else if 'A' ≤ c ∧ c ≤ 'F' then some (c.toNat - 55)
  else none

def hex4? (a b c d : Char) : Option Nat := do
  let high := (← hexValue? a) * 16 + (← hexValue? b)
  let low := (← hexValue? c) * 16 + (← hexValue? d)
  some (high * 256 + low)

def isHighSurrogate (n : Nat) : Bool := 0xD800 ≤ n && n < 0xDC00
def isLowSurrogate (n : Nat) : Bool := 0xDC00 ≤ n && n < 0xE000

def simpleEscape? : Char → Option Char
  | '"' => some '"'
  | '\\' => some '\\'
  | '/' => some '/'
  | 'b' => some (Char.ofNat 8)
  | 'f' => some (Char.ofNat 12)
  | 'n' => some '\n'
  | 'r' => some '\r'
  | 't' => some '\t'
  | _ => none

/-- Reads a text up to its closing quote; `done` holds the characters read so far, last first. -/
def readTextFrom (done : List Char) : List Char → Option (String × List Char)
  | '"' :: rest => some (String.ofList done.reverse, rest)
  | '\\' :: 'u' :: a :: b :: c :: d :: rest =>
    match hex4? a b c d with
    | none => none
    | some n =>
      if isHighSurrogate n then
        match rest with
        | '\\' :: 'u' :: a :: b :: c :: d :: rest =>
          match hex4? a b c d with
          | some m =>
            if isLowSurrogate m then
              readTextFrom (Char.ofNat (0x10000 + (n - 0xD800) * 0x400 + (m - 0xDC00)) :: done) rest
            else none
          | none => none
        | _ => none
      else if isLowSurrogate n then none
      else readTextFrom (Char.ofNat n :: done) rest
  | '\\' :: c :: rest =>
    match simpleEscape? c with
    | some e => readTextFrom (e :: done) rest
    | none => none
  | c :: rest => if c.toNat < 32 then none else readTextFrom (c :: done) rest
  | [] => none

def maxDepth : Nat := 127

mutual

def readValue : (fuel depth : Nat) → List Char → Option (Json × List Char)
  | 0, _, _ => none
  | fuel + 1, depth, cs =>
    match cs with
    | 'n' :: 'u' :: 'l' :: 'l' :: rest => some (.null, rest)
    | 't' :: 'r' :: 'u' :: 'e' :: rest => some (.boolean true, rest)
    | 'f' :: 'a' :: 'l' :: 's' :: 'e' :: rest => some (.boolean false, rest)
    | '"' :: rest => (readTextFrom [] rest).map fun (s, rest) => (.text s, rest)
    | '[' :: rest =>
      match depth with
      | 0 => none
      | depth + 1 =>
        match skipBlanks rest with
        | ']' :: rest => some (.array [], rest)
        | rest => (readItems fuel depth [] rest).map fun (xs, rest) => (.array xs, rest)
    | '\x7b' :: rest =>
      match depth with
      | 0 => none
      | depth + 1 =>
        match skipBlanks rest with
        | '\x7d' :: rest => some (.object [], rest)
        | rest =>
          (readMembers fuel depth [] rest).map fun (ms, rest) =>
            (.ofTable (SortedTable.ofList ms), rest)
    | cs => (readNumber cs).map fun (n, rest) => (.number n, rest)

def readItems : (fuel depth : Nat) → List Json → List Char → Option (List Json × List Char)
  | 0, _, _, _ => none
  | fuel + 1, depth, done, cs =>
    match readValue fuel depth (skipBlanks cs) with
    | none => none
    | some (x, rest) =>
      match skipBlanks rest with
      | ',' :: rest => readItems fuel depth (x :: done) rest
      | ']' :: rest => some ((x :: done).reverse, rest)
      | _ => none

def readMembers :
    (fuel depth : Nat) → Entries Json → List Char → Option (Entries Json × List Char)
  | 0, _, _, _ => none
  | fuel + 1, depth, done, cs =>
    match skipBlanks cs with
    | '"' :: rest =>
      match readTextFrom [] rest with
      | none => none
      | some (key, rest) =>
        match skipBlanks rest with
        | ':' :: rest =>
          match readValue fuel depth (skipBlanks rest) with
          | none => none
          | some (x, rest) =>
            match skipBlanks rest with
            | ',' :: rest => readMembers fuel depth ((key, x) :: done) rest
            | '\x7d' :: rest => some (((key, x) :: done).reverse, rest)
            | _ => none
        | _ => none
    | _ => none

end

/-- Reads the value at the front of a text. Every call reads a character or is followed by one that
does, so twice the length of the text bounds the depth of calls. -/
def readFront (cs : List Char) : Option (Json × List Char) :=
  readValue (2 * cs.length + 2) maxDepth cs

/-- Reads a text that is one value with blanks around it. -/
def read? (text : String) : Option Json :=
  match readFront (skipBlanks text.toList) with
  | some (value, rest) => if (skipBlanks rest).isEmpty then some value else none
  | none => none

end FieldRules.Json
