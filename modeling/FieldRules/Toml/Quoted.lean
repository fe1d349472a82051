/-!
# TOML texts in quotes

Basic texts have escapes, literal texts have none; both come on one line or on several. A newline
right after three opening quotes is dropped, a backslash at the end of a line takes the white space
up to the next visible character with it, and up to two quotes may stand before the three that
close.
-/

namespace FieldRules.Toml

/-- Controls other than the tab are not allowed in texts and comments. -/
def isVisible (c : Char) : Bool := c = '\t' || (32 ≤ c.toNat && c.toNat ≠ 127)

def hexDigit? (c : Char) : Option Nat :=
  if c.isDigit then some (c.toNat - 48)
  else if 'a' ≤ c ∧ c ≤ 'f' then some (c.toNat - 87)
  else if 'A' ≤ c ∧ c ≤ 'F' then some (c.toNat - 55)
  else none

def readHex? : (count value : Nat) → List Char → Option (Char × List Char)
  | 0, value, cs => if value.isValidChar then some (Char.ofNat value, cs) else none
  | count + 1, value, c :: cs => (hexDigit? c).bind fun d => readHex? count (value * 16 + d) cs
  | _ + 1, _, [] => none

def readEscape? : List Char → Option (Char × List Char)
  | 'b' :: cs => some (Char.ofNat 8, cs)
  | 't' :: cs => some ('\t', cs)
  | 'n' :: cs => some ('\n', cs)
  | 'f' :: cs => some (Char.ofNat 12, cs)
  | 'r' :: cs => some ('\r', cs)
  | 'e' :: cs => some (Char.ofNat 27, cs)
  | '"' :: cs => some ('"', cs)
  | '\\' :: cs => some ('\\', cs)
  | 'x' :: cs => readHex? 2 0 cs
  | 'u' :: cs => readHex? 4 0 cs
  | 'U' :: cs => readHex? 8 0 cs
  | _ => none

def readBasic : (fuel : Nat) → (done : List Char) → List Char → Option (String × List Char)
  | 0, _, _ => none
  | fuel + 1, done, cs =>
    match cs with
    | '"' :: cs => some (String.ofList done.reverse, cs)
    | '\\' :: cs => (readEscape? cs).bind fun (c, cs) => readBasic fuel (c :: done) cs
    | c :: cs => if isVisible c then readBasic fuel (c :: done) cs else none
    | [] => none

def readLiteral (done : List Char) : List Char → Option (String × List Char)
  | '\'' :: cs => some (String.ofList done.reverse, cs)
  | c :: cs => if isVisible c then readLiteral (c :: done) cs else none
  | [] => none

/-- White space between lines, a newline being a line feed with or without a return before it. -/
def dropLineSpace : List Char → List Char
  | ' ' :: cs => dropLineSpace cs
  | '\t' :: cs => dropLineSpace cs
  | '\n' :: cs => dropLineSpace cs
  | '\r' :: '\n' :: cs => dropLineSpace cs
  | cs => cs

def dropNewline : List Char → List Char
  | '\n' :: cs => cs
  | '\r' :: '\n' :: cs => cs
  | cs => cs

/-- What follows the white space at the end of a line, if nothing else stands there. -/
def afterLineEnd? (cs : List Char) : Option (List Char) :=
  match cs.dropWhile fun c => c = ' ' || c = '\t' with
  | '\n' :: cs => some (dropLineSpace cs)
  | '\r' :: '\n' :: cs => some (dropLineSpace cs)
  | _ => none

/-- Reads at a run of three or more quotes, which closes the text: the rest is what follows three of
them, or five when there are so many, and the first ones belong to the text. -/
def closeQuotes (quote : Char) (done cs : List Char) : String × List Char :=
  let extra := min 2 ((cs.takeWhile (· = quote)).length - 3)
  (String.ofList (done.reverse ++ List.replicate extra quote), cs.drop (extra + 3))

def readLongBasic : (fuel : Nat) → (done : List Char) → List Char → Option (String × List Char)
  | 0, _, _ => none
  | fuel + 1, done, cs =>
    match cs with
    | '"' :: '"' :: '"' :: _ => some (closeQuotes '"' done cs)
    | '\\' :: cs =>
      match afterLineEnd? cs with
      | some cs => readLongBasic fuel done cs
      | none => (readEscape? cs).bind fun (c, cs) => readLongBasic fuel (c :: done) cs
    | '\n' :: cs => readLongBasic fuel ('\n' :: done) cs
    | '\r' :: '\n' :: cs => readLongBasic fuel ('\n' :: '\r' :: done) cs
    | c :: cs => if isVisible c then readLongBasic fuel (c :: done) cs else none
    | [] => none

def readLongLiteral (done : List Char) : List Char → Option (String × List Char)
  | '\'' :: '\'' :: '\'' :: cs => some (closeQuotes '\'' done ('\'' :: '\'' :: '\'' :: cs))
  | '\n' :: cs => readLongLiteral ('\n' :: done) cs
  | '\r' :: '\n' :: cs => readLongLiteral ('\n' :: '\r' :: done) cs
  | c :: cs => if isVisible c then readLongLiteral (c :: done) cs else none
  | [] => none

def readQuoted (cs : List Char) : Option (String × List Char) :=
  match cs with
  | '"' :: '"' :: '"' :: cs => readLongBasic (cs.length + 1) [] (dropNewline cs)
  | '"' :: cs => readBasic (cs.length + 1) [] cs
  | '\'' :: '\'' :: '\'' :: cs => readLongLiteral [] (dropNewline cs)
  | '\'' :: cs => readLiteral [] cs
  | _ => none

end FieldRules.Toml
