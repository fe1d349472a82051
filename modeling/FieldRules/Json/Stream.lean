import FieldRules.Json.Reader

/-!
# Streams of JSON values

A text may hold several values one after another. A number, `null`, `true` or `false` ends at a
blank, at the end of the text or before a character that cannot continue it; texts, arrays and
objects end by themselves. The values before the first fault are read whatever follows them.
-/

namespace FieldRules.Json

inductive Stream
  | finished
  | broken
  | value (head : Json) (rest : Stream)
deriving Inhabited

namespace Stream

def isDelimited : Json → Bool
  | .text _ => true
  | .array _ => true
  | .object _ => true
  | _ => false

def endsValue : List Char → Bool
  | [] => true
  | c :: _ => isBlank c || c = '"' || c = '[' || c = ']' || c = '\x7b' || c = '\x7d' || c = ','
      || c = ':'

def readFrom : (fuel : Nat) → List Char → Stream
  | 0, _ => .broken
  | fuel + 1, cs =>
    match skipBlanks cs with
    | [] => .finished
    | cs =>
      match readFront cs with
      | none => .broken
      | some (head, rest) =>
        if isDelimited head || endsValue rest then .value head (readFrom fuel rest) else .broken

/-- The stream of a text. Every value takes a character, so the length of the text bounds their
number. -/
def read (text : String) : Stream := readFrom (text.toList.length + 1) text.toList

end Stream

end FieldRules.Json
