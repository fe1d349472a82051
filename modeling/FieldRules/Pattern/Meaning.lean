import FieldRules.Pattern.Expression
import FieldRules.Pattern.Node
import FieldRules.Unicode.Folding
import FieldRules.Unicode.Names

/-!
# Meaning of patterns

`Expression.node` gives the node of an expression: flags are applied, classes are looked up, and
case variants are added. A flag that stands by itself holds to the end of its group, over the
alternatives that follow.

Without the Unicode flag classes are sets of bytes, and a class that holds a byte beyond ASCII is
refused, because it could match a part of a character.
-/

namespace FieldRules.Pattern

structure Flags where
  ignoreCase : Bool := false
  multiLine : Bool := false
  dotMatchesNewline : Bool := false
  unicode : Bool := true
  crlf : Bool := false
  /-- Whether repetitions are lazy unless a question mark follows. -/
  swapGreed : Bool := false

namespace Flags

def set (f : Flags) (flag : Flag) (value : Bool) : Flags :=
  match flag with
  | .ignoreCase => { f with ignoreCase := value }
  | .multiLine => { f with multiLine := value }
  | .dotMatchesNewline => { f with dotMatchesNewline := value }
  | .unicode => { f with unicode := value }
  | .crlf => { f with crlf := value }
  | .swapGreed => { f with swapGreed := value }
  | .skipBlanks => f

def apply (f : Flags) (change : FlagChange) : Flags :=
  change.foldl (fun f c => f.set c.1 c.2) f

/-- The characters of a set and, where case is ignored, their variants. -/
def withVariants (f : Flags) (s : CharSet) : CharSet :=
  if !f.ignoreCase then s
  else if f.unicode then Unicode.withCaseVariants s
  else Unicode.withAsciiCaseVariants s

def negateIf (f : Flags) (negated : Bool) (s : CharSet) : Except Fault CharSet :=
  let s :=
    if negated then (if f.unicode then s.complement else s.complementTo 0xFF) else s
  if f.unicode || s.isWithin 0x7F then .ok s else .error .notText

def node (f : Flags) (s : CharSet) : Node := .ofSet (!f.unicode) s

def literal (f : Flags) (c : Char) : Node :=
  if !f.unicode && 128 ≤ c.toNat then .text [c] else f.node (f.withVariants (.single c))

end Flags

def asciiShorthand : Shorthand → List (Nat × Nat)
  | .digit => [(48, 57)]
  | .space => [(9, 13), (32, 32)]
  | .word => [(48, 57), (65, 90), (95, 95), (97, 122)]

def shorthandSet (f : Flags) (negated : Bool) (kind : Shorthand) : Except Fault CharSet :=
  f.negateIf negated <|
    if f.unicode then
      match kind with
      | .digit => Unicode.digits
      | .space => Unicode.whiteSpace
      | .word => Unicode.wordCharacters
    else .normalize (asciiShorthand kind)

def propertySet (f : Flags) (negated : Bool) (name : PropertyName) : Except Fault CharSet :=
  if !f.unicode then .error .notText
  else
    let set :=
      match name with
      | .named name => Unicode.named? name
      | .valued property value => Unicode.valued? property value
    match set with
    | some s => f.negateIf negated (f.withVariants s)
    | none => .error .unknownProperty

/-- The code of a literal inside a class; in a set of bytes only ASCII has one. -/
def literalCode (f : Flags) (c : Char) : Except Fault Nat :=
  if f.unicode || c.toNat < 128 then .ok c.toNat else .error .notText

def SetOperator.apply : SetOperator → CharSet → CharSet → CharSet
  | .intersection => CharSet.inter
  | .difference => CharSet.diff
  | .symmetricDifference => CharSet.symmDiff

mutual

def ClassItem.set (f : Flags) : ClassItem → Except Fault CharSet
  | .empty => .ok .empty
  | .literal c => do
    let n ← literalCode f c
    .ok (.range n n)
  | .range a b => do
    let first ← literalCode f a
    let last ← literalCode f b
    .ok (.range first last)
  | .posix negated ranges => f.negateIf negated (f.withVariants (.normalize ranges))
  | .shorthand negated kind => shorthandSet f negated kind
  | .property negated name => propertySet f negated name
  | .bracketed negated item => do
    let s ← ClassItem.set f item
    f.negateIf negated (f.withVariants s)
  | .union items => do
    let ss ← ClassItem.sets f items
    .ok (.unionAll ss)
  | .binary operator left right => do
    let l ← ClassItem.set f left
    let r ← ClassItem.set f right
    .ok (operator.apply (f.withVariants l) (f.withVariants r))

def ClassItem.sets (f : Flags) : List ClassItem → Except Fault (List CharSet)
  | [] => .ok []
  | item :: items => do
    let s ← ClassItem.set f item
    let ss ← ClassItem.sets f items
    .ok (s :: ss)

end

def newline : CharSet := .single '\n'
def newlineOrReturn : CharSet := newline.union (.single '\r')

def anyCharSet (f : Flags) : Except Fault CharSet :=
  if !f.unicode then .error .notText
  else if f.dotMatchesNewline then .ok .all
  else if f.crlf then .ok newlineOrReturn.complement
  else .ok newline.complement

def Assertion.condition (f : Flags) : Assertion → Condition
  | .lineStart => if f.multiLine then .lineStart f.crlf else .textStart
  | .lineEnd => if f.multiLine then .lineEnd f.crlf else .textEnd
  | .textStart => .textStart
  | .textEnd => .textEnd
  | .wordBoundary => .wordBoundary f.unicode
  | .notWordBoundary => .notWordBoundary f.unicode
  | .wordStart => .wordStart f.unicode
  | .wordEnd => .wordEnd f.unicode
  | .wordStartHalf => .wordStartHalf f.unicode
  | .wordEndHalf => .wordEndHalf f.unicode

mutual

/-- The meaning of an expression under flags, and the flags for what follows it. -/
def Expression.node (f : Flags) : Expression → Except Fault (Node × Flags)
  | .empty => .ok (.empty, f)
  | .flags change => .ok (.empty, f.apply change)
  | .literal c isByte =>
    if !f.unicode && isByte && 128 ≤ c.toNat then .error .notText else .ok (f.literal c, f)
  | .anyChar => do
    let s ← anyCharSet f
    .ok (f.node s, f)
  | .assertion kind => .ok (.condition (kind.condition f), f)
  | .shorthand negated kind => do
    let s ← shorthandSet f negated kind
    .ok (f.node s, f)
  | .property negated name => do
    let s ← propertySet f negated name
    .ok (f.node s, f)
  | .characterClass negated item => do
    let s ← item.set f
    let s ← f.negateIf negated (f.withVariants s)
    .ok (f.node s, f)
  | .repetition body least most isLazy => do
    let (n, f) ← Expression.node f body
    .ok (.repeated n least most (isLazy != f.swapGreed), f)
  | .group captures change body => do
    let (n, _) ← Expression.node (f.apply change) body
    .ok (if captures then .capture n else n, f)
  | .sequence parts => do
    let (ns, f) ← Expression.nodes f parts
    .ok (.inSequence ns, f)
  | .alternatives branches => do
    let (ns, f) ← Expression.nodes f branches
    .ok (.choice ns, f)

def Expression.nodes (f : Flags) : List Expression → Except Fault (List Node × Flags)
  | [] => .ok ([], f)
  | e :: es => do
    let (n, f) ← Expression.node f e
    let (ns, f) ← Expression.nodes f es
    .ok (n :: ns, f)

end

end FieldRules.Pattern
