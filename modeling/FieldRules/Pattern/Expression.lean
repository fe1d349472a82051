/-!
# Pattern expressions

What a pattern says, part by part, before flags are applied and classes are looked up.
`Expression.depth` counts how deep groups, repetitions, classes, alternatives and sequences nest.
-/

namespace FieldRules.Pattern

inductive Fault
  | unclosedGroup
  | unopenedGroup
  | groupName
  | lookAround
  | flags
  | nothingToRepeat
  | repetitionCount
  | unclosedClass
  | classRange
  | escape
  | unknownProperty
  /-- The part would match something that is no character. -/
  | notText
  | nestedTooDeep
  | tooLarge
deriving DecidableEq

inductive Flag
  | ignoreCase
  | multiLine
  | dotMatchesNewline
  | swapGreed
  | unicode
  | skipBlanks
  | crlf
deriving DecidableEq

/-- Flags in the order in which they are written, each set or cleared. -/
abbrev FlagChange := List (Flag × Bool)

inductive Assertion
  | lineStart
  | lineEnd
  | textStart
  | textEnd
  | wordBoundary
  | notWordBoundary
  | wordStart
  | wordEnd
  | wordStartHalf
  | wordEndHalf
deriving DecidableEq

inductive Shorthand
  | digit
  | space
  | word
deriving DecidableEq

inductive PropertyName
  | named (name : String)
  | valued (property value : String)

inductive SetOperator
  | intersection
  | difference
  | symmetricDifference
deriving DecidableEq

inductive ClassItem
  | empty
  | literal (c : Char)
  | range (first last : Char)
  | posix (negated : Bool) (ranges : List (Nat × Nat))
  | shorthand (negated : Bool) (kind : Shorthand)
  | property (negated : Bool) (name : PropertyName)
  | bracketed (negated : Bool) (item : ClassItem)
  | union (items : List ClassItem)
  | binary (operator : SetOperator) (left right : ClassItem)
deriving Inhabited

/-- A part of a pattern. A literal is a byte when it is written with two hexadecimal digits. A lazy
repetition prefers the shorter match; whether there is a match does not depend on it. -/
inductive Expression
  | empty
  | flags (change : FlagChange)
  | literal (c : Char) (isByte : Bool)
  | anyChar
  | assertion (kind : Assertion)
  | shorthand (negated : Bool) (kind : Shorthand)
  | property (negated : Bool) (name : PropertyName)
  | characterClass (negated : Bool) (item : ClassItem)
  | repetition (body : Expression) (least : Nat) (most : Option Nat) (isLazy : Bool)
  | group (captures : Bool) (change : FlagChange) (body : Expression)
  | sequence (parts : List Expression)
  | alternatives (branches : List Expression)
deriving Inhabited

namespace ClassItem

def ofList : List ClassItem → ClassItem
  | [] => .empty
  | [x] => x
  | xs => .union xs

mutual

def depth : ClassItem → Nat
  | .bracketed _ item => item.depth + 1
  | .union items => maxDepth items + 1
  | .binary _ left right => max left.depth right.depth + 1
  | _ => 0

def maxDepth : List ClassItem → Nat
  | [] => 0
  | x :: xs => max x.depth (maxDepth xs)

end

end ClassItem

namespace Expression

def ofParts : List Expression → Expression
  | [] => .empty
  | [x] => x
  | xs => .sequence xs

def ofBranches : List Expression → Expression
  | [] => .empty
  | [x] => x
  | xs => .alternatives xs

mutual

def depth : Expression → Nat
  | .characterClass _ item => item.depth + 1
  | .repetition body _ _ _ => body.depth + 1
  | .group _ _ body => body.depth + 1
  | .sequence parts => maxDepth parts + 1
  | .alternatives branches => maxDepth branches + 1
  | _ => 0

def maxDepth : List Expression → Nat
  | [] => 0
  | x :: xs => max x.depth (maxDepth xs)

end

end Expression

end FieldRules.Pattern
