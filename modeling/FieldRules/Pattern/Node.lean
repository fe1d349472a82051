import FieldRules.Unicode.CharSet

/-!
# Patterns in simple form

A `Node` is a pattern over sets of characters and conditions on positions. The functions that build
nodes keep them simple: `ofSet` turns a set of one character into a text, `inSequence` joins texts
and leaves out what reads nothing, and `choice` turns branches that read one character into a set
and takes a beginning that all branches share out of the branches.
-/

namespace FieldRules.Pattern

inductive Condition
  | textStart
  | textEnd
  | lineStart (crlf : Bool)
  | lineEnd (crlf : Bool)
  | wordBoundary (unicode : Bool)
  | notWordBoundary (unicode : Bool)
  | wordStart (unicode : Bool)
  | wordEnd (unicode : Bool)
  | wordStartHalf (unicode : Bool)
  | wordEndHalf (unicode : Bool)
deriving DecidableEq

inductive Node
  | empty
  | text (cs : List Char)
  /-- One of some characters. Sets that were written as sets of bytes are told apart. -/
  | set (isBytes : Bool) (chars : CharSet)
  | condition (c : Condition)
  | repetition (body : Node) (least : Nat) (most : Option Nat) (isLazy : Bool)
  | capture (body : Node)
  | sequence (parts : List Node)
  | either (branches : List Node)
deriving Inhabited

namespace Node

/-- A node that matches nothing, not even the empty text. -/
def nothing : Node := .set true .empty

def surrogates : CharSet := .range 0xD800 0xDFFF

def ofSet (isBytes : Bool) (s : CharSet) : Node :=
  let s := s.diff surrogates
  match s.ranges with
  | [] => nothing
  | [(first, last)] => if first = last then .text [Char.ofNat first] else .set isBytes s
  | _ => .set isBytes s

mutual

/-- Whether two nodes say the same. Two groups never do, as each is remembered by itself. -/
def same : Node → Node → Bool
  | .empty, .empty => true
  | .text cs, .text ds => cs == ds
  | .set isBytes s, .set areBytes t => isBytes == areBytes && s = t
  | .condition c, .condition d => c = d
  | .repetition body least most isLazy, .repetition other otherLeast otherMost otherLazy =>
    same body other && least == otherLeast && most == otherMost && isLazy == otherLazy
  | .sequence ps, .sequence qs => allSame ps qs
  | .either ps, .either qs => allSame ps qs
  | _, _ => false

def allSame : List Node → List Node → Bool
  | [], [] => true
  | p :: ps, q :: qs => same p q && allSame ps qs
  | _, _ => false

end

mutual

def isZeroWidth : Node → Bool
  | .empty => true
  | .text cs => cs.isEmpty
  | .set _ _ => false
  | .condition _ => true
  | .repetition body _ most _ => most == some 0 || body.isZeroWidth
  | .capture body => body.isZeroWidth
  | .sequence parts => allZeroWidth parts
  | .either branches => allZeroWidth branches

def allZeroWidth : List Node → Bool
  | [] => true
  | n :: ns => n.isZeroWidth && allZeroWidth ns

end

def addLength (a b : Option Nat) : Option Nat := a.bind fun m => b.map (m + ·)

def minLength (a b : Option Nat) : Option Nat := a.bind fun m => b.map (min m)

mutual

/-- The length of the shortest text that can match; none is known when a part of the node is a set
without elements. -/
def leastLength : Node → Option Nat
  | .empty => some 0
  | .text cs => some cs.length
  | .set _ s => if s.isEmpty then none else some 1
  | .condition _ => some 0
  | .repetition body least _ _ => body.leastLength.map (least * ·)
  | .capture body => body.leastLength
  | .sequence parts => totalLength parts
  | .either [] => none
  | .either (n :: ns) => shortest n.leastLength ns

def totalLength : List Node → Option Nat
  | [] => some 0
  | n :: ns => addLength n.leastLength (totalLength ns)

def shortest (length : Option Nat) : List Node → Option Nat
  | [] => length
  | n :: ns => shortest (minLength length n.leastLength) ns

end

mutual

/-- Whether every match starts where the condition `c` holds, as far as conditions before the first
character say. -/
def startsAt (c : Condition) : Node → Bool
  | .condition d => c = d
  | .repetition body least _ _ => 0 < least && body.startsAt c
  | .capture body => body.startsAt c
  | .sequence parts => firstStartsAt c parts
  | .either branches => allStartAt c branches
  | _ => false

def firstStartsAt (c : Condition) : List Node → Bool
  | [] => false
  | n :: ns => n.startsAt c || (n.isZeroWidth && firstStartsAt c ns)

def allStartAt (c : Condition) : List Node → Bool
  | [] => true
  | n :: ns => n.startsAt c && allStartAt c ns

end

mutual

/-- Whether every match ends where the condition `c` holds, as far as conditions after the last
character say. -/
def endsAt (c : Condition) : Node → Bool
  | .condition d => c = d
  | .repetition body least _ _ => 0 < least && body.endsAt c
  | .capture body => body.endsAt c
  | .sequence parts => lastEndsAt c parts
  | .either branches => allEndAt c branches
  | _ => false

def lastEndsAt (c : Condition) : List Node → Bool
  | [] => false
  | n :: ns => lastEndsAt c ns || (allZeroWidth ns && n.endsAt c)

def allEndAt (c : Condition) : List Node → Bool
  | [] => true
  | n :: ns => n.endsAt c && allEndAt c ns

end

def parts : Node → List Node
  | .empty => []
  | .sequence ns => ns
  | n => [n]

def branches : Node → List Node
  | .either ns => ns
  | n => [n]

def joinTexts : List Node → List Node
  | [] => []
  | n :: ns =>
    match n, joinTexts ns with
    | .text cs, .text ds :: rest => .text (cs ++ ds) :: rest
    | n, rest => n :: rest

def inSequence (ns : List Node) : Node :=
  match joinTexts (ns.flatMap parts) with
  | [] => .empty
  | [n] => n
  | ns => .sequence ns

/-- A repetition; one of a body without width counts at most once. -/
def repeated (body : Node) (least : Nat) (most : Option Nat) (isLazy : Bool) : Node :=
  let (least, most) :=
    if body.isZeroWidth then (min least 1, some ((most.map (min · 1)).getD 1)) else (least, most)
  if least = 0 ∧ most = some 0 then .empty
  else if least = 1 ∧ most = some 1 then body
  else .repetition body least most isLazy

def char? : Node → Option CharSet
  | .text [c] => some (.single c)
  | _ => none

def set? : Node → Option CharSet
  | .set _ s => some s
  | _ => none

def plainChoice (ns : List Node) : Node :=
  match ns.flatMap branches with
  | [] => nothing
  | [n] => n
  | ns =>
    match ns.mapM char? <|> ns.mapM set? with
    | some sets => ofSet false (.unionAll sets)
    | none => .either ns

def commonStart : List Node → List Node → List Node
  | p :: ps, q :: qs => if p.same q then p :: commonStart ps qs else []
  | _, _ => []

def sequenceParts? : Node → Option (List Node)
  | .sequence ps => some ps
  | _ => none

def sharedStart (ns : List Node) : List Node :=
  match ns.mapM sequenceParts? with
  | some (first :: rest) => rest.foldl commonStart first
  | _ => []

/-- A choice between branches. When a common beginning has been taken out of them, what is left has
none, because the longest one is taken. -/
def choice (ns : List Node) : Node :=
  match plainChoice ns with
  | .either bs =>
    let start := sharedStart bs
    if start.isEmpty then .either bs
    else
      let rests := bs.map fun n => inSequence (n.parts.drop start.length)
      inSequence (start ++ [plainChoice rests])
  | n => n

end Node

end FieldRules.Pattern
