import FieldRules.Pattern.Node
import FieldRules.Unicode.Utf8
import Std.Data.HashMap

/-!
# Sizes of patterns

A pattern is refused when it is too large. What counts is the size of two automata that read the
bytes of a text, one from its start and one from its end, as they are drawn up state by state: a
state takes 32 bytes, each of several ranges of bytes that a state tells apart takes 8, and each
link of a fork takes 4. Parts that are repeated are drawn up as often as they are repeated.

A set of characters beyond ASCII becomes states for ranges of UTF-8 bytes. Equal states are shared
through a table with a limited number of slots: a state that falls into the slot of another one
takes its place, and the other is drawn up anew when it is needed again.

A `Draft` is such a part of an automaton. Its result says whether it ends in a fork, which then
needs one more link to whatever follows.
-/

namespace FieldRules.Pattern

def sizeLimit : Nat := 10485760

/-- Which end of a text an automaton reads first. -/
inductive Direction
  | forward
  | backward
deriving DecidableEq

/-- How many states have been drawn up, and how many bytes they take. -/
structure Extent where
  states : Nat
  bytes : Nat

/-- A part of an automaton: what it adds to the extent, unless the limit is passed. -/
structure Draft where
  run : Extent → Option (Bool × Extent)

namespace Extent

def stateSize : Nat := 32
def rangeSize : Nat := 8
def linkSize : Nat := 4

def add (e : Extent) (states bytes : Nat) : Option Extent :=
  let e : Extent := ⟨e.states + states, e.bytes + bytes⟩
  if e.bytes ≤ sizeLimit then some e else none

def addStates (e : Extent) (states : Nat) : Option Extent := e.add states (states * stateSize)

def addRanges (e : Extent) (ranges : Nat) : Option Extent :=
  e.add 1 (stateSize + ranges * rangeSize)

def addLinks (e : Extent) (links : Nat) : Option Extent := e.add 0 (links * linkSize)

def addFork (e : Extent) (links : Nat) : Option Extent := e.add 1 (stateSize + links * linkSize)

/-- What a part that ends in a fork needs to be linked to the next one. -/
def follow (e : Extent) (forked : Bool) : Option Extent := e.addLinks (if forked then 1 else 0)

end Extent

namespace Draft

def states (n : Nat) : Draft := ⟨fun e => (e.addStates n).map (false, ·)⟩

/-- The drafts after the first, which ends in a fork or not. -/
def continued : List Draft → (forked : Bool) → Extent → Option (Bool × Extent)
  | [], forked, e => some (forked, e)
  | d :: ds, forked, e => do
    let (next, e) ← d.run e
    continued ds next (← e.follow forked)

def inSequence : List Draft → Draft
  | [] => states 1
  | d :: ds => ⟨fun e => do
      let (forked, e) ← d.run e
      continued ds forked e⟩

def repeatedAfter (d : Draft) : (count : Nat) → (forked : Bool) → Extent → Option (Bool × Extent)
  | 0, forked, e => some (forked, e)
  | count + 1, forked, e =>
    match d.run e with
    | none => none
    | some (next, e) =>
      match e.follow forked with
      | none => none
      | some e => repeatedAfter d count next e

def times (d : Draft) : (count : Nat) → Draft
  | 0 => states 1
  | count + 1 => ⟨fun e => do
      let (forked, e) ← d.run e
      repeatedAfter d count forked e⟩

/-- Each of the branches comes from the fork and goes to the common end. -/
def branches : List Draft → Extent → Option Extent
  | [], e => some e
  | d :: ds, e => do
    let (forked, e) ← d.run e
    let e ← e.addLinks 1
    branches ds (← e.follow forked)

/-- The fork and the common end are drawn up after the second branch. -/
def choice : List Draft → Draft
  | [] => states 1
  | [d] => d
  | d :: d' :: ds => ⟨fun e => do
      let (forked, e) ← d.run e
      let (forked', e) ← d'.run e
      let e ← e.addFork 2
      let e ← e.addStates 1
      let e ← e.follow forked
      let e ← e.follow forked'
      some (false, ← branches ds e)⟩

/-- Copies that can each be left out together with all that follow. -/
def optionalAfter (d : Draft) : (count : Nat) → (forked : Bool) → Extent → Option Extent
  | 0, forked, e => e.follow forked
  | count + 1, forked, e =>
    match e.addFork 2 with
    | none => none
    | some e =>
      match d.run e with
      | none => none
      | some (next, e) =>
        match e.follow forked with
        | none => none
        | some e => optionalAfter d count next e

def optional (d : Draft) : Draft where
  run e := do
    let e ← e.addFork 2
    let (forked, e) ← d.run e
    let e ← e.addStates 1
    some (false, ← e.follow forked)

/-- Any number of copies. Where a copy may read nothing, they are an optional part of at least one
copy. -/
def star (d : Draft) (readsSome : Bool) : Draft where
  run e :=
    if readsSome then do
      let e ← e.addFork 1
      let (forked, e) ← d.run e
      some (true, ← e.follow forked)
    else do
      let (forked, e) ← d.run e
      let e ← e.addFork 2
      let e ← e.follow forked
      let e ← e.addFork 2
      some (false, ← e.addStates 1)

def plus (d : Draft) : Draft where
  run e := do
    let (forked, e) ← d.run e
    let e ← e.addFork 1
    some (true, ← e.follow forked)

def atLeast (d : Draft) (count : Nat) : Draft :=
  if count ≤ 1 then d.plus
  else ⟨fun e => do
    let (forked, e) ← (d.times (count - 1)).run e
    let (last, e) ← d.plus.run e
    some (last, ← e.follow forked)⟩

def between (d : Draft) (least most : Nat) : Draft where
  run e := do
    let (forked, e) ← (d.times least).run e
    let e ← e.addStates 1
    some (false, ← d.optionalAfter (most - least) forked e)

def repeated (d : Draft) (readsSome : Bool) (least : Nat) : (most : Option Nat) → Draft
  | some most =>
    if least = 0 ∧ most = 1 then d.optional
    else if most ≤ least then d.times least
    else d.between least most
  | none => if least = 0 then d.star readsSome else d.atLeast least

end Draft

def mixHash (h : UInt64) (n : Nat) : UInt64 := (h ^^^ n.toUInt64) * 1099511628211

def emptyHash : UInt64 := 14695981039346656037

/-- A table of states by what they do, of which each slot holds one. -/
abbrev StateTable (α : Type) := Std.HashMap UInt64 (α × Nat)

def StateTable.look {α : Type} [DecidableEq α] (table : StateTable α) (slot : UInt64) (what : α) :
    Option Nat :=
  match table[slot]? with
  | some (known, state) => if known = what then some state else none
  | none => none

abbrev RangeLinks := List (Utf8.ByteRange × Nat)

def treeSlots : UInt64 := 10000

def treeSlot (links : RangeLinks) : UInt64 :=
  links.foldl (fun h l => mixHash (mixHash (mixHash h l.1.1) l.1.2) l.2) emptyHash % treeSlots

/-- The number of a state with the given links: the one in the table, or a new one. -/
def treeState (links : RangeLinks) (table : StateTable RangeLinks) (e : Extent) :
    Option (Nat × StateTable RangeLinks × Extent) :=
  let slot := treeSlot links
  match table.look slot links with
  | some state => some (state, table, e)
  | none => (e.addRanges links.length).map fun e' =>
    (e.states, table.insert slot (links, e.states), e')

inductive RangeTree
  | target
  | node (links : List (Utf8.ByteRange × RangeTree))

/-- Sequences grouped by their first range, where it stays the same. -/
def byFirstRange (ss : List (List Utf8.ByteRange)) : List (List (List Utf8.ByteRange)) :=
  ss.splitBy fun s t => s.head? == t.head?

namespace RangeTree

def ofSequences : (depth : Nat) → List (List Utf8.ByteRange) → RangeTree
  | 0, _ => .target
  | depth + 1, ss =>
    .node ((byFirstRange ss).map fun group =>
      let rest := group.map (List.drop 1)
      ((group.headD []).headD (0, 0), if rest = [[]] then .target else ofSequences depth rest))

mutual

/-- The states of a tree that goes on to the state `target`; each is drawn up after those it leads
to. -/
def draw (target : Nat) : RangeTree → StateTable RangeLinks → Extent →
    Option (Nat × StateTable RangeLinks × Extent)
  | .target, table, e => some (target, table, e)
  | .node links, table, e => do
    let (drawn, table, e) ← drawLinks target links [] table e
    treeState drawn.reverse table e

def drawLinks (target : Nat) : List (Utf8.ByteRange × RangeTree) → RangeLinks →
    StateTable RangeLinks → Extent → Option (RangeLinks × StateTable RangeLinks × Extent)
  | [], drawn, table, e => some (drawn, table, e)
  | (range, t) :: rest, drawn, table, e => do
    let (state, table, e) ← t.draw target table e
    drawLinks target rest ((range, state) :: drawn) table e

end

end RangeTree

/-- Reading forward, sequences share states for what they have in common at their end. -/
def forwardSet (ss : List (List Utf8.ByteRange)) : Draft :=
  let tree := RangeTree.ofSequences 4 ss
  ⟨fun e => do
    let target := e.states
    let e ← e.addStates 1
    let (_, _, e) ← tree.draw target ∅ e
    some (false, e)⟩

def suffixSlots : UInt64 := 1000

abbrev Step := Nat × Utf8.ByteRange

/-- The states of one sequence, read backward: the first range leads to the end. -/
def backwardSteps : List Utf8.ByteRange → (next : Nat) → StateTable Step → Extent →
    Option (StateTable Step × Extent)
  | [], _, table, e => some (table, e)
  | range :: ranges, next, table, e =>
    let slot := mixHash (mixHash (mixHash emptyHash next) range.1) range.2 % suffixSlots
    match table.look slot (next, range) with
    | some state => backwardSteps ranges state table e
    | none => do
      let state := e.states
      let e ← e.addStates 1
      backwardSteps ranges state (table.insert slot ((next, range), state)) e

def backwardSequences (stop : Nat) : List (List Utf8.ByteRange) → StateTable Step → Extent →
    Option Extent
  | [], _, e => some e
  | s :: ss, table, e => do
    let (table, e) ← backwardSteps s stop table e
    let e ← e.addLinks 1
    backwardSequences stop ss table e

/-- Reading backward, every sequence is a branch of a fork, and sequences share states for what they
have in common at their start. -/
def backwardSet (ss : List (List Utf8.ByteRange)) : Draft where
  run e := do
    let e ← e.addFork 0
    let stop := e.states
    let e ← e.addStates 1
    some (false, ← backwardSequences stop ss ∅ e)

def asciiSet (ranges : Nat) : Draft where
  run e := do
    let e ← e.addStates 1
    some (false, ← e.addRanges ranges)

def setDraft (d : Direction) (s : CharSet) : Draft :=
  if s.isWithin 0x7F then asciiSet s.ranges.length
  else
    match d with
    | .forward => forwardSet (Utf8.sequences s)
    | .backward => backwardSet (Utf8.sequences s)

/-- Texts in a tree by their bytes. A text that ends inside the tree closes what has been added
there: the links after it stand apart from those before it, so that earlier texts are preferred. -/
inductive TextTree
  | node (closed : List (List (Nat × TextTree))) (links : List (Nat × TextTree))

namespace TextTree

def leaf : TextTree := .node [] []

/-- Ends a text at the root. A second text adds nothing where nothing can follow. -/
def close : TextTree → TextTree
  | .node closed links =>
    if links.isEmpty && !closed.isEmpty && closed.all List.isEmpty then .node closed links
    else .node (links :: closed) []

def update (b : Nat) (f : TextTree → TextTree) : List (Nat × TextTree) → List (Nat × TextTree)
  | [] => [(b, f leaf)]
  | (c, t) :: rest =>
    if b < c then (b, f leaf) :: (c, t) :: rest
    else if b = c then (c, f t) :: rest
    else (c, t) :: update b f rest

def insert : List Nat → TextTree → TextTree
  | [], t => t.close
  | b :: bs, .node closed links => .node closed (update b (insert bs) links)

def linksExtent (links : Nat) (e : Extent) : Option Extent :=
  match links with
  | 0 => some e
  | 1 => e.addStates 1
  | _ => e.addRanges links

mutual

/-- A tree is a fork over its groups of links, with a link to the end between two groups. A tree in
which nothing follows needs no states. -/
def draw : TextTree → Extent → Option Extent
  | .node closed links, e => do
    let groups := links :: closed
    let e ← drawGroup links e
    let e ← drawGroups closed e
    let used := (groups.filter fun g => !g.isEmpty).length
    if used = 0 then some e else e.addFork (used + closed.length)

def drawGroups : List (List (Nat × TextTree)) → Extent → Option Extent
  | [], e => some e
  | g :: gs, e => do
    let e ← drawGroup g e
    drawGroups gs e

def drawGroup (links : List (Nat × TextTree)) (e : Extent) : Option Extent := do
  let e ← drawLinks links e
  linksExtent links.length e

def drawLinks : List (Nat × TextTree) → Extent → Option Extent
  | [], e => some e
  | (_, t) :: rest, e => do
    let e ← t.draw e
    drawLinks rest e

end

end TextTree

def textBytes (cs : List Char) : List Nat :=
  (String.ofList cs).toUTF8.toList.map UInt8.toNat

def textsDraft (d : Direction) (texts : List (List Char)) : Draft :=
  let words := texts.map fun cs =>
    match d with
    | .forward => textBytes cs
    | .backward => (textBytes cs).reverse
  let tree := words.foldl (fun t w => t.insert w) TextTree.leaf
  ⟨fun e => do
    let e ← e.addStates 1
    some (false, ← tree.draw e)⟩

namespace Node

def text? : Node → Option (List Char)
  | .text cs => some cs
  | _ => none

mutual

/-- Only the automaton that reads forward remembers groups. -/
def draft (d : Direction) : Node → Draft
  | .empty => .states 1
  | .text cs => .states (textBytes cs).length
  | .set _ s => setDraft d s
  | .condition _ => .states 1
  | .repetition body least most _ =>
    Draft.repeated (body.draft d) (body.leastLength.any (0 < ·)) least most
  | .capture body =>
    match d with
    | .forward => .inSequence [.states 1, body.draft d, .states 1]
    | .backward => body.draft d
  | .sequence parts =>
    match d with
    | .forward => .inSequence (drafts d parts)
    | .backward => .inSequence (drafts d parts).reverse
  | .either branches =>
    match branches.mapM text? with
    | some texts => textsDraft d texts
    | none => .choice (drafts d branches)

def drafts (d : Direction) : List Node → List Draft
  | [] => []
  | n :: ns => n.draft d :: drafts d ns

end

/-- What stands before a pattern: a loop over any bytes, unless a match can start only at one end of
the text. -/
def lead (d : Direction) (n : Node) (e : Extent) : Option Extent :=
  let isAnchored :=
    match d with
    | .forward => n.startsAt .textStart
    | .backward => n.endsAt .textEnd
  if isAnchored then e.addStates 1
  else do
    let e ← e.addFork 2
    let e ← e.addStates 1
    e.addRanges 1

/-- A whole automaton. A match as a whole is remembered like a group. -/
def automaton (d : Direction) (n : Node) : Option Extent := do
  let e ← n.lead d ⟨0, 0⟩
  let (_, e) ← (Draft.inSequence [Node.draft d (.capture n), .states 1]).run e
  some e

/-- From this many texts on, a choice between texts is not drawn up as an automaton. -/
def manyTexts : Nat := 3000

def isManyTexts : Node → Bool
  | .either branches => (branches.mapM text?).any (manyTexts ≤ ·.length)
  | _ => false

def isWithinSizeLimit (n : Node) : Bool :=
  n.isManyTexts || ((n.automaton .forward).isSome && (n.automaton .backward).isSome)

end Node

end FieldRules.Pattern
