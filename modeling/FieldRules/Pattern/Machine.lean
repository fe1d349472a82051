import FieldRules.Pattern.Meaning
import FieldRules.Pattern.Reader
import FieldRules.Pattern.Size

/-!
# Matching machines

A node becomes a machine with a list of numbered states. Reading a text, the machine is in a set of
states; between two characters it first follows the steps that read nothing, as far as the
conditions on the position allow. It starts anew at every position, so it finds a match anywhere in
the text. The work is at most the number of states for each position.
-/

namespace FieldRules.Pattern

inductive MachineState
  | accept
  | read (set : CharSet) (next : Nat)
  | check (c : Condition) (next : Nat)
  | fork (first second : Nat)
deriving Inhabited

abbrev States := Array MachineState

namespace Node

def addText (cs : List Char) (next : Nat) (states : States) : Nat × States :=
  cs.foldr (fun c (after, states) => (states.size, states.push (.read (.single c) after)))
    (next, states)

mutual

/-- Adds the states of a node that goes on to `next`, and gives the state at which it starts. -/
def addStates : Node → (next : Nat) → States → Nat × States
  | .empty, next, states => (next, states)
  | .text cs, next, states => addText cs next states
  | .set _ chars, next, states => (states.size, states.push (.read chars next))
  | .condition c, next, states => (states.size, states.push (.check c next))
  | .repetition body least most _, next, states =>
    let optional : Nat × States → Nat × States := fun (after, states) =>
      let (first, states) := body.addStates after states
      (states.size, states.push (.fork first next))
    let tail :=
      match most with
      | some most => Nat.repeat optional (most - least) (next, states)
      | none =>
        let loop := states.size
        let (first, states) := body.addStates loop (states.push .accept)
        (loop, states.setIfInBounds loop (.fork first next))
    Nat.repeat (fun (after, states) => body.addStates after states) least tail
  | .capture body, next, states => body.addStates next states
  | .sequence parts, next, states => addParts parts next states
  | .either branches, next, states => addBranches branches next states

def addParts : List Node → (next : Nat) → States → Nat × States
  | [], next, states => (next, states)
  | n :: ns, next, states =>
    let (middle, states) := addParts ns next states
    n.addStates middle states

def addBranches : List Node → (next : Nat) → States → Nat × States
  | [], next, states => (states.size, states.push (.read .empty next))
  | n :: ns, next, states =>
    let (first, states) := n.addStates next states
    let (second, states) := addBranches ns next states
    (states.size, states.push (.fork first second))

end

end Node

def isWord (unicode : Bool) (c : Option Char) : Bool :=
  c.any fun c => if unicode then Unicode.wordCharacters.contains c else c.isAlphanum || c = '_'

def Condition.holds (before after : Option Char) : Condition → Bool
  | .textStart => before.isNone
  | .textEnd => after.isNone
  | .lineStart crlf =>
    before.all fun c => c = '\n' || (crlf && c = '\r' && after ≠ some '\n')
  | .lineEnd crlf =>
    after.all fun c =>
      if crlf then c = '\r' || (c = '\n' && before ≠ some '\r') else c = '\n'
  | .wordBoundary u => isWord u before != isWord u after
  | .notWordBoundary u => isWord u before == isWord u after
  | .wordStart u => !isWord u before && isWord u after
  | .wordEnd u => isWord u before && !isWord u after
  | .wordStartHalf u => !isWord u before
  | .wordEndHalf u => !isWord u after

structure Machine where
  start : Nat
  states : States

namespace Machine

/-- The machine of a node. State `0` accepts. -/
def ofNode (n : Node) : Machine :=
  let (start, states) := n.addStates 0 #[.accept]
  ⟨start, states⟩

/-- What is reached at one position: the states that read a character, and whether the machine
accepts. -/
structure Reached where
  reading : List (CharSet × Nat)
  accepts : Bool

/-- Follows the steps that read nothing from the given states. Every state is followed once and has
at most two steps. -/
def follow (m : Machine) (before after : Option Char) :
    (fuel : Nat) → List Nat → (seen : Array Bool) → Reached → Reached
  | 0, _, _, reached => reached
  | _, [], _, reached => reached
  | fuel + 1, i :: rest, seen, reached =>
    if seen.getD i true then m.follow before after fuel rest seen reached
    else
      let seen := seen.setIfInBounds i true
      match m.states[i]? with
      | none => m.follow before after fuel rest seen reached
      | some .accept => m.follow before after fuel rest seen { reached with accepts := true }
      | some (.read set next) =>
        m.follow before after fuel rest seen
          { reached with reading := (set, next) :: reached.reading }
      | some (.check c next) =>
        m.follow before after fuel (if c.holds before after then next :: rest else rest) seen
          reached
      | some (.fork first second) =>
        m.follow before after fuel (first :: second :: rest) seen reached

def reach (m : Machine) (before after : Option Char) (active : List Nat) : Reached :=
  m.follow before after (2 * m.states.size + active.length) active
    (Array.replicate m.states.size false) ⟨[], false⟩

def matchesFrom (m : Machine) (before : Option Char) (active : List Nat) : List Char → Bool
  | [] => (m.reach before none (m.start :: active)).accepts
  | c :: cs =>
    let reached := m.reach before (some c) (m.start :: active)
    reached.accepts ||
      m.matchesFrom (some c)
        (reached.reading.filterMap fun (set, next) => if set.contains c then some next else none) cs

def isMatch (m : Machine) (text : String) : Bool := m.matchesFrom none [] text.toList

end Machine

def compile (source : String) : Except Fault Machine := do
  let e ← Expression.read source
  let (n, _) ← e.node {}
  if n.isWithinSizeLimit then .ok (Machine.ofNode n) else .error .tooLarge

end FieldRules.Pattern
