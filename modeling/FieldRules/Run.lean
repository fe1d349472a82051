import FieldRules.Event

/-!
# Runs that suspend

A `Run` goes on for a while, reporting events, and then either suspends or ends with a value or an
error. `alone` goes through a run from start to end. `together` goes through several runs in rounds:
in each round every run that has not ended goes on, in the order of the list, until it suspends or
ends, and the first error ends everything at once.
-/

namespace FieldRules

inductive Run (ε α : Type)
  | done (events : List Event) (result : Except ε α)
  | suspended (events : List Event) (rest : Run ε α)

namespace Run
variable {ε α β : Type}

def pure (a : α) : Run ε α := .done [] (.ok a)

def fail (e : ε) : Run ε α := .done [] (.error e)

def report (event : Event) : Run ε α → Run ε α
  | .done events result => .done (event :: events) result
  | .suspended events rest => .suspended (event :: events) rest

def delay : Nat → Run ε α → Run ε α
  | 0, r => r
  | n + 1, r => .suspended [] (delay n r)

def map (f : α → β) : Run ε α → Run ε β
  | .done events result => .done events (result.map f)
  | .suspended events rest => .suspended events (rest.map f)

def suspensions : Run ε α → Nat
  | .done .. => 0
  | .suspended _ rest => rest.suspensions + 1

/-- The events and the end of a run by itself. -/
def alone : Run ε α → Logged (Except ε α)
  | .done events result => (events, result)
  | .suspended events rest => rest.alone.after events

/-- A place in a list of runs: the run has ended with a value, or goes on. -/
inductive Slot (ε α : Type)
  | ended (a : α)
  | running (rest : Run ε α)

def Slot.suspensions : Slot ε α → Nat
  | .ended _ => 0
  | .running rest => rest.suspensions

def prepend (events : List Event) (slot : Slot ε α)
    (others : Logged (Except ε (List (Slot ε α)))) : Logged (Except ε (List (Slot ε α))) :=
  (events ++ others.1, others.2.map (slot :: ·))

def round : List (Slot ε α) → Logged (Except ε (List (Slot ε α)))
  | [] => ([], .ok [])
  | .ended a :: slots => prepend [] (.ended a) (round slots)
  | .running (.suspended events rest) :: slots => prepend events (.running rest) (round slots)
  | .running (.done events (.ok a)) :: slots => prepend events (.ended a) (round slots)
  | .running (.done events (.error e)) :: _ => (events, .error e)

/-- The values of a list of runs that have all ended. -/
def values? : List (Slot ε α) → Option (List α)
  | [] => some []
  | .ended a :: slots => (values? slots).map (a :: ·)
  | .running _ :: _ => none

def totalSuspensions : List (Slot ε α) → Nat
  | [] => 0
  | slot :: slots => slot.suspensions + totalSuspensions slots

/-- After a round each run that goes on has suspended once, so there are fewer suspensions left. -/
theorem totalSuspensions_round {slots slots' : List (Slot ε α)}
    (h : (round slots).2 = .ok slots') :
    totalSuspensions slots' ≤ totalSuspensions slots ∧
      (values? slots' = none → totalSuspensions slots' < totalSuspensions slots) := by
  induction slots generalizing slots' with
  | nil =>
    obtain rfl : [] = slots' := by simpa [round] using h
    simp [values?]
  | cons slot slots ih =>
    have step {events : List Event} {s' : Slot ε α}
        (hr : (prepend events s' (round slots)).2 = .ok slots')
        (hlt : (∃ a, s' = .ended a) ∧ s'.suspensions ≤ slot.suspensions ∨
          s'.suspensions < slot.suspensions) :
        totalSuspensions slots' ≤ totalSuspensions (slot :: slots) ∧
          (values? slots' = none → totalSuspensions slots' < totalSuspensions (slot :: slots)) := by
      cases hq : (round slots).2 with
      | error e => simp [prepend, hq, Except.map] at hr
      | ok tail =>
        obtain rfl : s' :: tail = slots' := by simpa [prepend, hq, Except.map] using hr
        have ⟨hle, hstrict⟩ := ih hq
        simp only [totalSuspensions] at hle hstrict ⊢
        cases hlt with
        | inl hended =>
          obtain ⟨⟨a, rfl⟩, hs⟩ := hended
          refine ⟨by omega, fun hv => ?_⟩
          have := hstrict (by simpa [values?] using hv)
          omega
        | inr hs => exact ⟨by omega, fun _ => by omega⟩
    match slot with
    | .ended a => exact step h (.inl ⟨⟨a, rfl⟩, Nat.le_refl _⟩)
    | .running (.suspended events rest) =>
      exact step h (.inr (by simp [Slot.suspensions, Run.suspensions]))
    | .running (.done events (.ok a)) => exact step h (.inl ⟨⟨a, rfl⟩, Nat.le_refl _⟩)
    | .running (.done events (.error e)) => simp [round] at h

set_option linter.unusedVariables false in
def rounds (slots : List (Slot ε α)) : Logged (Except ε (List α)) :=
  match h : round slots with
  | (events, .error e) => (events, .error e)
  | (events, .ok slots') =>
    match hv : values? slots' with
    | some as => (events, .ok as)
    | none => (rounds slots').after events
termination_by totalSuspensions slots
decreasing_by exact (totalSuspensions_round (congrArg Prod.snd h)).2 hv

/-- The events and the common end of several runs that take turns. -/
def together (runs : List (Run ε α)) : Logged (Except ε (List α)) := rounds (runs.map .running)

end Run

end FieldRules
