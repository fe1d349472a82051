import FieldRules.Run
import Mathlib.Data.List.Basic

/-!
# Turns of a run

A run goes on in turns: what it reports before it suspends or ends, and what is left of it then.
`timeline` lists the events of a whole run with the number of suspensions before each. The lemmas
here say what the combinators of runs and the passage to the rest do to these views; later modules
do not open a run.
-/

namespace FieldRules.Run
variable {ε α β : Type}

/-- What a run reports before it first suspends or ends. -/
def turn : Run ε α → List Event
  | .done events _ => events
  | .suspended events _ => events

/-- What is left of a run after one turn. A run that has ended stays at its result. -/
def rest : Run ε α → Run ε α
  | .done _ result => .done [] result
  | .suspended _ rest => rest

def timeline : Run ε α → List (ℕ × Event)
  | .done events _ => events.map (0, ·)
  | .suspended events rest => events.map (0, ·) ++ rest.timeline.map (Prod.map (· + 1) id)

def FailsAtOnce (r : Run ε α) (e : ε) : Prop := r.suspensions = 0 ∧ r.alone.2 = .error e

theorem timeline_eq (r : Run ε α) :
    r.timeline = r.turn.map (0, ·) ++ r.rest.timeline.map (Prod.map (· + 1) id) := by
  cases r with
  | done events result => simp [timeline, turn, rest]
  | suspended events rest => rfl

theorem filter_timeline_zero (r : Run ε α) :
    (r.timeline.filter fun x => x.1 = 0) = r.turn.map (0, ·) := by
  have hlater : ((r.rest.timeline.map (Prod.map (· + 1) id)).filter fun x => x.1 = 0) = [] := by
    simp [List.filter_map]
  rw [timeline_eq, List.filter_append, hlater, List.append_nil, List.filter_eq_self]
  simp

theorem filter_turn_succ (r : Run ε α) (k : ℕ) :
    ((r.turn.map fun event => (0, event)).filter fun x => x.1 = k + 1) = [] := by
  simp [List.filter_map]

theorem filter_timeline_succ (r : Run ε α) (k : ℕ) :
    (r.timeline.filter fun x => x.1 = k + 1) =
      (r.rest.timeline.filter fun x => x.1 = k).map (Prod.map (· + 1) id) := by
  rw [timeline_eq, List.filter_append, filter_turn_succ, List.nil_append, List.filter_map]
  simp [Function.comp_def]

/-- The events of a run come in the order of its suspensions. -/
theorem pairwise_timeline (r : Run ε α) : r.timeline.Pairwise fun a b => a.1 ≤ b.1 := by
  have hturn (events : List Event) :
      (events.map fun event => (0, event)).Pairwise fun a b => a.1 ≤ b.1 := by
    rw [List.pairwise_map]
    exact List.pairwise_of_forall fun _ _ => Nat.le_refl 0
  induction r with
  | done events result => exact hturn events
  | suspended events rest ih =>
    rw [timeline, List.pairwise_append]
    refine ⟨hturn events, ?_, ?_⟩
    · rw [List.pairwise_map]
      exact ih.imp fun h => Nat.succ_le_succ h
    · intro a ha b _
      obtain ⟨event, _, rfl⟩ := List.mem_map.mp ha
      exact Nat.zero_le b.1

theorem alone_eq (r : Run ε α) : r.alone = r.rest.alone.after r.turn := by
  cases r with
  | done events result => simp [alone, turn, rest, Logged.after]
  | suspended events rest => rfl

theorem mem_alone_of_mem_turn {r : Run ε α} {event : Event} (h : event ∈ r.turn) :
    event ∈ r.alone.1 := by
  rw [alone_eq]
  exact List.mem_append_left r.rest.alone.1 h

theorem mem_alone_of_mem_rest {r : Run ε α} {event : Event} (h : event ∈ r.rest.alone.1) :
    event ∈ r.alone.1 := by
  rw [alone_eq]
  exact List.mem_append_right r.turn h

theorem alone_rest_snd (r : Run ε α) : r.rest.alone.2 = r.alone.2 := by
  rw [r.alone_eq]
  rfl

theorem suspensions_rest (r : Run ε α) : r.rest.suspensions = r.suspensions - 1 := by
  cases r <;> rfl

theorem map_snd_timeline (r : Run ε α) : r.timeline.map Prod.snd = r.alone.1 := by
  induction r with
  | done events result => simp [timeline, alone, Function.comp_def]
  | suspended events rest ih => simp [timeline, alone, Logged.after, ← ih, Function.comp_def]

@[simp] theorem alone_pure (a : α) : (pure a : Run ε α).alone = ([], .ok a) := rfl

@[simp] theorem alone_fail (e : ε) : (fail e : Run ε α).alone = ([], .error e) := rfl

@[simp] theorem alone_report (event : Event) (r : Run ε α) :
    (report event r).alone = (event :: r.alone.1, r.alone.2) := by
  cases r <;> rfl

@[simp] theorem alone_delay (n : ℕ) (r : Run ε α) : (delay n r).alone = r.alone := by
  induction n with
  | zero => rfl
  | succ n ih => simp [delay, alone, Logged.after, ih]

@[simp] theorem alone_map (f : α → β) (r : Run ε α) :
    (r.map f).alone = (r.alone.1, r.alone.2.map f) := by
  induction r with
  | done events result => rfl
  | suspended events rest ih => simp [map, alone, Logged.after, ih]

@[simp] theorem suspensions_pure (a : α) : (pure a : Run ε α).suspensions = 0 := rfl

@[simp] theorem suspensions_fail (e : ε) : (fail e : Run ε α).suspensions = 0 := rfl

@[simp] theorem suspensions_report (event : Event) (r : Run ε α) :
    (report event r).suspensions = r.suspensions := by
  cases r <;> rfl

@[simp] theorem suspensions_delay (n : ℕ) (r : Run ε α) :
    (delay n r).suspensions = n + r.suspensions := by
  induction n with
  | zero => simp [delay]
  | succ n ih => simp only [delay, suspensions, ih]; omega

@[simp] theorem suspensions_map (f : α → β) (r : Run ε α) :
    (r.map f).suspensions = r.suspensions := by
  induction r with
  | done events result => rfl
  | suspended events rest ih => simp [map, suspensions, ih]

@[simp] theorem timeline_map (f : α → β) (r : Run ε α) : (r.map f).timeline = r.timeline := by
  induction r with
  | done events result => rfl
  | suspended events rest ih => simp [map, timeline, ih]

end FieldRules.Run
