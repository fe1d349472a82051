import FieldRules.Proofs.Run.Rounds

/-!
# Values play no part in the rounds

Runs whose values are changed by a function take the same turns, report the same events and end in
the same error or in the changed values.
-/

namespace FieldRules.Run
variable {ε α β γ : Type}

theorem map_map (f : α → β) (g : β → γ) (r : Run ε α) : (r.map f).map g = r.map (g ∘ f) := by
  induction r with
  | done events result => cases result <;> rfl
  | suspended events rest ih => rw [map, map, map, ih]

theorem map_id (r : Run ε α) : r.map id = r := by
  induction r with
  | done events result => cases result <;> rfl
  | suspended events rest ih => rw [map, ih]

def Slot.map (f : α → β) : Slot ε α → Slot ε β
  | .ended a => .ended (f a)
  | .running rest => .running (rest.map f)

theorem prepend_map (f : α → β) (events : List Event) (slot : Slot ε α)
    (others : Logged (Except ε (List (Slot ε α)))) :
    prepend events (slot.map f) (others.1, others.2.map (List.map (Slot.map f))) =
      ((prepend events slot others).1,
        (prepend events slot others).2.map (List.map (Slot.map f))) := by
  obtain ⟨later, result⟩ := others
  cases result <;> rfl

theorem round_map (f : α → β) (slots : List (Slot ε α)) :
    round (slots.map (Slot.map f)) =
      ((round slots).1, (round slots).2.map (List.map (Slot.map f))) := by
  induction slots with
  | nil => rfl
  | cons slot slots ih =>
    match slot with
    | .ended a =>
      change prepend [] (.ended (f a)) (round (slots.map (Slot.map f))) = _
      rw [ih]
      exact prepend_map f [] (.ended a) (round slots)
    | .running (.suspended events rest) =>
      change prepend events (.running (rest.map f)) (round (slots.map (Slot.map f))) = _
      rw [ih]
      exact prepend_map f events (.running rest) (round slots)
    | .running (.done events (.ok a)) =>
      change prepend events (.ended (f a)) (round (slots.map (Slot.map f))) = _
      rw [ih]
      exact prepend_map f events (.ended a) (round slots)
    | .running (.done events (.error e)) => rfl

theorem rounds_map (f : α → β) (slots : List (Slot ε α)) :
    rounds (slots.map (Slot.map f)) = ((rounds slots).1, (rounds slots).2.map (List.map f)) := by
  induction slots using rounds_induction with
  | ended as =>
    have hmap : (as.map Slot.ended : List (Slot ε α)).map (Slot.map f) =
        (as.map f).map Slot.ended := by
      rw [List.map_map, List.map_map]
      rfl
    rw [hmap, rounds_ended, rounds_ended]
    rfl
  | failed slots events e hround =>
    have hmap : round (slots.map (Slot.map f)) = (events, .error e) := by
      rw [round_map, hround]
      rfl
    rw [rounds_of_round_error hmap, rounds_of_round_error hround]
    rfl
  | next slots events later hround ih =>
    have hmap : round (slots.map (Slot.map f)) = (events, .ok (later.map (Slot.map f))) := by
      rw [round_map, hround]
      rfl
    rw [rounds_of_round_ok hmap, rounds_of_round_ok hround, ih]
    rfl

/-- Runs that take turns do so whatever becomes of their values. -/
theorem together_map (f : α → β) (runs : List (Run ε α)) :
    together (runs.map (Run.map f)) =
      ((together runs).1, (together runs).2.map (List.map f)) := by
  have hslots : (runs.map (Run.map f)).map Slot.running =
      (runs.map Slot.running).map (Slot.map f) := by
    rw [List.map_map, List.map_map]
    rfl
  rw [together, hslots, rounds_map]
  rfl

end FieldRules.Run
