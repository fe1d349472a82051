import FieldRules.Proofs.Run.Turns
import Mathlib.Data.Prod.Lex
import Mathlib.Tactic.Common

/-!
# Rounds, and which error wins

`round_eq_ok` and `round_eq_error` say all that one round can do: either every run takes a turn, or
the first run that fails at once ends the round. By `rounds_induction` a property of the rounds
follows from what one round preserves. The end of runs that take turns is then settled: all values
if no run fails, and otherwise the error of the run that fails after the fewest suspensions, the
earlier one of two that fail in the same round.
-/

namespace FieldRules.Run
variable {ε α : Type}

/-- What goes on at a place; a place that has ended keeps its value. -/
def Slot.run : Slot ε α → Run ε α
  | .ended a => .pure a
  | .running rest => rest

def runsOf (slots : List (Slot ε α)) : List (Run ε α) := slots.map Slot.run

@[simp] theorem runsOf_running (runs : List (Run ε α)) : runsOf (runs.map .running) = runs := by
  simp [runsOf, Function.comp_def, Slot.run]

@[simp] theorem runsOf_ended (as : List α) :
    runsOf (as.map .ended : List (Slot ε α)) = as.map Run.pure := by
  simp [runsOf, Function.comp_def, Slot.run]

theorem round_cons (slot : Slot ε α) :
    (∃ slot', slot'.run = slot.run.rest ∧ (∀ e, ¬ slot.run.FailsAtOnce e) ∧
      ∀ slots, round (slot :: slots) = prepend slot.run.turn slot' (round slots)) ∨
    ∃ e, slot.run.FailsAtOnce e ∧ ∀ slots, round (slot :: slots) = (slot.run.turn, .error e) := by
  match slot with
  | .ended a => exact .inl ⟨.ended a, rfl, by simp [Slot.run, FailsAtOnce], fun _ => rfl⟩
  | .running (.suspended retryValidator rest) =>
    exact .inl ⟨.running rest, rfl, by simp [Slot.run, FailsAtOnce, suspensions], fun _ => rfl⟩
  | .running (.done retryValidator (.ok a)) =>
    exact .inl ⟨.ended a, rfl, by simp [Slot.run, FailsAtOnce, alone], fun _ => rfl⟩
  | .running (.done retryValidator (.error e)) => exact .inr ⟨e, ⟨rfl, rfl⟩, fun _ => rfl⟩

theorem round_eq_ok {slots slots' : List (Slot ε α)} {events : List Event}
    (h : round slots = (events, .ok slots')) :
    runsOf slots' = (runsOf slots).map rest ∧ events = (runsOf slots).flatMap turn ∧
      ∀ r ∈ runsOf slots, ∀ e, ¬ r.FailsAtOnce e := by
  induction slots generalizing slots' events with
  | nil =>
    obtain ⟨rfl, rfl⟩ : [] = events ∧ [] = slots' := by simpa [round] using h
    simp [runsOf]
  | cons slot slots ih =>
    rcases round_cons slot with ⟨slot', hrest, hfirst, hround⟩ | ⟨e, _, hround⟩ <;>
      specialize hround slots
    · cases htail : round slots with
      | mk later result =>
        cases result with
        | error e => simp [h, htail, prepend, Except.map] at hround
        | ok tail =>
          obtain ⟨rfl, rfl⟩ : events = slot.run.turn ++ later ∧ slots' = slot' :: tail := by
            simpa [h, htail, prepend, Except.map] using hround
          obtain ⟨hruns, rfl, hnone⟩ := ih htail
          simp only [runsOf, List.map_cons, List.flatMap_cons, List.mem_cons] at hruns ⊢
          refine ⟨by rw [hruns, hrest], trivial, ?_⟩
          rintro r (rfl | hr)
          · exact hfirst
          · exact hnone r hr
    · simp [h] at hround

/-- A round that fails stops at the first run that fails at once. -/
theorem round_eq_error {slots : List (Slot ε α)} {events : List Event} {e : ε}
    (h : round slots = (events, .error e)) :
    ∃ before r after, runsOf slots = before ++ r :: after ∧
      (∀ r' ∈ before, ∀ e', ¬ r'.FailsAtOnce e') ∧ r.FailsAtOnce e ∧
      events = before.flatMap turn ++ r.turn := by
  induction slots generalizing events with
  | nil => simp [round] at h
  | cons slot slots ih =>
    rcases round_cons slot with ⟨slot', _, hfirst, hround⟩ | ⟨e', hfails, hround⟩ <;>
      specialize hround slots
    · cases htail : round slots with
      | mk later result =>
        cases result with
        | ok tail => simp [h, htail, prepend, Except.map] at hround
        | error e' =>
          obtain ⟨rfl, rfl⟩ : events = slot.run.turn ++ later ∧ e = e' := by
            simpa [h, htail, prepend, Except.map] using hround
          obtain ⟨before, r, after, hsplit, hnone, hr, rfl⟩ := ih htail
          refine ⟨slot.run :: before, r, after, ?_, ?_, hr, ?_⟩
          · simp only [runsOf] at hsplit
            simp [runsOf, hsplit]
          · intro r' hr'
            rcases List.mem_cons.mp hr' with rfl | hr'
            · exact hfirst
            · exact hnone r' hr'
          · simp
    · obtain ⟨rfl, rfl⟩ : events = slot.run.turn ∧ e = e' := by simpa [h] using hround
      exact ⟨[], slot.run, runsOf slots, rfl, by simp, hfails, rfl⟩

theorem values?_ended (as : List α) :
    values? (as.map .ended : List (Slot ε α)) = some as := by
  induction as with
  | nil => rfl
  | cons a as ih => simp [values?, ih]

theorem values?_eq_some {slots : List (Slot ε α)} {as : List α} (h : values? slots = some as) :
    slots = as.map .ended := by
  induction slots generalizing as with
  | nil => simp_all [values?]
  | cons slot slots ih =>
    cases slot with
    | ended a =>
      obtain ⟨as', has', rfl⟩ := Option.map_eq_some_iff.mp h
      rw [ih has', List.map_cons]
    | running r => simp [values?] at h

theorem round_ended (as : List α) :
    round (as.map .ended : List (Slot ε α)) = ([], .ok (as.map .ended)) := by
  induction as with
  | nil => rfl
  | cons a as ih => simp [round, ih, prepend, Except.map]

theorem rounds_of_round_error {slots : List (Slot ε α)} {events : List Event} {e : ε}
    (h : round slots = (events, .error e)) : rounds slots = (events, .error e) := by
  rw [rounds]
  split
  · rename_i h'
    obtain ⟨rfl, rfl⟩ : events = _ ∧ e = _ := by simpa [h] using h'
    rfl
  · rename_i h'
    simp [h] at h'

theorem rounds_eq_match {slots slots' : List (Slot ε α)} {events : List Event}
    (h : round slots = (events, .ok slots')) :
    rounds slots = match values? slots' with
      | some as => (events, .ok as)
      | none => (rounds slots').after events := by
  rw [rounds]
  split
  · rename_i h'
    simp [h] at h'
  · rename_i h'
    obtain ⟨rfl, rfl⟩ : events = _ ∧ slots' = _ := by simpa [h] using h'
    split <;> rename_i hv <;> simp [hv]

theorem rounds_ended (as : List α) :
    rounds (as.map .ended : List (Slot ε α)) = ([], .ok as) := by
  rw [rounds_eq_match (round_ended as), values?_ended]

/-- Rounds whose first one goes through continue with what it leaves. Where every run has ended by
then, the remaining rounds report nothing. -/
theorem rounds_of_round_ok {slots slots' : List (Slot ε α)} {events : List Event}
    (h : round slots = (events, .ok slots')) : rounds slots = (rounds slots').after events := by
  rw [rounds_eq_match h]
  cases hv : values? slots' with
  | none => rfl
  | some as =>
    rw [values?_eq_some hv, rounds_ended]
    simp [Logged.after]

theorem rounds_induction {P : List (Slot ε α) → Prop} (ended : ∀ as : List α, P (as.map .ended))
    (failed : ∀ slots events e, round slots = (events, .error e) → P slots)
    (next : ∀ slots events slots', round slots = (events, .ok slots') → P slots' → P slots)
    (slots : List (Slot ε α)) : P slots := by
  induction slots using rounds.induct with
  | case1 slots events e h => exact failed slots events e h
  | case2 slots events slots' h as hv =>
    exact next slots events slots' h (values?_eq_some hv ▸ ended as)
  | case3 slots events slots' h hv ih => exact next slots events slots' h ih

/-- What rounds report, one of the runs reports. -/
theorem exists_mem_alone_of_mem_rounds {slots : List (Slot ε α)} {event : Event}
    (h : event ∈ (rounds slots).1) : ∃ r ∈ runsOf slots, event ∈ r.alone.1 := by
  induction slots using rounds_induction with
  | ended as => simp [rounds_ended] at h
  | failed slots events e hround =>
    obtain ⟨before, r, after, hsplit, -, -, rfl⟩ := round_eq_error hround
    rw [rounds_of_round_error hround, List.mem_append] at h
    rcases h with h | h
    · obtain ⟨r', hr', hevent⟩ := List.mem_flatMap.mp h
      exact ⟨r', by simp [hsplit, hr'], mem_alone_of_mem_turn hevent⟩
    · exact ⟨r, by simp [hsplit], mem_alone_of_mem_turn h⟩
  | next slots events later hround ih =>
    obtain ⟨hruns, rfl, -⟩ := round_eq_ok hround
    rw [rounds_of_round_ok hround, Logged.after, List.mem_append] at h
    rcases h with h | h
    · obtain ⟨r, hr, hevent⟩ := List.mem_flatMap.mp h
      exact ⟨r, hr, mem_alone_of_mem_turn hevent⟩
    · obtain ⟨r', hr', hevent⟩ := ih h
      obtain ⟨r, hr, rfl⟩ : ∃ r ∈ runsOf slots, r.rest = r' := by simpa [hruns] using hr'
      exact ⟨r, hr, mem_alone_of_mem_rest hevent⟩

theorem exists_mem_alone_of_mem_together {runs : List (Run ε α)} {event : Event}
    (h : event ∈ (together runs).1) : ∃ r ∈ runs, event ∈ r.alone.1 := by
  simpa using exists_mem_alone_of_mem_rounds h

def ErrsAt (runs : List (Run ε α)) (suspensions place : ℕ) (e : ε) : Prop :=
  ∃ r, runs[place]? = some r ∧ r.suspensions = suspensions ∧ r.alone.2 = .error e

/-- No run ends in an error after fewer suspensions, or after as many at an earlier place. -/
structure ErrsFirst (runs : List (Run ε α)) (suspensions place : ℕ) (e : ε) : Prop where
  errs : ErrsAt runs suspensions place e
  least : ∀ suspensions' place' e', ErrsAt runs suspensions' place' e' →
    toLex (suspensions, place) ≤ toLex (suspensions', place')

theorem ErrsFirst.unique {runs : List (Run ε α)} {k k' i i' : ℕ} {e e' : ε}
    (h : ErrsFirst runs k i e) (h' : ErrsFirst runs k' i' e') : k = k' ∧ i = i' ∧ e = e' := by
  have hstamp : toLex (k, i) = toLex (k', i') :=
    le_antisymm (h.least k' i' e' h'.errs) (h'.least k i e h.errs)
  obtain ⟨rfl, rfl⟩ : k = k' ∧ i = i' := by simpa using hstamp
  obtain ⟨r, hr, _, he⟩ := h.errs
  obtain ⟨r', hr', _, he'⟩ := h'.errs
  obtain rfl : r = r' := Option.some.inj (hr.symm.trans hr')
  exact ⟨rfl, rfl, Except.error.inj (he.symm.trans he')⟩

theorem errsAt_zero_iff {runs : List (Run ε α)} {i : ℕ} {e : ε} :
    ErrsAt runs 0 i e ↔ ∃ r, runs[i]? = some r ∧ r.FailsAtOnce e := Iff.rfl

/-- Where no run fails at once, a turn brings every error one suspension nearer. -/
theorem errsAt_map_rest {runs : List (Run ε α)} (hnow : ∀ r ∈ runs, ∀ e, ¬ r.FailsAtOnce e)
    {k i : ℕ} {e : ε} : ErrsAt (runs.map rest) k i e ↔ ErrsAt runs (k + 1) i e := by
  constructor
  · rintro ⟨r', hr', hk, he⟩
    obtain ⟨r, hr, rfl⟩ : ∃ r, runs[i]? = some r ∧ r.rest = r' := by simpa using hr'
    rw [alone_rest_snd] at he
    have hpos : r.suspensions ≠ 0 := fun h0 => hnow r (List.mem_of_getElem? hr) e ⟨h0, he⟩
    rw [suspensions_rest] at hk
    exact ⟨r, hr, by omega, he⟩
  · rintro ⟨r, hr, hk, he⟩
    exact ⟨r.rest, by simp [hr], by rw [suspensions_rest]; omega, by rw [alone_rest_snd, he]⟩

theorem errsFirst_map_rest {runs : List (Run ε α)} (hnow : ∀ r ∈ runs, ∀ e, ¬ r.FailsAtOnce e)
    {k i : ℕ} {e : ε} : ErrsFirst (runs.map rest) k i e ↔ ErrsFirst runs (k + 1) i e := by
  constructor
  · intro h
    refine ⟨(errsAt_map_rest hnow).mp h.errs, fun k' i' e' h' => ?_⟩
    cases k' with
    | zero =>
      obtain ⟨r, hr, hfail⟩ := errsAt_zero_iff.mp h'
      exact absurd hfail (hnow r (List.mem_of_getElem? hr) e')
    | succ k' =>
      have hle := h.least k' i' e' ((errsAt_map_rest hnow).mpr h')
      simp only [Prod.Lex.toLex_le_toLex] at hle ⊢
      omega
  · intro h
    refine ⟨(errsAt_map_rest hnow).mpr h.errs, fun k' i' e' h' => ?_⟩
    have hle := h.least (k' + 1) i' e' ((errsAt_map_rest hnow).mp h')
    simp only [Prod.Lex.toLex_le_toLex] at hle ⊢
    omega

/-- In a round that fails, the run that ends it errs first. -/
theorem errsFirst_of_failsAtOnce {before after : List (Run ε α)} {r : Run ε α} {e : ε}
    (hnone : ∀ r' ∈ before, ∀ e', ¬ r'.FailsAtOnce e') (hfail : r.FailsAtOnce e) :
    ErrsFirst (before ++ r :: after) 0 before.length e where
  errs := ⟨r, by simp, hfail⟩
  least := by
    intro k' i' e' h'
    rw [Prod.Lex.toLex_le_toLex]
    by_contra! hlt
    obtain rfl : k' = 0 := by omega
    obtain ⟨r', hr', hfail'⟩ := errsAt_zero_iff.mp h'
    have hi' : i' < before.length := hlt.2 rfl
    rw [List.getElem?_append_left hi'] at hr'
    exact hnone r' (List.mem_of_getElem? hr') e' hfail'

/-- Rounds end with the values of all runs, or with the error of the run that errs first. -/
theorem rounds_snd (slots : List (Slot ε α)) :
    (∀ as, (rounds slots).2 = .ok as → (runsOf slots).map (fun r => r.alone.2) = as.map .ok) ∧
      ∀ e, (rounds slots).2 = .error e → ∃ k i, ErrsFirst (runsOf slots) k i e := by
  induction slots using rounds_induction with
  | ended as => simp [rounds_ended, Function.comp_def]
  | failed slots events e h =>
    obtain ⟨before, r, after, hsplit, hnone, hfail, -⟩ := round_eq_error h
    rw [rounds_of_round_error h, hsplit]
    refine ⟨by simp, fun e' he => ?_⟩
    obtain rfl : e = e' := Except.error.inj he
    exact ⟨0, before.length, errsFirst_of_failsAtOnce hnone hfail⟩
  | next slots events slots' h ih =>
    obtain ⟨hruns, -, hnow⟩ := round_eq_ok h
    rw [rounds_of_round_ok h]
    rw [hruns] at ih
    refine ⟨fun as has => ?_, fun e he => ?_⟩
    · simpa [Function.comp_def, alone_rest_snd] using ih.1 as has
    · obtain ⟨k, i, hfirst⟩ := ih.2 e he
      exact ⟨k + 1, i, (errsFirst_map_rest hnow).mp hfirst⟩

theorem map_alone_of_together_ok {runs : List (Run ε α)} {as : List α}
    (h : (together runs).2 = .ok as) : runs.map (fun r => r.alone.2) = as.map .ok := by
  simpa using (rounds_snd (runs.map .running)).1 as h

theorem errsFirst_of_together_error {runs : List (Run ε α)} {e : ε}
    (h : (together runs).2 = .error e) : ∃ k i, ErrsFirst runs k i e := by
  simpa using (rounds_snd (runs.map .running)).2 e h

theorem together_error_of_mem {runs : List (Run ε α)} {r : Run ε α} {e : ε} (hr : r ∈ runs)
    (he : r.alone.2 = .error e) : ∃ e', (together runs).2 = .error e' := by
  cases hend : (together runs).2 with
  | error e' => exact ⟨e', rfl⟩
  | ok as =>
    have hmem : r.alone.2 ∈ as.map Except.ok := by
      rw [← map_alone_of_together_ok hend]
      exact List.mem_map_of_mem hr
    simp [he] at hmem

end FieldRules.Run
