import FieldRules.Proofs.Run.Rounds

/-!
# Events of interest

Some events of a log are shown and the others hidden. A run that shows nothing and ends with a value
that reads as nothing may be left out: the rounds of the others show the same events and end in the
same way. Where no run shows an event after its first turn, the first round shows all there is.
-/

namespace FieldRules.Run
variable {ε α β γ δ : Type} {shown : Event → Bool} {read : α → Option β}

inductive Agree (shown : Event → Bool) (R : α → β → Prop) :
    Logged (Except ε α) → Logged (Except ε β) → Prop
  | ok {events events' : List Event} {a : α} {b : β}
      (hevents : events.filter shown = events'.filter shown) (hvalues : R a b) :
      Agree shown R (events, .ok a) (events', .ok b)
  | error {events events' : List Event} (hevents : events.filter shown = events'.filter shown)
      (e : ε) : Agree shown R (events, .error e) (events', .error e)

variable {R : α → β → Prop} {x : Logged (Except ε α)} {y : Logged (Except ε β)}

theorem Agree.filter_fst (h : Agree shown R x y) : x.1.filter shown = y.1.filter shown := by
  cases h with
  | ok hevents _ => exact hevents
  | error hevents _ => exact hevents

theorem Agree.snd_eq {x y : Logged (Except ε α)} (h : Agree shown Eq x y) : x.2 = y.2 := by
  cases h with
  | ok _ hvalues => rw [hvalues]
  | error _ e => rfl

theorem Agree.after (h : Agree shown R x y) {events events' : List Event}
    (hevents : events.filter shown = events'.filter shown) :
    Agree shown R (x.after events) (y.after events') := by
  cases h with
  | ok hlater hvalues => exact .ok (by simp only [List.filter_append, hevents, hlater]) hvalues
  | error hlater e => exact .error (by simp only [List.filter_append, hevents, hlater]) e

theorem Agree.map (h : Agree shown R x y) {S : γ → δ → Prop} {f : α → γ} {g : β → δ}
    (hvalues : ∀ a b, R a b → S (f a) (g b)) :
    Agree shown S (x.1, x.2.map f) (y.1, y.2.map g) := by
  cases h with
  | ok hevents hab => exact .ok hevents (hvalues _ _ hab)
  | error hevents e => exact .error hevents e

theorem agree_map_map {x : Logged (Except ε α)} {S : γ → δ → Prop} {f : α → γ} {g : α → δ}
    (h : ∀ a, x.2 = .ok a → S (f a) (g a)) :
    Agree shown S (x.1, x.2.map f) (x.1, x.2.map g) := by
  obtain ⟨events, e | a⟩ := x
  · exact .error rfl e
  · exact .ok rfl (h a rfl)

structure Idle (shown : Event → Bool) (read : α → Option β) (r : Run ε α) : Prop where
  events : ∀ event ∈ r.alone.1, shown event = false
  value : ∃ a, r.alone.2 = .ok a ∧ read a = none

theorem Idle.rest {r : Run ε α} (h : Idle shown read r) : Idle shown read r.rest := by
  refine ⟨fun event hevent => h.events event (mem_alone_of_mem_rest hevent), ?_⟩
  rw [alone_rest_snd]
  exact h.value

theorem Idle.filter_turn {r : Run ε α} (h : Idle shown read r) : r.turn.filter shown = [] := by
  rw [List.filter_eq_nil_iff]
  intro event hevent
  rw [h.events event (mem_alone_of_mem_turn hevent)]
  exact Bool.false_ne_true

theorem Idle.not_failsAtOnce {r : Run ε α} (h : Idle shown read r) (e : ε) :
    ¬ r.FailsAtOnce e := by
  obtain ⟨a, ha, _⟩ := h.value
  simp [FailsAtOnce, ha]

/-- The second list of places is the first one without some whose runs are idle. -/
inductive Without (shown : Event → Bool) (read : α → Option β) :
    List (Slot ε α) → List (Slot ε α) → Prop
  | nil : Without shown read [] []
  | keep (slot : Slot ε α) {slots slots' : List (Slot ε α)} (h : Without shown read slots slots') :
      Without shown read (slot :: slots) (slot :: slots')
  | drop {slot : Slot ε α} {slots slots' : List (Slot ε α)} (hidle : Idle shown read slot.run)
      (h : Without shown read slots slots') : Without shown read (slot :: slots) slots'

theorem agree_prepend_keep {x y : Logged (Except ε (List (Slot ε α)))}
    (h : Agree shown (Without shown read) x y) (events : List Event) (slot : Slot ε α) :
    Agree shown (Without shown read) (prepend events slot x) (prepend events slot y) := by
  cases h with
  | ok hlater hslots => exact .ok (by simp only [List.filter_append, hlater]) (hslots.keep slot)
  | error hlater e => exact .error (by simp only [List.filter_append, hlater]) e

theorem agree_prepend_drop {x y : Logged (Except ε (List (Slot ε α)))}
    (h : Agree shown (Without shown read) x y) {events : List Event} {slot : Slot ε α}
    (hevents : events.filter shown = []) (hidle : Idle shown read slot.run) :
    Agree shown (Without shown read) (prepend events slot x) y := by
  cases h with
  | ok hlater hslots =>
    exact .ok (by rw [List.filter_append, hevents, List.nil_append, hlater]) (hslots.drop hidle)
  | error hlater e =>
    exact .error (by rw [List.filter_append, hevents, List.nil_append, hlater]) e

/-- A round leaves idle runs idle, and they do not keep the others from what they do. -/
theorem agree_round {slots slots' : List (Slot ε α)} (h : Without shown read slots slots') :
    Agree shown (Without shown read) (round slots) (round slots') := by
  induction h with
  | nil => exact .ok rfl .nil
  | keep slot _ ih =>
    rcases round_cons slot with ⟨next, _, _, hround⟩ | ⟨e, _, hround⟩
    · rw [hround, hround]
      exact agree_prepend_keep ih slot.run.turn next
    · rw [hround, hround]
      exact .error rfl e
  | @drop slot _ _ hidle _ ih =>
    rcases round_cons slot with ⟨next, hrest, _, hround⟩ | ⟨e, hfails, _⟩
    · rw [hround]
      exact agree_prepend_drop ih hidle.filter_turn (hrest ▸ hidle.rest)
    · exact absurd hfails (hidle.not_failsAtOnce e)

/-- Where all runs have ended, so have those of any choice of them, with the same readings. -/
theorem exists_ended_of_without {as : List α} {slots : List (Slot ε α)}
    (h : Without shown read (as.map .ended) slots) :
    ∃ bs : List α, slots = bs.map .ended ∧ as.filterMap read = bs.filterMap read := by
  induction as generalizing slots with
  | nil =>
    cases h
    exact ⟨[], rfl, rfl⟩
  | cons a as ih =>
    cases h with
    | keep _ h =>
      obtain ⟨bs, rfl, hread⟩ := ih h
      exact ⟨a :: bs, rfl, by simp only [List.filterMap_cons, hread]⟩
    | drop hidle h =>
      obtain ⟨bs, rfl, hread⟩ := ih h
      obtain ⟨_, rfl, hnone⟩ : ∃ a', a = a' ∧ read a' = none := by
        simpa [Slot.run] using hidle.value
      exact ⟨bs, rfl, by rw [List.filterMap_cons_none hnone, hread]⟩

/-- Without idle runs the rounds end in the same way, with the same readings, though perhaps
earlier: idle runs may go on when all others have ended. -/
theorem agree_rounds {slots slots' : List (Slot ε α)} (h : Without shown read slots slots') :
    Agree shown (fun as bs => as.filterMap read = bs.filterMap read)
      (rounds slots) (rounds slots') := by
  induction slots using rounds_induction generalizing slots' with
  | ended as =>
    obtain ⟨bs, rfl, hread⟩ := exists_ended_of_without h
    rw [rounds_ended, rounds_ended]
    exact .ok rfl hread
  | failed slots events e hround =>
    have hagree := agree_round h
    rw [hround] at hagree
    generalize hround' : round slots' = outcome at hagree
    cases hagree with
    | error hevents _ =>
      rw [rounds_of_round_error hround, rounds_of_round_error hround']
      exact .error hevents e
  | next slots events later hround ih =>
    have hagree := agree_round h
    rw [hround] at hagree
    generalize hround' : round slots' = outcome at hagree
    cases hagree with
    | ok hevents hlater =>
      rw [rounds_of_round_ok hround, rounds_of_round_ok hround']
      exact (ih hlater).after hevents

/-- Where no run shows anything after its first turn, the first round shows all there is. -/
theorem filter_rounds_fst {slots : List (Slot ε α)}
    (h : ∀ r ∈ runsOf slots, ∀ event ∈ r.rest.alone.1, shown event = false) :
    (rounds slots).1.filter shown = (round slots).1.filter shown := by
  rcases hround : round slots with ⟨events, e | later⟩
  · rw [rounds_of_round_error hround]
  · obtain ⟨hruns, -, -⟩ := round_eq_ok hround
    have hlater : (rounds later).1.filter shown = [] := by
      rw [List.filter_eq_nil_iff]
      intro event hevent
      obtain ⟨r', hr', hevent⟩ := exists_mem_alone_of_mem_rounds hevent
      obtain ⟨r, hr, rfl⟩ : ∃ r ∈ runsOf slots, r.rest = r' := by simpa [hruns] using hr'
      rw [h r hr event hevent]
      exact Bool.false_ne_true
    rw [rounds_of_round_ok hround, Logged.after, List.filter_append, hlater, List.append_nil]

end FieldRules.Run
