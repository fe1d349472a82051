import FieldRules.Proofs.Run.Rounds
import Mathlib.Data.List.Sort

/-!
# The order of events when runs take turns

Each event of a run is stamped with the suspensions of the run before it and with the place of the
run. `interleave` merges the timelines of several runs in the order of these stamps. The log of runs
that take turns is that merge, cut after the stamp of the error that ends them, if one does: round
by round, the turns of the round come first and the merge of what is left follows one round later.
-/

namespace FieldRules

section Merge
variable {β κ : Type*} [LinearOrder κ] (key : β → κ)

theorem key_le_trans (a b c : β) (hab : decide (key a ≤ key b) = true)
    (hbc : decide (key b ≤ key c) = true) : decide (key a ≤ key c) = true := by
  simp only [decide_eq_true_eq] at hab hbc ⊢
  exact hab.trans hbc

theorem key_le_total (a b : β) : (decide (key a ≤ key b) || decide (key b ≤ key a)) = true := by
  simpa using le_total (key a) (key b)

theorem pairwise_key_mergeSort (l : List β) :
    (l.mergeSort fun a b => key a ≤ key b).Pairwise fun a b => key a ≤ key b := by
  have hpair : (l.mergeSort fun a b => key a ≤ key b).Pairwise fun a b =>
      decide (key a ≤ key b) = true :=
    List.pairwise_mergeSort (key_le_trans key) (key_le_total key) l
  simpa only [decide_eq_true_eq] using hpair

/-- Stable sorting keeps the order of the elements under one key. -/
theorem filter_key_mergeSort (l : List β) (k : κ) :
    (l.mergeSort fun a b => key a ≤ key b).filter (fun b => key b = k) =
      l.filter fun b => key b = k := by
  set sorted := l.mergeSort fun a b => key a ≤ key b with hsorted
  have hsub : (l.filter fun b => key b = k).Sublist sorted := by
    apply List.sublist_mergeSort (key_le_trans key) (key_le_total key)
    · rw [List.pairwise_filter]
      apply List.pairwise_of_forall
      intro a b ha hb
      simp only [decide_eq_true_eq] at ha hb ⊢
      exact (ha.trans hb.symm).le
    · exact List.filter_sublist
  have hlen : (sorted.filter fun b => key b = k).length = (l.filter fun b => key b = k).length :=
    ((List.mergeSort_perm l _).filter _).length_eq
  have hself := hsub.filter fun b => key b = k
  simp only [List.filter_filter, Bool.and_self] at hself
  exact (hself.eq_of_length hlen.symm).symm

/-- Two lists in key order are equal if they have the same elements under each key, in the same
order. -/
theorem eq_of_filter_key_eq {l m : List β} (hl : l.Pairwise fun a b => key a ≤ key b)
    (hm : m.Pairwise fun a b => key a ≤ key b)
    (h : ∀ k, (l.filter fun b => key b = k) = m.filter fun b => key b = k) : l = m := by
  have hmem {l m : List β} (h : ∀ k, (l.filter fun b => key b = k) = m.filter fun b => key b = k)
      {b : β} (hb : b ∈ l) : b ∈ m := by
    have hb' : b ∈ l.filter fun c => key c = key b := by simpa using hb
    rw [h] at hb'
    exact (List.mem_filter.mp hb').1
  have hle {a b : β} {l : List β} (hl : (a :: l).Pairwise fun a b => key a ≤ key b)
      (hb : b ∈ a :: l) : key a ≤ key b := by
    rcases List.mem_cons.mp hb with rfl | hb
    · exact le_rfl
    · exact (List.pairwise_cons.mp hl).1 b hb
  induction l generalizing m with
  | nil =>
    cases m with
    | nil => rfl
    | cons b m => exact absurd (hmem (fun k => (h k).symm) List.mem_cons_self) List.not_mem_nil
  | cons a l ih =>
    cases m with
    | nil => exact absurd (hmem h List.mem_cons_self) List.not_mem_nil
    | cons b m =>
      have hkey : key a = key b :=
        le_antisymm (hle hl (hmem (fun k => (h k).symm) List.mem_cons_self))
          (hle hm (hmem h List.mem_cons_self))
      have hhead := h (key a)
      simp only [List.filter_cons, hkey, decide_true, if_true] at hhead
      obtain ⟨rfl, htail⟩ := List.cons.inj hhead
      congr 1
      refine ih hl.of_cons hm.of_cons fun k => ?_
      by_cases hk : key a = k
      · rw [← hk]
        exact htail
      · simpa [List.filter_cons, hk] using h k

theorem mergeSort_eq_of_filter_key_eq {l m : List β} (hm : m.Pairwise fun a b => key a ≤ key b)
    (h : ∀ k, (l.filter fun b => key b = k) = m.filter fun b => key b = k) :
    (l.mergeSort fun a b => key a ≤ key b) = m := by
  apply eq_of_filter_key_eq key (pairwise_key_mergeSort key l) hm
  intro k
  rw [filter_key_mergeSort, h]

end Merge

namespace Run
variable {ε α : Type}

/-- The suspensions of a run so far, and the place of the run. -/
abbrev Stamp := ℕ ×ₗ ℕ

def stampAt (place : ℕ) (x : ℕ × Event) : Stamp × Event := (toLex (x.1, place), x.2)

/-- The events of several timelines with their stamps; the first timeline has the place given. -/
def stampFrom (place : ℕ) : List (List (ℕ × Event)) → List (Stamp × Event)
  | [] => []
  | timeline :: timelines => timeline.map (stampAt place) ++ stampFrom (place + 1) timelines

/-- The events of several timelines in the order of their stamps, those of one stamp in the order of
their timeline. -/
def interleave (timelines : List (List (ℕ × Event))) : List (Stamp × Event) :=
  (stampFrom 0 timelines).mergeSort fun a b => a.1 ≤ b.1

def later (x : Stamp × Event) : Stamp × Event := (toLex ((ofLex x.1).1 + 1, (ofLex x.1).2), x.2)

def firstRound (runs : List (Run ε α)) : List (Stamp × Event) :=
  stampFrom 0 (runs.map fun r => r.turn.map (0, ·))

theorem stampFrom_append (n : ℕ) (ts us : List (List (ℕ × Event))) :
    stampFrom n (ts ++ us) = stampFrom n ts ++ stampFrom (n + ts.length) us := by
  induction ts generalizing n with
  | nil => rfl
  | cons t ts ih => simp [stampFrom, ih, Nat.add_assoc, Nat.add_comm 1]

theorem map_snd_stampFrom (n : ℕ) (ts : List (List (ℕ × Event))) :
    (stampFrom n ts).map Prod.snd = ts.flatten.map Prod.snd := by
  induction ts generalizing n with
  | nil => rfl
  | cons t ts ih => simp [stampFrom, ih, stampAt, Function.comp_def]

theorem place_of_mem_stampFrom {n : ℕ} {ts : List (List (ℕ × Event))} {x : Stamp × Event}
    (hx : x ∈ stampFrom n ts) : n ≤ (ofLex x.1).2 ∧ (ofLex x.1).2 < n + ts.length := by
  induction ts generalizing n with
  | nil => simp [stampFrom] at hx
  | cons t ts ih =>
    rw [stampFrom, List.mem_append] at hx
    rcases hx with hx | hx
    · obtain ⟨y, _, rfl⟩ := List.mem_map.mp hx
      simp [stampAt]
    · have := ih hx
      simp only [List.length_cons]
      omega

theorem filter_map_stampAt (n k i : ℕ) (t : List (ℕ × Event)) :
    ((t.map (stampAt n)).filter fun x => x.1 = toLex (k, i)) =
      if n = i then (t.filter fun x => x.1 = k).map (stampAt i) else [] := by
  rw [List.filter_map]
  split
  · rename_i h
    simp [Function.comp_def, stampAt, h]
  · rename_i h
    simp [Function.comp_def, stampAt, h]

/-- Under one stamp stand the events of one timeline after as many suspensions. -/
theorem filter_stampFrom (n k i : ℕ) (ts : List (List (ℕ × Event))) :
    ((stampFrom n ts).filter fun x => x.1 = toLex (k, n + i)) =
      ((ts[i]?.getD []).filter fun x => x.1 = k).map (stampAt (n + i)) := by
  induction ts generalizing n i with
  | nil => simp [stampFrom]
  | cons t ts ih =>
    rw [stampFrom, List.filter_append, filter_map_stampAt]
    cases i with
    | zero =>
      have hrest : ((stampFrom (n + 1) ts).filter fun x => x.1 = toLex (k, n + 0)) = [] := by
        rw [List.filter_eq_nil_iff]
        rintro x hx hstamp
        have hplace := (place_of_mem_stampFrom hx).1
        simp only [decide_eq_true_eq] at hstamp
        simp only [hstamp, ofLex_toLex] at hplace
        omega
      rw [hrest]
      simp
    | succ i =>
      rw [if_neg (by omega), List.nil_append, show n + (i + 1) = n + 1 + i by omega, ih]
      simp

theorem filter_stampFrom_zero (k i : ℕ) (ts : List (List (ℕ × Event))) :
    ((stampFrom 0 ts).filter fun x => x.1 = toLex (k, i)) =
      ((ts[i]?.getD []).filter fun x => x.1 = k).map (stampAt i) := by
  rw [← Nat.zero_add i, filter_stampFrom, Nat.zero_add]

theorem round_of_mem_turns {n : ℕ} {runs : List (Run ε α)} {x : Stamp × Event}
    (hx : x ∈ stampFrom n (runs.map fun r => r.turn.map (0, ·))) : (ofLex x.1).1 = 0 := by
  induction runs generalizing n with
  | nil => simp [stampFrom] at hx
  | cons r runs ih =>
    rw [List.map_cons, stampFrom, List.mem_append] at hx
    rcases hx with hx | hx
    · simp only [List.map_map, List.mem_map] at hx
      obtain ⟨event, _, rfl⟩ := hx
      rfl
    · exact ih hx

/-- The turns of one round are in the order of the places. -/
theorem pairwise_turns (n : ℕ) (runs : List (Run ε α)) :
    (stampFrom n (runs.map fun r => r.turn.map (0, ·))).Pairwise fun a b => a.1 ≤ b.1 := by
  induction runs generalizing n with
  | nil => exact List.Pairwise.nil
  | cons r runs ih =>
    rw [List.map_cons, stampFrom, List.pairwise_append]
    refine ⟨?_, ih (n + 1), ?_⟩
    · rw [List.map_map, List.pairwise_map]
      exact List.pairwise_of_forall fun _ _ => le_rfl
    · intro a ha b hb
      simp only [List.map_map, List.mem_map] at ha
      obtain ⟨event, _, rfl⟩ := ha
      have hround := round_of_mem_turns hb
      have hplace := (place_of_mem_stampFrom hb).1
      rw [Prod.Lex.le_iff]
      simp only [Function.comp_apply, stampAt, ofLex_toLex]
      omega

theorem later_le_later {x y : Stamp × Event} (h : x.1 ≤ y.1) : (later x).1 ≤ (later y).1 := by
  rw [Prod.Lex.le_iff] at h ⊢
  simp only [later, ofLex_toLex]
  omega

theorem filter_map_later (l : List (Stamp × Event)) (k i : ℕ) :
    ((l.map later).filter fun x => x.1 = toLex (k + 1, i)) =
      (l.filter fun x => x.1 = toLex (k, i)).map later := by
  rw [List.filter_map]
  congr 2
  funext x
  obtain ⟨⟨k', i'⟩, hx⟩ := toLex.surjective x.1
  simp [later, ← hx]

theorem filter_map_later_zero (l : List (Stamp × Event)) (i : ℕ) :
    ((l.map later).filter fun x => x.1 = toLex (0, i)) = [] := by
  rw [List.filter_eq_nil_iff]
  intro x hx
  obtain ⟨y, _, rfl⟩ := List.mem_map.mp hx
  simp [later]

/-- The merge of the timelines of runs has their first round in front, and then the merge of what
is left of them, one round later. -/
theorem interleave_timelines (runs : List (Run ε α)) :
    interleave (runs.map timeline) =
      firstRound runs ++ (interleave ((runs.map rest).map timeline)).map later := by
  apply mergeSort_eq_of_filter_key_eq
  · rw [List.pairwise_append]
    refine ⟨pairwise_turns 0 runs, ?_, ?_⟩
    · rw [List.pairwise_map]
      exact (pairwise_key_mergeSort Prod.fst _).imp later_le_later
    · intro a ha b hb
      obtain ⟨y, _, rfl⟩ := List.mem_map.mp hb
      have hround := round_of_mem_turns ha
      rw [Prod.Lex.le_iff]
      simp only [later, ofLex_toLex]
      omega
  · intro stamp
    obtain ⟨⟨k, i⟩, rfl⟩ := toLex.surjective stamp
    rw [List.filter_append, filter_stampFrom_zero, firstRound, filter_stampFrom_zero]
    cases k with
    | zero =>
      rw [filter_map_later_zero, List.append_nil]
      simp only [List.getElem?_map]
      cases runs[i]? with
      | none => simp
      | some r =>
        simp only [Option.map_some, Option.getD_some, filter_timeline_zero]
        rw [List.filter_eq_self.mpr (by simp)]
    | succ k =>
      rw [filter_map_later, interleave, filter_key_mergeSort, filter_stampFrom_zero]
      simp only [List.getElem?_map]
      cases runs[i]? with
      | none => simp
      | some r =>
        simp only [Option.map_some, Option.getD_some, filter_timeline_succ, filter_turn_succ,
          List.map_map, List.map_nil, List.nil_append]
        rfl

theorem pairwise_interleave (ts : List (List (ℕ × Event))) :
    (interleave ts).Pairwise fun a b => a.1 ≤ b.1 :=
  pairwise_key_mergeSort Prod.fst _

/-- The merge has the events of each place in the order of its own timeline, and no others. -/
theorem filter_place_interleave {ts : List (List (ℕ × Event))}
    (hts : ∀ t ∈ ts, t.Pairwise fun a b => a.1 ≤ b.1) (i : ℕ) :
    ((interleave ts).filter fun x => (ofLex x.1).2 = i) = (ts[i]?.getD []).map (stampAt i) := by
  have hsorted : (ts[i]?.getD []).Pairwise fun a b => a.1 ≤ b.1 := by
    cases ht : ts[i]? with
    | none => exact List.Pairwise.nil
    | some t => exact hts t (List.mem_of_getElem? ht)
  apply eq_of_filter_key_eq Prod.fst
  · exact (pairwise_interleave ts).sublist List.filter_sublist
  · rw [List.pairwise_map]
    refine hsorted.imp fun h => ?_
    rw [stampAt, stampAt, Prod.Lex.toLex_le_toLex]
    omega
  · intro stamp
    obtain ⟨⟨k, j⟩, rfl⟩ := toLex.surjective stamp
    rw [filter_map_stampAt, List.filter_comm, interleave, filter_key_mergeSort,
      filter_stampFrom_zero]
    by_cases hij : i = j
    · rw [if_pos hij, hij, List.filter_eq_self]
      intro x hx
      obtain ⟨y, _, rfl⟩ := List.mem_map.mp hx
      simp [stampAt]
    · rw [if_neg hij, List.filter_eq_nil_iff]
      intro x hx
      obtain ⟨y, _, rfl⟩ := List.mem_map.mp hx
      simp [stampAt, Ne.symm hij]

theorem map_snd_firstRound (runs : List (Run ε α)) :
    (firstRound runs).map Prod.snd = runs.flatMap turn := by
  rw [firstRound, map_snd_stampFrom, List.map_flatten, List.map_map, List.flatMap_def]
  congr 1
  simp [Function.comp_def]

theorem map_snd_map_later (l : List (Stamp × Event)) :
    (l.map later).map Prod.snd = l.map Prod.snd := by
  rw [List.map_map]
  rfl

theorem interleave_ended (as : List α) :
    interleave ((as.map (pure : α → Run ε α)).map timeline) = [] := by
  have hnone : stampFrom 0 ((as.map (pure : α → Run ε α)).map timeline) = [] := by
    rw [← List.map_eq_nil_iff, map_snd_stampFrom]
    simp [pure, timeline]
  rw [interleave, hnone, List.mergeSort_nil]

/-- The log of rounds that end with all values is the merge of all timelines. -/
theorem rounds_fst_of_ok {slots : List (Slot ε α)} {as : List α} (h : (rounds slots).2 = .ok as) :
    (rounds slots).1 = (interleave ((runsOf slots).map timeline)).map Prod.snd := by
  induction slots using rounds_induction with
  | ended as => rw [rounds_ended, runsOf_ended, interleave_ended, List.map_nil]
  | failed slots events e hround => simp [rounds_of_round_error hround] at h
  | next slots events slots' hround ih =>
    obtain ⟨hruns, rfl, -⟩ := round_eq_ok hround
    rw [rounds_of_round_ok hround] at h ⊢
    rw [interleave_timelines, List.map_append, map_snd_firstRound, map_snd_map_later, ← hruns,
      ← ih h]
    rfl

theorem filter_firstRound (before after : List (Run ε α)) (r : Run ε α) :
    ((firstRound (before ++ r :: after)).filter fun x => x.1 ≤ toLex (0, before.length)) =
      firstRound (before ++ [r]) := by
  rw [List.append_cons, firstRound, List.map_append, stampFrom_append, List.filter_append,
    List.filter_eq_self.mpr, List.filter_eq_nil_iff.mpr, List.append_nil]
  · rfl
  · intro x hx
    have hround := round_of_mem_turns hx
    have hplace := (place_of_mem_stampFrom hx).1
    simp only [List.length_map, List.length_append, List.length_singleton] at hplace
    simp only [decide_eq_true_eq, Prod.Lex.le_iff, ofLex_toLex]
    omega
  · intro x hx
    have hround := round_of_mem_turns hx
    have hplace := (place_of_mem_stampFrom hx).2
    simp only [List.length_map, List.length_append, List.length_singleton] at hplace
    simp only [decide_eq_true_eq, Prod.Lex.le_iff, ofLex_toLex]
    omega

theorem filter_firstRound_succ (runs : List (Run ε α)) (k i : ℕ) :
    ((firstRound runs).filter fun x => x.1 ≤ toLex (k + 1, i)) = firstRound runs := by
  rw [List.filter_eq_self]
  intro x hx
  have hround := round_of_mem_turns hx
  simp only [decide_eq_true_eq, Prod.Lex.le_iff, ofLex_toLex]
  omega

theorem filter_map_later_le (l : List (Stamp × Event)) (k i : ℕ) :
    ((l.map later).filter fun x => x.1 ≤ toLex (k + 1, i)) =
      (l.filter fun x => x.1 ≤ toLex (k, i)).map later := by
  rw [List.filter_map]
  congr 2
  funext x
  apply decide_eq_decide.mpr
  simp only [later, Prod.Lex.le_iff, ofLex_toLex]
  omega

theorem filter_map_later_le_zero (l : List (Stamp × Event)) (i : ℕ) :
    ((l.map later).filter fun x => x.1 ≤ toLex (0, i)) = [] := by
  rw [List.filter_eq_nil_iff]
  intro x hx
  obtain ⟨y, _, rfl⟩ := List.mem_map.mp hx
  simp only [later, decide_eq_true_eq, Prod.Lex.le_iff, ofLex_toLex]
  omega

/-- The log of rounds that end in an error is the merge of all timelines up to the stamp of the
error. -/
theorem rounds_fst_of_errsFirst {slots : List (Slot ε α)} {k i : ℕ} {e : ε}
    (h : ErrsFirst (runsOf slots) k i e) :
    (rounds slots).1 =
      ((interleave ((runsOf slots).map timeline)).filter fun x => x.1 ≤ toLex (k, i)).map
        Prod.snd := by
  induction slots using rounds_induction generalizing k i with
  | ended as =>
    obtain ⟨r, hr, -, he⟩ := h.errs
    rw [runsOf_ended] at hr
    obtain ⟨a, _, rfl⟩ := List.mem_map.mp (List.mem_of_getElem? hr)
    simp at he
  | failed slots events e hround =>
    obtain ⟨before, r, after, hsplit, hnone, hfail, rfl⟩ := round_eq_error hround
    rw [rounds_of_round_error hround]
    rw [hsplit] at h ⊢
    obtain ⟨rfl, rfl, -⟩ := h.unique (errsFirst_of_failsAtOnce hnone hfail)
    rw [interleave_timelines, List.filter_append, filter_firstRound, filter_map_later_le_zero,
      List.append_nil, map_snd_firstRound]
    simp
  | next slots events slots' hround ih =>
    obtain ⟨hruns, rfl, hnow⟩ := round_eq_ok hround
    rw [rounds_of_round_ok hround]
    cases k with
    | zero =>
      obtain ⟨r, hr, hfail⟩ := errsAt_zero_iff.mp h.errs
      exact absurd hfail (hnow r (List.mem_of_getElem? hr) e)
    | succ k =>
      have hrest := ih (hruns ▸ (errsFirst_map_rest hnow).mpr h)
      rw [interleave_timelines, List.filter_append, filter_firstRound_succ, filter_map_later_le,
        List.map_append, map_snd_firstRound, map_snd_map_later, ← hruns, ← hrest]
      rfl

theorem together_fst_of_ok {runs : List (Run ε α)} {as : List α}
    (h : (together runs).2 = .ok as) :
    (together runs).1 = (interleave (runs.map timeline)).map Prod.snd := by
  have hlog := rounds_fst_of_ok h
  rwa [runsOf_running] at hlog

theorem together_fst_of_errsFirst {runs : List (Run ε α)} {k i : ℕ} {e : ε}
    (h : ErrsFirst runs k i e) :
    (together runs).1 =
      ((interleave (runs.map timeline)).filter fun x => x.1 ≤ toLex (k, i)).map Prod.snd := by
  rw [← runsOf_running runs] at h
  have hlog := rounds_fst_of_errsFirst h
  rwa [runsOf_running] at hlog

end Run

end FieldRules
