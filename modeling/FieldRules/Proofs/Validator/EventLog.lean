import FieldRules.Proofs.Run.Interleaving
import FieldRules.Proofs.Validator.Together

/-!
# The log of validating fields together

The log is the merge of what validating each listed name by itself would report, in the order of the
suspensions before each event and then of the places in the list. If a name errs, the log ends with
the events that are due when the first error is met.
-/

namespace FieldRules.Validator

/-- What validating each name by itself reports, each event with the suspensions before it. -/
def timelines (v : Validator) (names : List String) (record : Record) : List (List (ℕ × Event)) :=
  names.map fun name => (v.runField name record).timeline

theorem map_timeline_runs (v : Validator) (names : List String) (record : Record) :
    (v.runs names record).map Run.timeline = v.timelines names record := by
  rw [runs, timelines, List.map_map]
  apply List.map_congr_left
  intro name _
  exact Run.timeline_map _ _

theorem pairwise_of_mem_timelines {v : Validator} {names : List String} {record : Record}
    {timeline : List (ℕ × Event)} (h : timeline ∈ v.timelines names record) :
    timeline.Pairwise fun a b => a.1 ≤ b.1 := by
  obtain ⟨name, _, rfl⟩ := List.mem_map.mp h
  exact Run.pairwise_timeline _

theorem validateFields_fst_of_ok {v : Validator} {names : List String} {record : Record}
    (hcheck : v.refused? names = none)
    (hok : ∀ name ∈ names, ∃ failure, (v.validateField name record).2 = .ok failure) :
    (v.validateFields names record).1 =
      (Run.interleave (v.timelines names record)).map Prod.snd := by
  obtain ⟨answer, hanswer⟩ := (v.validateFields_ok_iff names record).mpr hok
  rw [validateFields_of_not_refused hcheck] at hanswer ⊢
  obtain ⟨results, hresults, _⟩ := map_eq_ok_iff.mp hanswer
  rw [← map_timeline_runs]
  exact Run.together_fst_of_ok hresults

theorem validateFields_fst_of_errsFirst {v : Validator} {names : List String} {record : Record}
    (hcheck : v.refused? names = none) {place : ℕ} {name : String} {e : ValidationError}
    (h : v.ErrsFirst names record place name e) :
    (v.validateFields names record).1 =
      ((Run.interleave (v.timelines names record)).filter fun x =>
        x.1 ≤ toLex (v.waits record name, place)).map Prod.snd := by
  rw [validateFields_of_not_refused hcheck, ← map_timeline_runs]
  exact Run.together_fst_of_errsFirst h.runs

/-- The log of names that are validated together is the merge of the logs of each by itself, in the
order of their stamps, and each in its own order. An error cuts the merge after its own stamp. -/
theorem validateFields_log_eq_interleave (v : Validator) (names : List String) (record : Record)
    (hcheck : v.refused? names = none) :
    (∀ name, (v.runField name record).timeline.map Prod.snd = (v.validateField name record).1) ∧
    (Run.interleave (v.timelines names record)).Pairwise (fun a b => a.1 ≤ b.1) ∧
    (∀ place, ((Run.interleave (v.timelines names record)).filter fun x =>
        (ofLex x.1).2 = place) =
      ((v.timelines names record)[place]?.getD []).map (Run.stampAt place)) ∧
    ((∀ name ∈ names, ∃ failure, (v.validateField name record).2 = .ok failure) →
      (v.validateFields names record).1 =
        (Run.interleave (v.timelines names record)).map Prod.snd) ∧
    ((∃ name ∈ names, ∃ e, (v.validateField name record).2 = .error e) →
      ∃ place name e, v.ErrsFirst names record place name e ∧
        (v.validateFields names record).2 = .error e ∧
        (v.validateFields names record).1 =
          ((Run.interleave (v.timelines names record)).filter fun x =>
            x.1 ≤ toLex (v.waits record name, place)).map Prod.snd) := by
  refine ⟨fun name => Run.map_snd_timeline _, Run.pairwise_interleave _, ?_,
    validateFields_fst_of_ok hcheck, ?_⟩
  · exact Run.filter_place_interleave fun _ => pairwise_of_mem_timelines
  · rintro ⟨name, hname, e, he⟩
    obtain ⟨e', he'⟩ := validateFields_error_of_mem hname he
    obtain ⟨place, first, hfirst⟩ := errsFirst_of_validateFields_error hcheck he'
    exact ⟨place, first, e', hfirst, he', validateFields_fst_of_errsFirst hcheck hfirst⟩

theorem validateFields_log_unsteady :
    (unsteadyValidator .ignore).refused? ["late", "other", "soon"] = none ∧
    ((unsteadyValidator .ignore).validateField "soon" unsteadyRecord).2 =
      .error (.rule "soon" "quick" "no answer") ∧
    ∃ place name e,
      (unsteadyValidator .ignore).ErrsFirst ["late", "other", "soon"] unsteadyRecord place name e ∧
      ((unsteadyValidator .ignore).validateFields ["late", "other", "soon"] unsteadyRecord).2 =
        .error e ∧
      ((unsteadyValidator .ignore).validateFields ["late", "other", "soon"] unsteadyRecord).1 =
        ((Run.interleave ((unsteadyValidator .ignore).timelines ["late", "other", "soon"]
          unsteadyRecord)).filter fun x =>
            x.1 ≤ toLex ((unsteadyValidator .ignore).waits unsteadyRecord name, place)).map
              Prod.snd :=
  ⟨rfl, rfl, (validateFields_log_eq_interleave _ _ _ rfl).2.2.2.2 ⟨"soon", by simp, _, rfl⟩⟩

end FieldRules.Validator
