import FieldRules.Proofs.Run.Shown
import FieldRules.Proofs.Validator.Build
import FieldRules.Proofs.Validator.Together

/-!
# Refusing and ignoring undeclared names

Two validators that differ only in what they do at undeclared names are compared. On declared names
they do the same. In a list that is validated together, undeclared names are idle where they are
ignored: without them the answer and the verdicts are the same. Their warnings all belong to the
first round, which ends early only where a name errs before it suspends.
-/

namespace FieldRules.Validator

def errsAtOnce (v : Validator) (record : Record) (name : String) : Bool :=
  v.waits record name = 0 && !(v.validateField name record).2.isOk

structure DifferInPolicy (reject ignore : Validator) : Prop where
  fields : ignore.fields = reject.fields
  messages : ignore.messages = reject.messages
  rejects : reject.options.unknownFields = .reject
  ignores : ignore.options.unknownFields = .ignore

theorem differInPolicy_of_build {schema : Schema} {messages : Messages} {strict : Bool}
    {reject ignore : Validator} (hreject : build schema messages ⟨.reject, strict⟩ = .ok reject)
    (hignore : build schema messages ⟨.ignore, strict⟩ = .ok ignore) :
    DifferInPolicy reject ignore := by
  obtain ⟨hschema, hmessages, hoptions⟩ := build_eq_ok_iff.mp hreject
  obtain ⟨hschema', hmessages', hoptions'⟩ := build_eq_ok_iff.mp hignore
  refine ⟨?_, by rw [hmessages, hmessages'], by rw [hoptions], by rw [hoptions']⟩
  rw [fields_eq, fields_eq, hschema, hschema']

/-- An undeclared name that is ignored reports a warning and ends. -/
theorem namedRun_of_ignored {v : Validator} (hpolicy : v.options.unknownFields = .ignore)
    {name : String} (hname : name ∉ v.fieldNames) (record : Record) :
    v.namedRun record name = .done [.skippedUnknown name] (.ok (name, none)) := by
  rw [namedRun, runField, field?_eq_none_iff.mpr hname, hpolicy]
  rfl

/-- A declared name reports nothing but the verdicts of its rules. -/
theorem level_of_declared {v : Validator} {name : String} (hname : name ∈ v.fieldNames)
    {record : Record} {event : Event} (h : event ∈ (v.namedRun record name).alone.1) :
    event.level = .trace := by
  cases hfield : v.field? name with
  | none => exact absurd hname (field?_eq_none_iff.mp hfield)
  | some field =>
    rw [alone_namedRun, validateField, alone_runField_of_some hfield] at h
    obtain ⟨rule, passed, rfl⟩ := Field.verdict_of_mem_run h
    rfl

theorem errsAtOnce_eq_true_iff {v : Validator} {record : Record} {name : String} :
    v.errsAtOnce record name = true ↔ ∃ e, (v.namedRun record name).FailsAtOnce e := by
  simp only [errsAtOnce, Run.FailsAtOnce, suspensions_namedRun, alone_namedRun_eq_error_iff,
    Bool.and_eq_true, decide_eq_true_eq]
  cases (v.validateField name record).2 <;> simp [Except.isOk, Except.toBool]

/-- An undeclared name that is ignored never errs. -/
theorem mem_fieldNames_of_errsAtOnce {v : Validator} (hpolicy : v.options.unknownFields = .ignore)
    {record : Record} {name : String} (h : v.errsAtOnce record name = true) :
    name ∈ v.fieldNames := by
  by_contra hname
  obtain ⟨e, _, herr⟩ := errsAtOnce_eq_true_iff.mp h
  rw [namedRun_of_ignored hpolicy hname] at herr
  simp [Run.alone] at herr

theorem DifferInPolicy.fieldNames {reject ignore : Validator} (h : DifferInPolicy reject ignore) :
    ignore.fieldNames = reject.fieldNames := by
  rw [Validator.fieldNames, Validator.fieldNames, h.fields]

/-- Where a name is declared, the policy for others does not matter. -/
theorem DifferInPolicy.namedRun {reject ignore : Validator} (h : DifferInPolicy reject ignore)
    {name : String} (hname : name ∈ reject.fieldNames) (record : Record) :
    ignore.namedRun record name = reject.namedRun record name := by
  have hfield : ignore.field? name = reject.field? name := by
    rw [field?, field?, h.fields]
  rw [Validator.namedRun, Validator.namedRun, runField, runField, hfield, h.messages]
  cases hdeclared : reject.field? name with
  | none => exact absurd hname (field?_eq_none_iff.mp hdeclared)
  | some field => rfl

theorem refused?_of_rejects {v : Validator} (hpolicy : v.options.unknownFields = .reject)
    (names : List String) : v.refused? names = names.find? fun name => name ∉ v.fieldNames := by
  have hname (name : String) : (v.field? name).isNone = decide (name ∉ v.fieldNames) := by
    rw [Bool.eq_iff_iff, Option.isNone_iff_eq_none, field?_eq_none_iff, decide_eq_true_eq]
  simp only [refused?, hpolicy, hname]

theorem refused?_declared {v : Validator} (hpolicy : v.options.unknownFields = .reject)
    (names : List String) : v.refused? (names.filter fun name => name ∈ v.fieldNames) = none := by
  rw [refused?_of_rejects hpolicy, List.find?_eq_none]
  intro name hname
  simpa using (List.mem_filter.mp hname).2

theorem refused?_of_ignores {v : Validator} (hpolicy : v.options.unknownFields = .ignore)
    (names : List String) : v.refused? names = none := by
  rw [refused?, hpolicy]

theorem DifferInPolicy.without {reject ignore : Validator} (h : DifferInPolicy reject ignore)
    (names : List String) (record : Record) :
    Run.Without (fun event => event.level = .trace) (fun (name, failure) => failure.map (name, ·))
      ((ignore.runs names record).map .running)
      ((reject.runs (names.filter fun name => name ∈ reject.fieldNames) record).map .running) := by
  induction names with
  | nil => exact .nil
  | cons name names ih =>
    by_cases hname : name ∈ reject.fieldNames
    · rw [List.filter_cons_of_pos (by simpa using hname), runs_cons, runs_cons, h.namedRun hname]
      exact .keep _ ih
    · rw [List.filter_cons_of_neg (by simpa using hname), runs_cons,
        namedRun_of_ignored h.ignores (h.fieldNames ▸ hname)]
      refine .drop ⟨?_, (name, none), rfl, rfl⟩ ih
      intro event hevent
      obtain rfl : event = .skippedUnknown name := by
        simpa [Run.Slot.run, Run.alone] using hevent
      rfl

theorem DifferInPolicy.agree {reject ignore : Validator} (h : DifferInPolicy reject ignore)
    (names : List String) (record : Record) :
    Run.Agree (fun event => event.level = .trace) Eq (ignore.validateFields names record)
      (reject.validateFields (names.filter fun name => name ∈ reject.fieldNames) record) := by
  rw [validateFields_of_not_refused (refused?_of_ignores h.ignores names),
    validateFields_of_not_refused (refused?_declared h.rejects names)]
  refine (Run.agree_rounds (h.without names record)).map fun results results' hfailures => ?_
  rw [gather_eq, gather_eq, failuresOf, failuresOf, hfailures]

theorem filter_warn_turn {v : Validator} (hpolicy : v.options.unknownFields = .ignore)
    (record : Record) (name : String) :
    ((v.namedRun record name).turn.filter fun event => event.level = .warn) =
      if name ∈ v.fieldNames then [] else [.skippedUnknown name] := by
  by_cases hname : name ∈ v.fieldNames
  · rw [if_pos hname, List.filter_eq_nil_iff]
    intro event hevent
    simp [level_of_declared hname (Run.mem_alone_of_mem_turn hevent)]
  · rw [if_neg hname, namedRun_of_ignored hpolicy hname]
    rfl

theorem level_of_mem_rest {v : Validator} (hpolicy : v.options.unknownFields = .ignore)
    {record : Record} {name : String} {event : Event}
    (h : event ∈ (v.namedRun record name).rest.alone.1) :
    event.level ≠ .warn := by
  by_cases hname : name ∈ v.fieldNames
  · simp [level_of_declared hname (Run.mem_alone_of_mem_rest h)]
  · rw [namedRun_of_ignored hpolicy hname] at h
    simp [Run.rest, Run.alone] at h

theorem filter_warn_round {v : Validator} (hpolicy : v.options.unknownFields = .ignore)
    (names : List String) (record : Record) :
    ((Run.round ((v.runs names record).map .running)).1.filter fun event => event.level = .warn) =
      ((names.takeWhile fun name => !v.errsAtOnce record name).filter fun name =>
        name ∉ v.fieldNames).map .skippedUnknown := by
  induction names with
  | nil => rfl
  | cons name names ih =>
    rw [runs_cons, List.map_cons]
    have hturn := filter_warn_turn hpolicy record name
    rcases Run.round_cons (.running (v.namedRun record name)) with
      ⟨next, _, hnone, hround⟩ | ⟨e, hfails, hround⟩
    · -- The name takes its turn, and the round goes on behind it.
      have hgoes : v.errsAtOnce record name = false := by
        rw [Bool.eq_false_iff, ne_eq, errsAtOnce_eq_true_iff, not_exists]
        exact hnone
      rw [hround, List.takeWhile_cons_of_pos (by rw [hgoes]; rfl), Run.prepend, Run.Slot.run,
        List.filter_append, hturn, List.filter_cons]
      by_cases hname : name ∈ v.fieldNames
      · simpa [hname] using ih
      · simpa [hname] using ih
    · -- The round ends here, at a declared name, so nothing is warned of any more.
      have hstops := errsAtOnce_eq_true_iff.mpr ⟨e, hfails⟩
      have hname := mem_fieldNames_of_errsAtOnce hpolicy hstops
      rw [hround, List.takeWhile_cons_of_neg (by rw [hstops]; exact Bool.false_ne_true),
        Run.Slot.run, hturn, if_pos hname]
      rfl

/-- Warnings come in the order of the list, up to the first name that errs before it suspends. -/
theorem filter_warn_validateFields {v : Validator} (hpolicy : v.options.unknownFields = .ignore)
    (names : List String) (record : Record) :
    ((v.validateFields names record).1.filter fun event => event.level = .warn) =
      ((names.takeWhile fun name => !v.errsAtOnce record name).filter fun name =>
        name ∉ v.fieldNames).map .skippedUnknown := by
  rw [validateFields_of_not_refused (refused?_of_ignores hpolicy names),
    ← filter_warn_round hpolicy]
  apply Run.filter_rounds_fst
  intro r hr event hevent
  rw [Run.runsOf_running] at hr
  obtain ⟨name, _, rfl⟩ := List.mem_map.mp hr
  exact decide_eq_false (level_of_mem_rest hpolicy hevent)

theorem level_of_ignores {v : Validator} (hpolicy : v.options.unknownFields = .ignore)
    {name : String} {record : Record} {event : Event}
    (h : event ∈ (v.namedRun record name).alone.1) :
    event.level = .trace ∨ event.level = .warn := by
  by_cases hname : name ∈ v.fieldNames
  · exact .inl (level_of_declared hname h)
  · rw [namedRun_of_ignored hpolicy hname] at h
    obtain rfl : event = .skippedUnknown name := by simpa [Run.alone] using h
    exact .inr rfl

theorem filter_trace_declared (v : Validator) (names : List String) (record : Record) :
    ((v.validateFields (names.filter fun name => name ∈ v.fieldNames) record).1.filter
      fun event => event.level = .trace) =
        (v.validateFields (names.filter fun name => name ∈ v.fieldNames) record).1 := by
  rw [List.filter_eq_self]
  intro event hevent
  obtain ⟨name, hname, hevent⟩ := exists_mem_namedRun hevent
  have hdeclared : name ∈ v.fieldNames := by simpa using (List.mem_filter.mp hname).2
  exact decide_eq_true (level_of_declared hdeclared hevent)

/-- Two validators with the same schema, messages and strictness agree off the undeclared names.
Where these are refused, the first of them is the error and nothing is reported. Where they are
ignored, answer and verdicts are those of the list without them, and a warning is added for each of
them that comes before the first name that errs before it suspends. -/
theorem validateFields_reject_ignore {schema : Schema} {messages : Messages} {strict : Bool}
    {reject ignore : Validator} (hreject : build schema messages ⟨.reject, strict⟩ = .ok reject)
    (hignore : build schema messages ⟨.ignore, strict⟩ = .ok ignore) (names : List String)
    (record : Record) :
    (∀ unknown, names.find? (fun name => name ∉ schema.names) = some unknown →
      reject.validateFields names record = ([], .error (.unknownField unknown))) ∧
    (ignore.validateFields names record).2 =
      (reject.validateFields (names.filter fun name => name ∈ schema.names) record).2 ∧
    ((ignore.validateFields names record).1.filter fun event => event.level = .trace) =
      (reject.validateFields (names.filter fun name => name ∈ schema.names) record).1 ∧
    ((ignore.validateFields names record).1.filter fun event => event.level = .warn) =
      ((names.takeWhile fun name => !ignore.errsAtOnce record name).filter fun name =>
        name ∉ schema.names).map .skippedUnknown ∧
    ∀ event ∈ (ignore.validateFields names record).1,
      event.level = .trace ∨ event.level = .warn := by
  have hpolicies := differInPolicy_of_build hreject hignore
  have hagree := hpolicies.agree names record
  have hwarn := filter_warn_validateFields hpolicies.ignores names record
  have hnames : reject.fieldNames = schema.names := by
    rw [fieldNames_eq_names, (build_eq_ok_iff.mp hreject).1]
  rw [hpolicies.fieldNames] at hwarn
  rw [← hnames]
  refine ⟨fun unknown hunknown => ?_, hagree.snd_eq, ?_, hwarn, fun event hevent => ?_⟩
  · apply validateFields_of_refused
    rw [refused?_of_rejects hpolicies.rejects, hunknown]
  · rw [hagree.filter_fst, filter_trace_declared]
  · obtain ⟨name, _, hevent⟩ := exists_mem_namedRun hevent
    exact level_of_ignores hpolicies.ignores hevent

theorem validateFields_unsteady_policies :
    build unsteadySchema ∅ ⟨.reject, false⟩ = .ok (unsteadyValidator .reject) ∧
    build unsteadySchema ∅ ⟨.ignore, false⟩ = .ok (unsteadyValidator .ignore) ∧
    (unsteadyValidator .reject).validateFields ["late", "other", "soon"] unsteadyRecord =
      ([], .error (.unknownField "other")) ∧
    ((unsteadyValidator .ignore).validateFields ["late", "other", "soon"] unsteadyRecord).2 =
      ((unsteadyValidator .reject).validateFields ["late", "soon"] unsteadyRecord).2 ∧
    (((unsteadyValidator .ignore).validateFields ["late", "other", "soon"] unsteadyRecord).1.filter
      fun event => event.level = .warn) = [.skippedUnknown "other"] := by
  have hreject : build unsteadySchema ∅ ⟨.reject, false⟩ = .ok (unsteadyValidator .reject) := rfl
  have hignore : build unsteadySchema ∅ ⟨.ignore, false⟩ = .ok (unsteadyValidator .ignore) := rfl
  obtain ⟨hunknown, hanswer, -, hwarn, -⟩ :=
    validateFields_reject_ignore hreject hignore ["late", "other", "soon"] unsteadyRecord
  exact ⟨hreject, hignore, hunknown "other" rfl, hanswer, hwarn⟩

end FieldRules.Validator
