import FieldRules.Proofs.Run.Mapped
import FieldRules.Proofs.Run.Shown
import FieldRules.Proofs.Table.Values
import FieldRules.Proofs.Validator.Extension

/-!
# Verdicts and their texts

What fails is settled before any message is looked up. A validator without messages answers with the
names of what fails, and every validator answers as that one does, with the texts of its messages in
place of the names. So validators that differ in their messages alone differ in texts alone.
-/

namespace FieldRules

theorem Messages.resolve_empty (name : String) : (∅ : Messages).resolve name = name := rfl

namespace Validator

/-- The validator without its messages. Its answers name what fails. -/
def bare (v : Validator) : Validator := { v with messages := ∅ }

theorem runUnknown_map (policy : UnknownFields) (name : String) (f : String → String) :
    (runUnknown policy name).map (Option.map f) = runUnknown policy name := by
  cases policy <;> rfl

theorem runField_eq (v : Validator) (name : String) (record : Record) :
    v.runField name record =
      (v.bare.runField name record).map (Option.map v.messages.resolve) := by
  have hfield : v.bare.field? name = v.field? name := rfl
  rw [runField, runField, hfield]
  cases v.field? name with
  | none => exact (runUnknown_map v.options.unknownFields name v.messages.resolve).symm
  | some field =>
    have hbare : (Messages.resolve v.bare.messages) = id := funext Messages.resolve_empty
    change _ = ((field.run (record.get? name) record).map
      (Option.map (Messages.resolve v.bare.messages))).map (Option.map v.messages.resolve)
    rw [hbare, Option.map_id, Run.map_id]

theorem validateField_eq (v : Validator) (name : String) (record : Record) :
    v.validateField name record =
      ((v.bare.validateField name record).1,
        (v.bare.validateField name record).2.map (Option.map v.messages.resolve)) := by
  rw [validateField, runField_eq, Run.alone_map]
  rfl

def tell (v : Validator) : String × Option String → String × Option String :=
  Prod.map id (Option.map v.messages.resolve)

theorem runs_eq (v : Validator) (names : List String) (record : Record) :
    v.runs names record = (v.bare.runs names record).map (Run.map v.tell) := by
  rw [runs, runs, List.map_map]
  apply List.map_congr_left
  intro name _
  rw [Function.comp_apply, namedRun, runField_eq, namedRun, Run.map_map, Run.map_map]
  rfl

theorem failuresOf_map_tell (v : Validator) (results : List (String × Option String)) :
    failuresOf (results.map v.tell) =
      (failuresOf results).map fun e => (e.1, v.messages.resolve e.2) := by
  rw [failuresOf, failuresOf, List.filterMap_map, List.map_filterMap]
  apply List.filterMap_congr
  rintro ⟨name, failure⟩ _
  cases failure <;> rfl

theorem gather_map_tell (v : Validator) (results : List (String × Option String)) :
    gather (results.map v.tell) =
      (gather results).map (SortedTable.mapValues v.messages.resolve) := by
  rw [gather_eq, gather_eq, failuresOf_map_tell]
  cases failuresOf results with
  | nil => rfl
  | cons failure failures =>
    exact congrArg some (SortedTable.ofList_map v.messages.resolve (failure :: failures))

theorem validateFields_eq (v : Validator) (names : List String) (record : Record) :
    v.validateFields names record =
      ((v.bare.validateFields names record).1,
        (v.bare.validateFields names record).2.map
          (Option.map (SortedTable.mapValues v.messages.resolve))) := by
  have hcheck : v.bare.refused? names = v.refused? names := rfl
  cases hrefused : v.refused? names with
  | some unknown =>
    rw [validateFields_of_refused hrefused, validateFields_of_refused (hcheck.trans hrefused)]
    rfl
  | none =>
    rw [validateFields_of_not_refused hrefused,
      validateFields_of_not_refused (hcheck.trans hrefused), runs_eq, Run.together_map]
    cases (Run.together (v.bare.runs names record)).2 with
    | error e => rfl
    | ok results =>
      change (_, Except.ok (gather (results.map v.tell))) = _
      rw [gather_map_tell]
      rfl

/-- Something that may fail at a name: that it is required, or a rule that it declares. -/
def CanFail (v : Validator) (name failing : String) : Prop :=
  ∃ spec, v.schema.get? name = some spec ∧
    (failing = Field.requiredRule ∨ failing ∈ spec.rules.names)

variable {v : Validator}

/-- The text of a failure is the message of something that may fail there. -/
theorem exists_canFail {name text : String} {record : Record}
    (hfails : (v.validateField name record).2 = .ok (some text)) :
    ∃ failing, v.CanFail name failing ∧ v.messages.resolve failing = text := by
  have hfield := v.field?_eq name
  cases hspec : v.schema.get? name with
  | none =>
    have hnone : v.field? name = none := by
      rw [hfield, hspec]
      rfl
    rw [validateField, alone_runField_of_none hnone] at hfails
    cases hpolicy : v.options.unknownFields <;> simp [hpolicy] at hfails
  | some spec =>
    have hsome : v.field? name = some (Field.ofSpec name spec) := by
      rw [hfield, hspec]
      rfl
    rw [validateField, alone_runField_of_some hsome] at hfails
    obtain ⟨failure, hrun, hfailure⟩ := map_eq_ok_iff.mp hfails
    obtain ⟨failing, rfl, htext⟩ := Option.map_eq_some_iff.mp hfailure
    exact ⟨failing, ⟨spec, hspec, Field.failing_of_run_ok hrun⟩, htext⟩

theorem canFail_of_bare {name failing : String} {record : Record}
    (hfails : (v.bare.validateField name record).2 = .ok (some failing)) :
    v.CanFail name failing := by
  obtain ⟨failing', hcan, htext⟩ := exists_canFail hfails
  obtain rfl : failing' = failing := htext
  exact hcan

inductive SameFailure (v w : Validator) (name : String) : Option String → Option String → Prop
  | passes : SameFailure v w name none none
  | fails {failing : String} (h : v.CanFail name failing) :
      SameFailure v w name (some (v.messages.resolve failing)) (some (w.messages.resolve failing))

inductive SameFailures (v w : Validator) : Option Failures → Option Failures → Prop
  | passes : SameFailures v w none none
  | fails {table table' : Failures}
      (h : ∀ name, SameFailure v w name (table.get? name) (table'.get? name)) :
      SameFailures v w (some table) (some table')

variable {w : Validator}

theorem agree_validateField (hbare : w.bare = v.bare) (name : String) (record : Record) :
    Run.Agree (fun _ => true) (SameFailure v w name) (v.validateField name record)
      (w.validateField name record) := by
  rw [validateField_eq v, validateField_eq w, hbare]
  apply Run.agree_map_map
  intro failure hfailure
  cases failure with
  | none => exact .passes
  | some failing => exact .fails (canFail_of_bare hfailure)

theorem agree_validateFields (hbare : w.bare = v.bare) (names : List String) (record : Record) :
    Run.Agree (fun _ => true) (SameFailures v w) (v.validateFields names record)
      (w.validateFields names record) := by
  rw [validateFields_eq v, validateFields_eq w, hbare]
  apply Run.agree_map_map
  intro answer hanswer
  have hanswers := answers_of_validateFields_ok hanswer
  cases answer with
  | none => exact .passes
  | some table =>
    refine .fails fun name => ?_
    rw [SortedTable.get?_mapValues, SortedTable.get?_mapValues]
    cases hfailing : table.get? name with
    | none => exact .passes
    | some failing =>
      obtain ⟨-, hfails⟩ := ((hanswers.failures table rfl).2 name failing).mp hfailing
      exact .fails (canFail_of_bare hfails)

/-- Messages can always be edited, and then everything is validated as before: the same events are
reported, the same errors end a call, and the same fields fail for the same reasons. Only the texts
are those of the new messages. -/
theorem extendMessages_same_failures (v : Validator) (edit : Messages → Messages) :
    ∃ w, v.extendMessages edit = .ok w ∧ w.messages = edit v.messages ∧ ∀ record,
      (∀ name, Run.Agree (fun _ => true) (SameFailure v w name) (v.validateField name record)
        (w.validateField name record)) ∧
      (∀ names, Run.Agree (fun _ => true) (SameFailures v w) (v.validateFields names record)
        (w.validateFields names record)) ∧
      Run.Agree (fun _ => true) (SameFailures v w) (v.validateAll record)
        (w.validateAll record) := by
  have hbare : ({ v with messages := edit v.messages } : Validator).bare = v.bare := rfl
  refine ⟨{ v with messages := edit v.messages }, build_with_messages v (edit v.messages), rfl, ?_⟩
  intro record
  refine ⟨fun name => ?_, fun names => ?_, ?_⟩
  · exact agree_validateField hbare name record
  · exact agree_validateFields hbare names record
  · exact agree_validateFields hbare v.fieldNames record

/-- The text for the missing field becomes that of a new message. -/
theorem extendMessages_retryValidator :
    build retrySchema retryValidator.messages retryValidator.options = .ok retryValidator ∧
    (retryValidator.validateField "late" ∅).2 = .ok (some "isRequired") ∧
    ∃ w, retryValidator.extendMessages (fun m => m.insert "isRequired" "missing") = .ok w ∧
      (w.validateField "late" ∅).2 = .ok (some "missing") ∧
      Run.Agree (fun _ => true) (SameFailures retryValidator w) (retryValidator.validateAll ∅)
        (w.validateAll ∅) := by
  have hv : build retrySchema retryValidator.messages retryValidator.options =
      .ok retryValidator := rfl
  obtain ⟨w, hw, -, hagree⟩ :=
    extendMessages_same_failures retryValidator fun m => m.insert "isRequired" "missing"
  obtain ⟨-, -, hall⟩ := hagree ∅
  refine ⟨hv, rfl, w, hw, ?_, hall⟩
  obtain rfl := Except.ok.inj hw
  rfl

end Validator

end FieldRules
