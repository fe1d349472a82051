import FieldRules.Proofs.Except
import FieldRules.Proofs.Run.Rounds
import FieldRules.Proofs.Validator.Answers

/-!
# Validating fields together

Validating several names together is compared with validating each of them by itself. The answer is
that of the single validations gathered by name. The error, if there is one, is that of the name
whose validation errs after the fewest suspensions, the earlier one where two errors are due at
once.
-/

namespace FieldRules.Validator

/-- The run of a name, which keeps the name beside its result. -/
def namedRun (v : Validator) (record : Record) (name : String) :
    Run ValidationError (String × Option String) :=
  (v.runField name record).map fun failure => (name, failure)

def runs (v : Validator) (names : List String) (record : Record) :
    List (Run ValidationError (String × Option String)) :=
  names.map (v.namedRun record)

@[simp] theorem runs_nil (v : Validator) (record : Record) : v.runs [] record = [] := rfl

@[simp] theorem runs_cons (v : Validator) (name : String) (names : List String) (record : Record) :
    v.runs (name :: names) record = v.namedRun record name :: v.runs names record :=
  rfl

theorem alone_namedRun (v : Validator) (record : Record) (name : String) :
    (v.namedRun record name).alone = ((v.validateField name record).1,
      (v.validateField name record).2.map fun failure => (name, failure)) :=
  Run.alone_map _ _

theorem alone_namedRun_eq_error_iff {v : Validator} {record : Record} {name : String}
    {e : ValidationError} :
    (v.namedRun record name).alone.2 = .error e ↔ (v.validateField name record).2 = .error e := by
  rw [alone_namedRun, map_eq_error_iff]

theorem suspensions_namedRun (v : Validator) (record : Record) (name : String) :
    (v.namedRun record name).suspensions = v.waits record name := by
  rw [namedRun, Run.suspensions_map, suspensions_runField]

theorem refused?_eq_some {v : Validator} {names : List String} {name : String}
    (h : v.refused? names = some name) (record : Record) :
    name ∈ names ∧ (v.validateField name record).2 = .error (.unknownField name) := by
  rw [refused?] at h
  split at h
  · rename_i hpolicy
    have hnone : v.field? name = none := by simpa using List.find?_some h
    refine ⟨List.mem_of_find?_eq_some h, ?_⟩
    rw [validateField, alone_runField_of_none hnone, hpolicy]
  · simp at h

/-- Past the check for undeclared names every error is one of a rule. -/
theorem rule_of_validateField_error {v : Validator} {names : List String} {record : Record}
    (hcheck : v.refused? names = none) {name : String} (hname : name ∈ names) {e : ValidationError}
    (h : (v.validateField name record).2 = .error e) :
    ∃ rule source, e = .rule name rule source := by
  rw [validateField] at h
  cases hfield : v.field? name with
  | some field =>
    rw [alone_runField_of_some hfield, map_eq_error_iff] at h
    obtain ⟨rule, source, rfl⟩ := Field.rule_of_run_error h
    exact ⟨rule, source, by rw [name_of_field?_eq_some hfield]⟩
  | none =>
    rw [alone_runField_of_none hfield] at h
    rw [refused?] at hcheck
    split at hcheck
    · have hdeclared := List.find?_eq_none.mp hcheck name hname
      simp [hfield] at hdeclared
    · rename_i hpolicy
      simp [hpolicy] at h

theorem validateFields_of_refused {v : Validator} {names : List String} {name : String}
    (h : v.refused? names = some name) (record : Record) :
    v.validateFields names record = ([], .error (.unknownField name)) := by
  rw [validateFields, h]

theorem validateFields_of_not_refused {v : Validator} {names : List String}
    (h : v.refused? names = none) (record : Record) :
    v.validateFields names record =
      ((Run.together (v.runs names record)).1,
        (Run.together (v.runs names record)).2.map gather) := by
  rw [validateFields, h]
  rfl

/-- What validating names together reports, the run of one of them does. -/
theorem exists_mem_namedRun {v : Validator} {names : List String} {record : Record}
    {event : Event} (h : event ∈ (v.validateFields names record).1) :
    ∃ name ∈ names, event ∈ (v.namedRun record name).alone.1 := by
  cases hcheck : v.refused? names with
  | some unknown => simp [validateFields_of_refused hcheck] at h
  | none =>
    rw [validateFields_of_not_refused hcheck] at h
    obtain ⟨r, hr, hevent⟩ := Run.exists_mem_alone_of_mem_together h
    obtain ⟨name, hname, rfl⟩ := List.mem_map.mp hr
    exact ⟨name, hname, hevent⟩

theorem mem_results {v : Validator} {names : List String} {record : Record}
    {results : List (String × Option String)}
    (h : (Run.together (v.runs names record)).2 = .ok results) (name : String)
    (failure : Option String) : (name, failure) ∈ results ↔
      name ∈ names ∧ (v.validateField name record).2 = .ok failure := by
  have hmap := Run.map_alone_of_together_ok h
  have hiff : (name, failure) ∈ results ↔
      Except.ok (name, failure) ∈ (v.runs names record).map fun r => r.alone.2 := by
    rw [hmap]
    simp
  rw [hiff]
  simp only [runs, List.map_map, List.mem_map, Function.comp_apply, alone_namedRun,
    map_eq_ok_iff]
  constructor
  · rintro ⟨name', hname', failure', hrun, hpair⟩
    obtain ⟨rfl, rfl⟩ := Prod.mk.inj hpair
    exact ⟨hname', hrun⟩
  · rintro ⟨hname, hok⟩
    exact ⟨name, hname, failure, hok, rfl⟩

theorem answers_of_together_ok {v : Validator} {names : List String} {record : Record}
    {results : List (String × Option String)}
    (h : (Run.together (v.runs names record)).2 = .ok results) :
    v.Answers names record (gather results) := by
  have hmem := mem_results h
  apply answers_gather hmem
  intro name hname
  have hrun : v.namedRun record name ∈ v.runs names record := List.mem_map_of_mem hname
  have hok : (v.namedRun record name).alone.2 ∈ results.map Except.ok := by
    rw [← Run.map_alone_of_together_ok h]
    exact List.mem_map_of_mem hrun
  obtain ⟨result, _, hresult⟩ := List.mem_map.mp hok
  rw [alone_namedRun] at hresult
  obtain ⟨failure, hfailure, _⟩ := map_eq_ok_iff.mp hresult.symm
  exact ⟨failure, hfailure⟩

structure ErrsFirst (v : Validator) (names : List String) (record : Record) (place : ℕ)
    (name : String) (e : ValidationError) : Prop where
  at_place : names[place]? = some name
  errs : (v.validateField name record).2 = .error e
  least : ∀ place' name' e', names[place']? = some name' →
    (v.validateField name' record).2 = .error e' →
    toLex (v.waits record name, place) ≤ toLex (v.waits record name', place')

theorem errsAt_runs {v : Validator} {names : List String} {record : Record} {k place : ℕ}
    {e : ValidationError} :
    Run.ErrsAt (v.runs names record) k place e ↔ ∃ name, names[place]? = some name ∧
      v.waits record name = k ∧ (v.validateField name record).2 = .error e := by
  constructor
  · rintro ⟨r, hr, hk, he⟩
    rw [runs, List.getElem?_map, Option.map_eq_some_iff] at hr
    obtain ⟨name, hname, rfl⟩ := hr
    rw [suspensions_namedRun] at hk
    exact ⟨name, hname, hk, alone_namedRun_eq_error_iff.mp he⟩
  · rintro ⟨name, hname, hk, he⟩
    refine ⟨v.namedRun record name, by rw [runs, List.getElem?_map, hname]; rfl, ?_, ?_⟩
    · rw [suspensions_namedRun, hk]
    · exact alone_namedRun_eq_error_iff.mpr he

theorem ErrsFirst.runs {v : Validator} {names : List String} {record : Record} {place : ℕ}
    {name : String} {e : ValidationError} (h : v.ErrsFirst names record place name e) :
    Run.ErrsFirst (v.runs names record) (v.waits record name) place e where
  errs := errsAt_runs.mpr ⟨name, h.at_place, rfl, h.errs⟩
  least := by
    intro k' place' e' h'
    obtain ⟨name', hname', rfl, he'⟩ := errsAt_runs.mp h'
    exact h.least place' name' e' hname' he'

theorem errsFirst_of_runs {v : Validator} {names : List String} {record : Record} {k place : ℕ}
    {e : ValidationError} (h : Run.ErrsFirst (v.runs names record) k place e) :
    ∃ name, v.ErrsFirst names record place name e := by
  obtain ⟨name, hname, rfl, he⟩ := errsAt_runs.mp h.errs
  refine ⟨name, hname, he, fun place' name' e' hname' he' => ?_⟩
  exact h.least _ place' e' (errsAt_runs.mpr ⟨name', hname', rfl, he'⟩)

theorem errsFirst_of_validateFields_error {v : Validator} {names : List String} {record : Record}
    (hcheck : v.refused? names = none) {e : ValidationError}
    (h : (v.validateFields names record).2 = .error e) :
    ∃ place name, v.ErrsFirst names record place name e := by
  rw [validateFields_of_not_refused hcheck, map_eq_error_iff] at h
  obtain ⟨k, place, hfirst⟩ := Run.errsFirst_of_together_error h
  obtain ⟨name, hname⟩ := errsFirst_of_runs hfirst
  exact ⟨place, name, hname⟩

theorem exists_validateField_error {v : Validator} {names : List String} {record : Record}
    {e : ValidationError} (h : (v.validateFields names record).2 = .error e) :
    ∃ name ∈ names, (v.validateField name record).2 = .error e := by
  cases hcheck : v.refused? names with
  | some unknown =>
    obtain ⟨hmem, herr⟩ := refused?_eq_some hcheck record
    rw [validateFields_of_refused hcheck] at h
    obtain rfl := Except.error.inj h
    exact ⟨unknown, hmem, herr⟩
  | none =>
    obtain ⟨place, name, hfirst⟩ := errsFirst_of_validateFields_error hcheck h
    exact ⟨name, List.mem_of_getElem? hfirst.at_place, hfirst.errs⟩

theorem validateFields_error_of_mem {v : Validator} {names : List String} {record : Record}
    {name : String} (hname : name ∈ names) {e : ValidationError}
    (h : (v.validateField name record).2 = .error e) :
    ∃ e', (v.validateFields names record).2 = .error e' := by
  cases hcheck : v.refused? names with
  | some unknown => exact ⟨_, by rw [validateFields_of_refused hcheck]⟩
  | none =>
    rw [validateFields_of_not_refused hcheck]
    have hrun : v.namedRun record name ∈ v.runs names record := List.mem_map_of_mem hname
    obtain ⟨e', he'⟩ :=
      Run.together_error_of_mem hrun (alone_namedRun_eq_error_iff.mpr h)
    exact ⟨e', map_eq_error_iff.mpr he'⟩

theorem answers_of_validateFields_ok {v : Validator} {names : List String} {record : Record}
    {answer : Option Failures} (h : (v.validateFields names record).2 = .ok answer) :
    v.Answers names record answer := by
  cases hcheck : v.refused? names with
  | some unknown => simp [validateFields_of_refused hcheck] at h
  | none =>
    rw [validateFields_of_not_refused hcheck, map_eq_ok_iff] at h
    obtain ⟨results, hresults, rfl⟩ := h
    exact answers_of_together_ok hresults

theorem validateFields_ok_iff (v : Validator) (names : List String) (record : Record) :
    (∃ answer, (v.validateFields names record).2 = .ok answer) ↔
      ∀ name ∈ names, ∃ failure, (v.validateField name record).2 = .ok failure := by
  constructor
  · rintro ⟨answer, hanswer⟩ name hname
    cases hfield : (v.validateField name record).2 with
    | ok failure => exact ⟨failure, rfl⟩
    | error e =>
      obtain ⟨e', he'⟩ := validateFields_error_of_mem hname hfield
      simp [hanswer] at he'
  · intro hok
    cases hend : (v.validateFields names record).2 with
    | ok answer => exact ⟨answer, rfl⟩
    | error e =>
      obtain ⟨name, hname, he⟩ := exists_validateField_error hend
      obtain ⟨failure, hfailure⟩ := hok name hname
      simp [hfailure] at he

/-- The answer depends only on which names are listed and on the verdicts of the rules. -/
theorem validateFields_ok_congr {v w : Validator} {names names' : List String} {record : Record}
    (hfields : ∀ name, w.validateField name record = v.validateField name record)
    (hnames : ∀ name, name ∈ names ↔ name ∈ names') {answer : Option Failures}
    (h : (v.validateFields names record).2 = .ok answer) :
    (w.validateFields names' record).2 = .ok answer := by
  have hok : ∀ name ∈ names', ∃ failure, (w.validateField name record).2 = .ok failure := by
    have hok := (v.validateFields_ok_iff names record).mp ⟨answer, h⟩
    simpa only [hfields, hnames] using hok
  obtain ⟨answer', h'⟩ := (w.validateFields_ok_iff names' record).mpr hok
  have hanswers := (answers_of_validateFields_ok h).congr hfields hnames
  rw [h', (answers_of_validateFields_ok h').unique hanswers]

/-- Validating names together answers exactly if each of them by itself does, with the failures of
all; it errs only with an error of one of them. Neither the answer nor whether there is one depends
on the order of the names, their repetition or the suspensions of the rules. -/
theorem validateFields_refines_validateField (v : Validator) (names : List String)
    (record : Record) :
    ((∃ answer, (v.validateFields names record).2 = .ok answer) ↔
      ∀ name ∈ names, ∃ failure, (v.validateField name record).2 = .ok failure) ∧
    (∀ answer, (v.validateFields names record).2 = .ok answer → v.Answers names record answer) ∧
    (∀ e, (v.validateFields names record).2 = .error e →
      ∃ name ∈ names, (v.validateField name record).2 = .error e) ∧
    ∀ w names', v.SameButWaits w → (∀ name, name ∈ names ↔ name ∈ names') →
      (∀ answer, (v.validateFields names record).2 = .ok answer ↔
        (w.validateFields names' record).2 = .ok answer) ∧
      ((∃ e, (v.validateFields names record).2 = .error e) ↔
        ∃ e, (w.validateFields names' record).2 = .error e) := by
  refine ⟨v.validateFields_ok_iff names record, fun _ => answers_of_validateFields_ok,
    fun _ => exists_validateField_error, fun w names' hw hnames => ⟨fun answer => ?_, ?_⟩⟩
  · have hfields (name : String) := hw.validateField name record
    constructor
    · exact validateFields_ok_congr hfields hnames
    · exact validateFields_ok_congr (fun name => (hfields name).symm) fun name => (hnames name).symm
  · constructor
    · rintro ⟨e, he⟩
      obtain ⟨name, hname, hfield⟩ := exists_validateField_error he
      rw [← hw.validateField] at hfield
      exact validateFields_error_of_mem ((hnames name).mp hname) hfield
    · rintro ⟨e, he⟩
      obtain ⟨name, hname, hfield⟩ := exists_validateField_error he
      rw [hw.validateField] at hfield
      exact validateFields_error_of_mem ((hnames name).mpr hname) hfield

/-- Where names are validated together and one errs, the error is that of the rule whose name errs
first. Without suspensions every name before it has a result of its own. -/
theorem validateFields_error_of_errsFirst (v : Validator) (names : List String) (record : Record)
    (hcheck : v.refused? names = none)
    (herrs : ∃ name ∈ names, ∃ e, (v.validateField name record).2 = .error e) :
    ∃ place name rule source, v.ErrsFirst names record place name (.rule name rule source) ∧
      (v.validateFields names record).2 = .error (.rule name rule source) ∧
      ((∀ name' ∈ names, v.waits record name' = 0) → ∀ place' name', place' < place →
        names[place']? = some name' →
        ∃ failure, (v.validateField name' record).2 = .ok failure) := by
  obtain ⟨name, hname, e, he⟩ := herrs
  obtain ⟨e', he'⟩ := validateFields_error_of_mem hname he
  obtain ⟨place, first, hfirst⟩ := errsFirst_of_validateFields_error hcheck he'
  have hmem := List.mem_of_getElem? hfirst.at_place
  obtain ⟨rule, source, rfl⟩ := rule_of_validateField_error hcheck hmem hfirst.errs
  refine ⟨place, first, rule, source, hfirst, he', ?_⟩
  intro hwaits place' name' hlt hname'
  cases hfield : (v.validateField name' record).2 with
  | ok failure => exact ⟨failure, rfl⟩
  | error e =>
    have hle := hfirst.least place' name' e hname' hfield
    rw [hwaits first hmem, hwaits name' (List.mem_of_getElem? hname'),
      Prod.Lex.toLex_le_toLex] at hle
    omega

/-- Two fields with a rule each that ends in an error, the first after more suspensions. -/
def unsteadySchema : Schema :=
  ((∅ : Schema).insert "late"
      (FieldSpec.empty.addRule "slow" (.ofTask 2 fun _ _ => .error "timeout"))).insert "soon"
    (FieldSpec.empty.addRule "quick" (.ofTask 1 fun _ _ => .error "no answer"))

def unsteadyValidator (policy : UnknownFields) : Validator where
  schema := unsteadySchema
  messages := ∅
  options := { unknownFields := policy }
  fields := unsteadySchema.entries.map fun (name, spec) => ⟨name, false, spec.rules.entries⟩
  declared := rfl
  compiled := rfl

def unsteadyRecord : Record :=
  ((∅ : Record).insert "late" (.boolean true)).insert "soon" (.boolean true)

theorem validateFields_unsteady_error :
    (unsteadyValidator .reject).refused? ["late", "soon"] = none ∧
    ((unsteadyValidator .reject).validateField "soon" unsteadyRecord).2 =
      .error (.rule "soon" "quick" "no answer") ∧
    ∃ place name rule source,
      (unsteadyValidator .reject).ErrsFirst ["late", "soon"] unsteadyRecord place name
        (.rule name rule source) ∧
      ((unsteadyValidator .reject).validateFields ["late", "soon"] unsteadyRecord).2 =
        .error (.rule name rule source) ∧
      ((∀ name' ∈ ["late", "soon"], (unsteadyValidator .reject).waits unsteadyRecord name' = 0) →
        ∀ place' name', place' < place → ["late", "soon"][place']? = some name' →
        ∃ failure, ((unsteadyValidator .reject).validateField name' unsteadyRecord).2 =
          .ok failure) :=
  ⟨rfl, rfl, validateFields_error_of_errsFirst _ _ _ rfl ⟨"soon", by simp, _, rfl⟩⟩

end FieldRules.Validator
