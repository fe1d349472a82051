import FieldRules.Proofs.Validator.Build
import FieldRules.Proofs.Validator.Together

/-!
# Rules that test the value alone

A rule that is a test of the value does not look at the record, does not suspend and has a verdict
on everything. Where all rules are such tests, validating never ends in the error of a rule, and it
sees nothing of a record but the values of the named fields that are there.
-/

namespace FieldRules

def Predicate.IsValueTest (p : Predicate) : Prop := ∃ test, p = Predicate.ofValue test

namespace Field

/-- There is no value: it is absent, null or the empty text. -/
def NoContent (value : Option Json) : Prop :=
  value = none ∨ value = some .null ∨ value = some (.text "")

/-- Neither value is there, or both are the same. -/
def SameContent (a b : Option Json) : Prop := (NoContent a ∧ NoContent b) ∨ a = b

theorem filter_hasContent_eq_none_iff {value : Option Json} :
    value.filter hasContent = none ↔ NoContent value := by
  cases value with
  | none => simp [NoContent]
  | some value => cases value <;> simp [NoContent, hasContent]

theorem SameContent.filter_eq {a b : Option Json} (h : SameContent a b) :
    a.filter hasContent = b.filter hasContent := by
  rcases h with ⟨ha, hb⟩ | rfl
  · rw [filter_hasContent_eq_none_iff.mpr ha, filter_hasContent_eq_none_iff.mpr hb]
  · rfl

/-- Tests of a value come to their end at once, whatever the record. -/
theorem runRules_of_valueTests {rules : Entries Predicate} (h : ∀ e ∈ rules, e.2.IsValueTest)
    (field : String) (value : Json) :
    ∃ events failing, ∀ record,
      runRules field value record rules = .done events (.ok failing) := by
  induction rules with
  | nil => exact ⟨[], none, fun _ => rfl⟩
  | cons e rules ih =>
    obtain ⟨rule, predicate⟩ := e
    obtain ⟨htest, hrest⟩ := List.forall_mem_cons.mp h
    obtain ⟨test, rfl⟩ : predicate.IsValueTest := htest
    obtain ⟨events, failing, hrun⟩ := ih hrest
    cases hv : test value with
    | true =>
      refine ⟨.verdict field rule true :: events, failing, fun record => ?_⟩
      simp [runRules, Predicate.ofValue, Predicate.ofTest, hv, hrun, Run.delay, Run.report]
    | false =>
      refine ⟨[.verdict field rule false], some rule, fun record => ?_⟩
      simp [runRules, Predicate.ofValue, Predicate.ofTest, hv, Run.delay, Run.report, Run.pure]

/-- The run of a field whose rules test the value depends on the value alone, if it is there. -/
theorem run_of_valueTests {f : Field} (h : ∀ e ∈ f.rules, e.2.IsValueTest) (value : Option Json) :
    ∃ events failing, ∀ other record, SameContent other value →
      f.run other record = .done events (.ok failing) := by
  cases hvalue : value.filter hasContent with
  | none =>
    refine ⟨[], if f.required then some requiredRule else none, fun other record hsame => ?_⟩
    rw [run, hsame.filter_eq, hvalue]
    rfl
  | some content =>
    obtain ⟨events, failing, hrun⟩ := runRules_of_valueTests h f.name content
    refine ⟨events, failing, fun other record hsame => ?_⟩
    rw [run, hsame.filter_eq, hvalue]
    exact hrun record

end Field

namespace Validator

def TestsValues (v : Validator) : Prop := ∀ f ∈ v.fields, ∀ e ∈ f.rules, e.2.IsValueTest

variable {v : Validator}

theorem TestsValues.exists_run (h : v.TestsValues) {name : String} {field : Field}
    (hfield : v.field? name = some field) (record : Record) :
    ∃ events failure, ∀ other : Record,
      Field.SameContent (other.get? name) (record.get? name) →
      v.runField name other = .done events (.ok failure) := by
  have hmem : field ∈ v.fields := List.mem_of_find?_eq_some hfield
  obtain ⟨events, failing, hrun⟩ := Field.run_of_valueTests (h field hmem) (record.get? name)
  refine ⟨events, failing.map v.messages.resolve, fun other hsame => ?_⟩
  rw [runField, hfield]
  exact congrArg _ (hrun (other.get? name) other hsame)

theorem TestsValues.validateField_ok (h : v.TestsValues) {name : String}
    (hname : name ∈ v.fieldNames) (record : Record) :
    ∃ failure, (v.validateField name record).2 = .ok failure := by
  cases hfield : v.field? name with
  | none => exact absurd hname (field?_eq_none_iff.mp hfield)
  | some field =>
    obtain ⟨events, failure, hrun⟩ := h.exists_run hfield record
    exact ⟨failure, by rw [validateField, hrun record (.inr rfl), Run.alone]⟩

theorem TestsValues.validateField_error (h : v.TestsValues) {name : String} {record : Record}
    {e : ValidationError} (herror : (v.validateField name record).2 = .error e) :
    e = .unknownField name := by
  cases hfield : v.field? name with
  | some field =>
    obtain ⟨events, failure, hrun⟩ := h.exists_run hfield record
    rw [validateField, hrun record (.inr rfl), Run.alone] at herror
    cases herror
  | none =>
    rw [validateField, alone_runField_of_none hfield] at herror
    cases hpolicy : v.options.unknownFields with
    | reject =>
      rw [hpolicy] at herror
      exact (Except.error.inj herror).symm
    | ignore =>
      rw [hpolicy] at herror
      cases herror

theorem TestsValues.validateFields_error (h : v.TestsValues) {names : List String}
    {record : Record} {e : ValidationError}
    (herror : (v.validateFields names record).2 = .error e) :
    ∃ name ∈ names, e = .unknownField name := by
  obtain ⟨name, hname, hfield⟩ := exists_validateField_error herror
  exact ⟨name, hname, h.validateField_error hfield⟩

theorem TestsValues.validateAll_ok (h : v.TestsValues) (record : Record) :
    ∃ answer, (v.validateAll record).2 = .ok answer :=
  (v.validateFields_ok_iff v.fieldNames record).mpr fun _ hname => h.validateField_ok hname record

/-- Records with the same content in the declared fields among some names are validated alike. -/
theorem TestsValues.validateFields_congr (h : v.TestsValues) {names : List String}
    {record record' : Record} (hsame : ∀ name ∈ names, name ∈ v.fieldNames →
      Field.SameContent (record.get? name) (record'.get? name)) :
    v.validateFields names record = v.validateFields names record' := by
  have hrun : ∀ name ∈ names, v.runField name record = v.runField name record' := by
    intro name hname
    cases hfield : v.field? name with
    | none => rw [runField, runField, hfield]
    | some field =>
      have hdeclared : name ∈ v.fieldNames := by
        by_contra hnot
        rw [field?_eq_none_iff.mpr hnot] at hfield
        cases hfield
      obtain ⟨events, failure, hrun⟩ := h.exists_run hfield record'
      rw [hrun record (hsame name hname hdeclared), hrun record' (.inr rfl)]
  have hruns : v.runs names record = v.runs names record' := by
    refine List.map_congr_left fun name hname => ?_
    rw [namedRun, namedRun, hrun name hname]
  cases hcheck : v.refused? names with
  | some unknown => rw [validateFields_of_refused hcheck, validateFields_of_refused hcheck]
  | none => rw [validateFields_of_not_refused hcheck, validateFields_of_not_refused hcheck, hruns]

end Validator

end FieldRules
