import FieldRules.Proofs.Schema.Calls
import FieldRules.Proofs.Validator.ValueTests

/-!
# The first rule that does not pass

A field that was declared call by call tries its rules on a value in the order in which their names
first came, each as it was given last, up to the first that fails or errs. Without a value it tries
none. That the field is required is told of exactly where it is required and has no value, since no
rule may have the name for it.
-/

namespace FieldRules.Field

def Passes (value : Json) (record : Record) (rule : String × Predicate) : Prop :=
  (rule.2 value record).verdict = .ok true

/-- The courses that trying rules in order may take: from the rules to those of them that are
evaluated, the verdicts reported, and the result. -/
inductive Course (field : String) (value : Json) (record : Record) : Entries Predicate →
    Entries Predicate → Logged (Except ValidationError (Option String)) → Prop
  | passes {rules : Entries Predicate} (hpass : ∀ e ∈ rules, Passes value record e) :
    Course field value record rules rules (rules.map fun e => .verdict field e.1 true, .ok none)
  | fails {before after : Entries Predicate} {rule : String} {predicate : Predicate}
    (hpass : ∀ e ∈ before, Passes value record e)
    (hfails : (predicate value record).verdict = .ok false) :
    Course field value record (before ++ (rule, predicate) :: after)
      (before ++ [(rule, predicate)])
      ((before.map fun e => .verdict field e.1 true) ++ [.verdict field rule false],
        .ok (some rule))
  | errs {before after : Entries Predicate} {rule source : String} {predicate : Predicate}
    (hpass : ∀ e ∈ before, Passes value record e)
    (herrs : (predicate value record).verdict = .error source) :
    Course field value record (before ++ (rule, predicate) :: after)
      (before ++ [(rule, predicate)])
      (before.map fun e => .verdict field e.1 true, .error (.rule field rule source))

variable {field : String} {value : Json} {record : Record} {rules : Entries Predicate}

/-- A rule that passes comes before whatever course the rules after it take. -/
theorem Course.cons {evaluated : Entries Predicate} {e : String × Predicate}
    {outcome : Logged (Except ValidationError (Option String))}
    (h : Course field value record rules evaluated outcome) (he : Passes value record e) :
    Course field value record (e :: rules) (e :: evaluated)
      (outcome.after [.verdict field e.1 true]) := by
  cases h with
  | passes hpass => exact .passes (List.forall_mem_cons.mpr ⟨he, hpass⟩)
  | @fails before after rule predicate hpass hfails =>
    have hcourse : Course field value record ((e :: before) ++ (rule, predicate) :: after)
        ((e :: before) ++ [(rule, predicate)]) _ :=
      .fails (List.forall_mem_cons.mpr ⟨he, hpass⟩) hfails
    exact hcourse
  | @errs before after rule source predicate hpass herrs =>
    have hcourse : Course field value record ((e :: before) ++ (rule, predicate) :: after)
        ((e :: before) ++ [(rule, predicate)]) _ :=
      .errs (List.forall_mem_cons.mpr ⟨he, hpass⟩) herrs
    exact hcourse

theorem course_runRules (field : String) (value : Json) (record : Record)
    (rules : Entries Predicate) :
    Course field value record rules (tried value record rules)
      (runRules field value record rules).alone := by
  induction rules with
  | nil => exact .passes nofun
  | cons e rules ih =>
    obtain ⟨rule, predicate⟩ := e
    have hnone : ∀ e ∈ ([] : Entries Predicate), Passes value record e := nofun
    rw [alone_runRules_cons, tried]
    cases hv : (predicate value record).verdict with
    | error source => exact .errs hnone hv
    | ok passed =>
      cases passed with
      | false => exact .fails hnone hv
      | true => exact ih.cons hv

/-- Once a rule has decided, no rule after it is looked at. -/
theorem runRules_tried_append (h : (runRules field value record rules).alone.2 ≠ .ok none)
    (later : Entries Predicate) :
    runRules field value record (tried value record rules ++ later) =
      runRules field value record rules := by
  induction rules with
  | nil => exact absurd rfl h
  | cons e rules ih =>
    obtain ⟨rule, predicate⟩ := e
    rw [alone_runRules_cons] at h
    cases hv : (predicate value record).verdict with
    | error source => simp [tried, runRules, hv]
    | ok passed =>
      cases passed with
      | false => simp [tried, runRules, hv]
      | true =>
        rw [hv] at h
        simp [tried, runRules, hv, ih h]

structure Evaluates (f : Field) (value : Json) (record : Record) (evaluated : Entries Predicate) :
    Prop where
  course : Course f.name value record f.rules evaluated (f.run (some value) record).alone
  /-- Every rule that is evaluated suspends the run as often as it does on the value, and nothing
  else does. -/
  waits : (f.run (some value) record).suspensions =
    (evaluated.map fun e => (e.2 value record).suspensions).sum
  /-- If one of them decides, other rules in the places after it make no difference. -/
  stops : (f.run (some value) record).alone.2 ≠ .ok none → ∀ later,
    ({ f with rules := evaluated ++ later } : Field).run (some value) record =
      f.run (some value) record

theorem run_of_content {f : Field} (h : ¬ NoContent (some value)) :
    f.run (some value) record = runRules f.name value record f.rules := by
  have hcontent : hasContent value = true := by
    by_contra hnone
    exact h (filter_hasContent_eq_none_iff.mp (by simp [Option.filter, hnone]))
  rw [run, Option.filter_some, if_pos hcontent]

/-- Without a value a field does not look at its rules. -/
theorem run_of_noContent {f : Field} {value : Option Json} {declared : Option Bool}
    (hflag : f.required = true ↔ declared = some true) (h : NoContent value) :
    f.run value record = .pure (if declared = some true then some requiredRule else none) := by
  simp only [run, filter_hasContent_eq_none_iff.mpr h, hflag]

theorem evaluates_tried {f : Field} (h : ¬ NoContent (some value)) :
    f.Evaluates value record (tried value record f.rules) where
  course := by
    rw [run_of_content h]
    exact course_runRules f.name value record f.rules
  waits := by
    rw [run_of_content h, suspensions_runRules]
  stops := by
    intro hdecided later
    rw [run_of_content h] at hdecided
    rw [run_of_content h, run_of_content h]
    exact runRules_tried_append hdecided later

/-- Of no rule is it told that the field is required, since none has that name. -/
theorem run_eq_requiredRule_iff {name : String} {spec : FieldSpec} {strict : Bool}
    (hsound : fault? spec strict = none) {value : Option Json} {record : Record} :
    ((ofSpec name spec).run value record).alone.2 = .ok (some requiredRule) ↔
      spec.required = some true ∧ NoContent value := by
  by_cases hnone : NoContent value
  · rw [run_of_noContent required_ofSpec_iff hnone, and_iff_left hnone]
    by_cases hflag : spec.required = some true <;> simp [hflag]
  · refine iff_of_false (fun hrun => ?_) fun hrequired => hnone hrequired.2
    obtain ⟨content, rfl⟩ : ∃ content, value = some content :=
      Option.ne_none_iff_exists'.mp fun q => hnone (.inl q)
    rw [run_of_content hnone] at hrun
    exact (name_of_fault?_eq_none hsound (mem_names_of_runRules_ok hrun)).2 rfl

/-- A field that was declared by calls and compiled has the rules given by them, in the order in
which their names first came, each as it was given last. Without a value the flag set last decides
and no rule has a part in it. On a value the rules are evaluated up to the first that does not pass.
So a field is told to be required exactly if it is and has no value. -/
theorem run_of_calls {calls : List SpecCall} {name : String} {strict : Bool} {f : Field}
    (h : compile name (.ofCalls calls) strict = .ok f) (value : Option Json) (record : Record) :
    f.name = name ∧ f.rules.names = (SpecCall.rulesGiven calls).names.eraseDups ∧
    (∀ e ∈ f.rules, LastNamed Prod.fst (SpecCall.rulesGiven calls) e.1 e) ∧
    (NoContent value → ∀ rules, ({ f with rules := rules } : Field).run value record =
      .pure (if (SpecCall.flagsSet calls).getLast? = some true then some requiredRule
        else none)) ∧
    (∀ content, value = some content → ¬ NoContent value →
      ∃ evaluated, f.Evaluates content record evaluated) ∧
    ((f.run value record).alone.2 = .ok (some requiredRule) ↔
      (SpecCall.flagsSet calls).getLast? = some true ∧ NoContent value) := by
  obtain ⟨hsound, rfl⟩ := compile_eq_ok_iff.mp h
  rw [FieldSpec.ofCalls_eq] at hsound ⊢
  refine ⟨rfl, OrderedTable.names_ofList _, fun e => OrderedTable.lastNamed_of_mem_ofList, ?_, ?_,
    run_eq_requiredRule_iff hsound⟩
  · intro hnone rules
    exact run_of_noContent (@required_ofSpec_iff name _) hnone
  · rintro content rfl hcontent
    exact ⟨_, evaluates_tried hcontent⟩

def userCalls : List SpecCall :=
  [.setRequired false, .addTest "filled" fun _ _ => false,
    .addAttempt "known" fun _ _ => .error "offline", .addTask "filled" fun _ _ => ⟨2, .ok true⟩,
    .addTest "never" fun _ _ => true, .require]

def userField : Field where
  name := "user"
  required := true
  rules := [("filled", fun _ _ => ⟨2, .ok true⟩), ("known", fun _ _ => ⟨0, .error "offline"⟩),
    ("never", fun _ _ => ⟨0, .ok true⟩)]

/-- The first rule was given anew and passes, the second one errs, and there it ends. -/
theorem run_of_calls_user :
    compile "user" (.ofCalls userCalls) true = .ok userField ∧
    (userField.run none ∅).alone.2 = .ok (some requiredRule) ∧
    (userField.run (some (.text "ada")) ∅).alone =
      ([.verdict "user" "filled" true], .error (.rule "user" "known" "offline")) ∧
    ¬ NoContent (some (.text "ada")) ∧
    ∃ evaluated, userField.Evaluates (.text "ada") ∅ evaluated := by
  have h : compile "user" (.ofCalls userCalls) true = .ok userField := rfl
  have hcontent : ¬ NoContent (some (.text "ada")) := by simp [NoContent]
  obtain ⟨-, -, -, -, -, hrequired⟩ := run_of_calls h none ∅
  obtain ⟨-, -, -, -, hevaluates, -⟩ := run_of_calls h (some (.text "ada")) ∅
  exact ⟨h, hrequired.mpr ⟨rfl, .inl rfl⟩, rfl, hcontent, hevaluates (.text "ada") rfl hcontent⟩

end FieldRules.Field
