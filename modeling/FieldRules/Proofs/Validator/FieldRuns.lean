import FieldRules.Proofs.Run.Turns
import FieldRules.Validator.Validation
import Mathlib.Algebra.GroupWithZero.Nat
import Mathlib.Data.List.Forall2

/-!
# The run of one field

What a field does on a value is settled by the rules it tries: those up to and including the first
that does not pass. The suspensions of its run are the suspensions of these rules, it reports their
verdicts and nothing else, and its only errors are theirs. Validators whose rules differ in
suspensions alone validate each field alike.
-/

namespace FieldRules

namespace Field
open Run

/-- The rules tried on a value, up to and including the one that decides. -/
def tried (value : Json) (record : Record) : Entries Predicate → Entries Predicate
  | [] => []
  | (rule, predicate) :: rest =>
    (rule, predicate) ::
      match (predicate value record).verdict with
      | .ok true => tried value record rest
      | _ => []

/-- The suspensions of the rules tried. -/
def waits (f : Field) (value : Option Json) (record : Record) : ℕ :=
  match value.filter hasContent with
  | some value =>
    ((tried value record f.rules).map fun (_, predicate) =>
      (predicate value record).suspensions).sum
  | none => 0

theorem suspensions_runRules (field : String) (value : Json) (record : Record)
    (rules : Entries Predicate) :
    (runRules field value record rules).suspensions =
      ((tried value record rules).map fun (_, predicate) =>
        (predicate value record).suspensions).sum := by
  induction rules with
  | nil => rfl
  | cons e rules ih =>
    obtain ⟨rule, predicate⟩ := e
    cases hv : (predicate value record).verdict with
    | error source => simp [runRules, tried, hv]
    | ok passed =>
      cases passed with
      | false => simp [runRules, tried, hv]
      | true => simp [runRules, tried, hv, ih]

theorem suspensions_run (f : Field) (value : Option Json) (record : Record) :
    (f.run value record).suspensions = f.waits value record := by
  rw [run, waits]
  cases value.filter hasContent with
  | none => rfl
  | some value => exact suspensions_runRules f.name value record f.rules

/-- What the rules of a field come to: the first one decides, unless it passes. -/
theorem alone_runRules_cons (field rule : String) (predicate : Predicate) (value : Json)
    (record : Record) (rest : Entries Predicate) :
    (runRules field value record ((rule, predicate) :: rest)).alone =
      match (predicate value record).verdict with
      | .error source => ([], .error (.rule field rule source))
      | .ok false => ([.verdict field rule false], .ok (some rule))
      | .ok true => (runRules field value record rest).alone.after [.verdict field rule true] := by
  cases hv : (predicate value record).verdict with
  | error source => simp [runRules, hv]
  | ok passed => cases passed <;> simp [runRules, hv, Logged.after]

theorem verdict_of_mem_runRules {field : String} {value : Json} {record : Record}
    {rules : Entries Predicate} {event : Event}
    (h : event ∈ (runRules field value record rules).alone.1) :
    ∃ rule passed, event = .verdict field rule passed := by
  induction rules with
  | nil => simp [runRules] at h
  | cons e rules ih =>
    obtain ⟨rule, predicate⟩ := e
    rw [alone_runRules_cons] at h
    split at h
    · simp at h
    · exact ⟨rule, false, by simpa using h⟩
    · simp only [Logged.after, List.singleton_append, List.mem_cons] at h
      rcases h with rfl | h
      · exact ⟨rule, true, rfl⟩
      · exact ih h

theorem rule_of_runRules_error {field : String} {value : Json} {record : Record}
    {rules : Entries Predicate} {e : ValidationError}
    (h : (runRules field value record rules).alone.2 = .error e) :
    ∃ rule source, e = .rule field rule source := by
  induction rules with
  | nil => simp [runRules] at h
  | cons entry rules ih =>
    obtain ⟨rule, predicate⟩ := entry
    rw [alone_runRules_cons] at h
    split at h
    · exact ⟨rule, _, (Except.error.inj h).symm⟩
    · simp at h
    · exact ih h

theorem mem_names_of_runRules_ok {field : String} {value : Json} {record : Record}
    {rules : Entries Predicate} {failing : String}
    (h : (runRules field value record rules).alone.2 = .ok (some failing)) :
    failing ∈ rules.names := by
  induction rules with
  | nil => simp [runRules] at h
  | cons e rules ih =>
    obtain ⟨rule, predicate⟩ := e
    rw [alone_runRules_cons] at h
    split at h
    · cases h
    · obtain rfl := Option.some.inj (Except.ok.inj h)
      exact List.mem_cons_self
    · exact List.mem_cons_of_mem rule (ih h)

theorem verdict_of_mem_run {f : Field} {value : Option Json} {record : Record} {event : Event}
    (h : event ∈ (f.run value record).alone.1) :
    ∃ rule passed, event = .verdict f.name rule passed := by
  rw [run] at h
  split at h
  · exact verdict_of_mem_runRules h
  · simp at h

theorem rule_of_run_error {f : Field} {value : Option Json} {record : Record}
    {e : ValidationError} (h : (f.run value record).alone.2 = .error e) :
    ∃ rule source, e = .rule f.name rule source := by
  rw [run] at h
  split at h
  · exact rule_of_runRules_error h
  · simp at h

theorem failing_of_run_ok {f : Field} {value : Option Json} {record : Record} {failing : String}
    (h : (f.run value record).alone.2 = .ok (some failing)) :
    failing = requiredRule ∨ failing ∈ f.rules.names := by
  rw [run] at h
  split at h
  · exact .inr (mem_names_of_runRules_ok h)
  · cases hrequired : f.required with
    | true => exact .inl (by simpa [hrequired, eq_comm] using h)
    | false => simp [hrequired] at h

/-- The same name, and rules of the same names that come to the same verdicts, after any number of
suspensions. -/
structure SameButWaits (f g : Field) : Prop where
  name : g.name = f.name
  required : g.required = f.required
  rules : List.Forall₂ (fun e e' : String × Predicate => e'.1 = e.1 ∧ ∀ value record,
    (e'.2 value record).verdict = (e.2 value record).verdict) f.rules g.rules

theorem SameButWaits.alone_run {f g : Field} (h : f.SameButWaits g) (value : Option Json)
    (record : Record) : (g.run value record).alone = (f.run value record).alone := by
  have hrules (value : Json) : (runRules g.name value record g.rules).alone =
      (runRules f.name value record f.rules).alone := by
    rw [h.name]
    have hrules := h.rules
    generalize f.rules = rules, g.rules = rules' at hrules ⊢
    induction hrules with
    | nil => rfl
    | @cons e e' _ _ hhead _ ih =>
      obtain ⟨rule, predicate⟩ := e
      obtain ⟨rule', predicate'⟩ := e'
      obtain ⟨rfl, hverdict⟩ := hhead
      rw [alone_runRules_cons, alone_runRules_cons, hverdict, ih]
  rw [run, run]
  cases value.filter hasContent with
  | none => rw [h.required]
  | some value => exact hrules value

end Field

namespace Validator

/-- The suspensions of the field of a name; an undeclared name never suspends. -/
def waits (v : Validator) (record : Record) (name : String) : ℕ :=
  match v.field? name with
  | some field => field.waits (record.get? name) record
  | none => 0

theorem suspensions_runField (v : Validator) (name : String) (record : Record) :
    (v.runField name record).suspensions = v.waits record name := by
  rw [runField, waits]
  cases v.field? name with
  | some field => rw [Run.suspensions_map, Field.suspensions_run]
  | none => cases v.options.unknownFields <;> rfl

theorem name_of_field?_eq_some {v : Validator} {name : String} {field : Field}
    (h : v.field? name = some field) : field.name = name := by
  simpa using List.find?_some h

theorem alone_runField_of_none {v : Validator} {name : String} (h : v.field? name = none)
    (record : Record) :
    (v.runField name record).alone =
      match v.options.unknownFields with
      | .reject => ([], .error (.unknownField name))
      | .ignore => ([.skippedUnknown name], .ok none) := by
  rw [runField, h]
  cases hp : v.options.unknownFields <;> simp [runUnknown]

theorem alone_runField_of_some {v : Validator} {name : String} {field : Field}
    (h : v.field? name = some field) (record : Record) :
    (v.runField name record).alone =
      ((field.run (record.get? name) record).alone.1,
        (field.run (record.get? name) record).alone.2.map (Option.map v.messages.resolve)) := by
  rw [runField, h, Run.alone_map]

/-- The validators differ at most in the suspensions of their rules. -/
structure SameButWaits (v w : Validator) : Prop where
  messages : w.messages = v.messages
  options : w.options = v.options
  fields : List.Forall₂ Field.SameButWaits v.fields w.fields

theorem SameButWaits.field? {v w : Validator} (h : v.SameButWaits w) (name : String) :
    (v.field? name = none ∧ w.field? name = none) ∨
      ∃ f g, v.field? name = some f ∧ w.field? name = some g ∧ f.SameButWaits g := by
  rw [Validator.field?, Validator.field?]
  have hfields := h.fields
  generalize v.fields = fields, w.fields = fields' at hfields ⊢
  induction hfields with
  | nil => exact .inl ⟨rfl, rfl⟩
  | @cons f g fs gs hfg _ ih =>
    by_cases hn : f.name = name
    · exact .inr ⟨f, g, by simp [hn], by simp [hfg.name, hn], hfg⟩
    · simpa [List.find?_cons, hn, hfg.name] using ih

theorem SameButWaits.validateField {v w : Validator} (h : v.SameButWaits w) (name : String)
    (record : Record) : w.validateField name record = v.validateField name record := by
  rw [Validator.validateField, Validator.validateField]
  rcases h.field? name with ⟨hv, hw⟩ | ⟨f, g, hv, hw, hfg⟩
  · rw [alone_runField_of_none hv, alone_runField_of_none hw, h.options]
  · rw [alone_runField_of_some hv, alone_runField_of_some hw, hfg.alone_run, h.messages]

end Validator

end FieldRules
