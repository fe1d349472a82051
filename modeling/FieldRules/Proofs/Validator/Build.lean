import FieldRules.Proofs.Except
import FieldRules.Validator.Basic
import Mathlib.Data.List.Forall2

/-!
# Building validators

`build` gives a validator its schema, messages and options, or the first fault in the schema. Every
validator is what building it again gives, so its fields are read off its schema: one for each
entry, in the same order and under the same name.
-/

namespace FieldRules

theorem Field.compile_eq_ok_iff {name : String} {spec : FieldSpec} {strict : Bool} {f : Field} :
    Field.compile name spec strict = .ok f ↔
      Field.fault? spec strict = none ∧
        f = ⟨name, spec.required.getD false, spec.rules.entries⟩ := by
  rw [Field.compile]
  cases Field.fault? spec strict with
  | some fault => simp
  | none => simp [eq_comm]

namespace Field

/-- The first offence of what a field declares: it declares nothing where something is asked for, or
a rule has a bad name and none before it has. -/
inductive Offends (spec : FieldSpec) (strict : Bool) : RulesFault → Prop
  | noRules (hstrict : strict = true) (hempty : spec.isEmpty = true) : Offends spec strict .noRules
  | emptyName {before after : List String} (hnames : spec.rules.names = before ++ "" :: after)
    (hbefore : ∀ name ∈ before, name ≠ "" ∧ name ≠ requiredRule) : Offends spec strict .emptyName
  | reservedName {before after : List String}
    (hnames : spec.rules.names = before ++ requiredRule :: after)
    (hbefore : ∀ name ∈ before, name ≠ "" ∧ name ≠ requiredRule) : Offends spec strict .reservedName

theorem ruleNameFault?_eq_none_iff {name : String} :
    ruleNameFault? name = none ↔ name ≠ "" ∧ name ≠ requiredRule := by
  rw [ruleNameFault?]
  by_cases hempty : name = ""
  · simp [hempty]
  · rw [if_neg hempty]
    by_cases hreserved : name = requiredRule <;> simp [hempty, hreserved]

/-- Where there is a rule, a fault can only be in the name of a rule. -/
theorem fault?_of_names {spec : FieldSpec} {name : String} (h : name ∈ spec.rules.names)
    (strict : Bool) : fault? spec strict = spec.rules.names.findSome? ruleNameFault? := by
  rw [fault?, FieldSpec.isEmpty_of_mem_names h, Bool.and_false]
  rfl

theorem fault?_eq_some_iff {spec : FieldSpec} {strict : Bool} {fault : RulesFault} :
    fault? spec strict = some fault ↔ Offends spec strict fault := by
  constructor
  · intro h
    by_cases hempty : (strict && spec.isEmpty) = true
    · rw [fault?, if_pos hempty] at h
      obtain rfl := Option.some.inj h
      rw [Bool.and_eq_true] at hempty
      exact .noRules hempty.1 hempty.2
    · rw [fault?, if_neg hempty] at h
      obtain ⟨before, name, after, hnames, hfault, hbefore⟩ := List.findSome?_eq_some_iff.mp h
      simp only [ruleNameFault?_eq_none_iff] at hbefore
      rw [ruleNameFault?] at hfault
      split_ifs at hfault with hname hname
      · obtain rfl := Option.some.inj hfault
        exact .emptyName (hname ▸ hnames) hbefore
      · obtain rfl := Option.some.inj hfault
        exact .reservedName (hname ▸ hnames) hbefore
  · rintro (⟨hstrict, hempty⟩ | ⟨hnames, hbefore⟩ | ⟨hnames, hbefore⟩)
    · rw [fault?, hstrict, hempty]
      exact if_pos rfl
    all_goals
      rw [fault?_of_names (hnames ▸ List.mem_append_right _ List.mem_cons_self),
        List.findSome?_eq_some_iff]
      exact ⟨_, _, _, hnames, rfl, fun name hname =>
        ruleNameFault?_eq_none_iff.mpr (hbefore name hname)⟩

theorem fault?_eq_none_iff {spec : FieldSpec} {strict : Bool} :
    fault? spec strict = none ↔ ∀ fault, ¬ Offends spec strict fault := by
  simp only [← fault?_eq_some_iff, Option.eq_none_iff_forall_ne_some, ne_eq]

def ofSpec (name : String) (spec : FieldSpec) : Field :=
  ⟨name, spec.required.getD false, spec.rules.entries⟩

theorem required_ofSpec_iff {name : String} {spec : FieldSpec} :
    (ofSpec name spec).required = true ↔ spec.required = some true := by
  change spec.required.getD false = true ↔ spec.required = some true
  cases spec.required <;> simp

/-- The rules of a field without a fault have proper names. -/
theorem name_of_fault?_eq_none {spec : FieldSpec} {strict : Bool} (h : fault? spec strict = none)
    {rule : String} (hrule : rule ∈ spec.rules.names) : rule ≠ "" ∧ rule ≠ requiredRule := by
  rw [fault?_of_names hrule, List.findSome?_eq_none_iff] at h
  exact ruleNameFault?_eq_none_iff.mp (h rule hrule)

end Field

namespace Validator

theorem compileAll_eq_ok_iff {strict : Bool} {entries : Entries FieldSpec} {fields : List Field} :
    compileAll strict entries = .ok fields ↔
      List.Forall₂ (fun e f => Field.compile e.1 e.2 strict = .ok f) entries fields := by
  induction entries generalizing fields with
  | nil => simp [compileAll, eq_comm]
  | cons e entries ih =>
    obtain ⟨name, spec⟩ := e
    rw [compileAll]
    cases hfield : Field.compile name spec strict with
    | error fault => cases fields <;> simp [Bind.bind, Except.bind, hfield]
    | ok field =>
      cases hrest : compileAll strict entries with
      | error fault => cases fields <;> simp [Bind.bind, Except.bind, hfield, hrest, ← ih]
      | ok rest => cases fields <;> simp [Bind.bind, Except.bind, hfield, hrest, ← ih]

theorem compileAll_eq_ok_iff_map {strict : Bool} {entries : Entries FieldSpec}
    {fields : List Field} :
    compileAll strict entries = .ok fields ↔
      (∀ e ∈ entries, ∀ fault, ¬ Field.Offends e.2 strict fault) ∧
        fields = entries.map fun e => Field.ofSpec e.1 e.2 := by
  simp only [compileAll_eq_ok_iff, Field.compile_eq_ok_iff, Field.fault?_eq_none_iff]
  constructor
  · intro h
    induction h with
    | nil => simp
    | cons hhead _ ih =>
      obtain ⟨hsound, rfl⟩ := hhead
      obtain ⟨hall, rfl⟩ := ih
      exact ⟨List.forall_mem_cons.mpr ⟨hsound, hall⟩, rfl⟩
  · rintro ⟨hsound, rfl⟩
    rw [List.forall₂_map_right_iff, List.forall₂_same]
    exact fun e he => ⟨hsound e he, rfl⟩

theorem compileAll_eq_error_iff {strict : Bool} {entries : Entries FieldSpec} {e : SchemaError} :
    compileAll strict entries = .error e ↔
      ∃ before name spec after fault, entries = before ++ (name, spec) :: after ∧
        (∀ x ∈ before, ∀ fault, ¬ Field.Offends x.2 strict fault) ∧
        Field.Offends spec strict fault ∧ e = .rules name fault := by
  have hfirst : compileAll strict entries = .error e ↔
      entries.findSome? (fun x => (Field.fault? x.2 strict).map (.rules x.1)) = some e := by
    induction entries with
    | nil => simp [compileAll]
    | cons entry entries ih =>
      obtain ⟨name, spec⟩ := entry
      rw [compileAll, bind_eq_error_iff, Field.compile, List.findSome?_cons]
      cases Field.fault? spec strict with
      | some fault => simp
      | none => simpa [bind_eq_error_iff] using ih
  rw [hfirst, List.findSome?_eq_some_iff]
  simp only [Option.map_eq_none_iff, Field.fault?_eq_none_iff, Option.map_eq_some_iff,
    Field.fault?_eq_some_iff]
  constructor
  · rintro ⟨before, ⟨name, spec⟩, after, hsplit, ⟨fault, hfault, rfl⟩, hbefore⟩
    exact ⟨before, name, spec, after, fault, hsplit, hbefore, hfault, rfl⟩
  · rintro ⟨before, name, spec, after, fault, hsplit, hbefore, hfault, rfl⟩
    exact ⟨before, (name, spec), after, hsplit, ⟨fault, hfault, rfl⟩, hbefore⟩

theorem build_eq_error_iff {schema : Schema} {messages : Messages} {options : Options}
    {e : SchemaError} : build schema messages options = .error e ↔
      schema.isEmpty = true ∧ e = .noFields ∨
      schema.isEmpty = false ∧ compileAll options.strictRules schema.entries = .error e := by
  rw [build]
  split_ifs with hempty
  · simp [hempty, eq_comm]
  · split <;> simp [*]

theorem build_of_compileAll {schema : Schema} {messages : Messages} {options : Options}
    {fields : List Field} (hdeclared : schema.isEmpty = false)
    (hcompiled : compileAll options.strictRules schema.entries = .ok fields) :
    build schema messages options =
      .ok ⟨schema, messages, options, fields, hdeclared, hcompiled⟩ := by
  rw [build, dif_neg (Bool.eq_false_iff.mp hdeclared)]
  split
  next e herror =>
    rw [hcompiled] at herror
    cases herror
  next fields' hfields =>
    obtain rfl := Except.ok.inj (hcompiled.symm.trans hfields)
    rfl

/-- Building a validator again from its own parts gives it back. -/
theorem rebuild (v : Validator) : build v.schema v.messages v.options = .ok v :=
  build_of_compileAll v.declared v.compiled

theorem build_eq_ok_iff {schema : Schema} {messages : Messages} {options : Options}
    {v : Validator} : build schema messages options = .ok v ↔
      v.schema = schema ∧ v.messages = messages ∧ v.options = options := by
  constructor
  · intro h
    rw [build] at h
    split_ifs at h
    split at h
    · cases h
    · obtain rfl := Except.ok.inj h
      exact ⟨rfl, rfl, rfl⟩
  · rintro ⟨rfl, rfl, rfl⟩
    exact v.rebuild

theorem not_offends (v : Validator) :
    ∀ e ∈ v.schema.entries, ∀ fault, ¬ Field.Offends e.2 v.options.strictRules fault :=
  (compileAll_eq_ok_iff_map.mp v.compiled).1

theorem fields_eq (v : Validator) :
    v.fields = v.schema.entries.map fun e => Field.ofSpec e.1 e.2 :=
  (compileAll_eq_ok_iff_map.mp v.compiled).2

theorem fieldNames_eq_names (v : Validator) : v.fieldNames = v.schema.names := by
  rw [fieldNames, fields_eq, List.map_map]
  rfl

theorem nodup_fieldNames (v : Validator) : v.fieldNames.Nodup := by
  rw [fieldNames_eq_names]
  exact v.schema.nodup

theorem field?_eq_none_iff {v : Validator} {name : String} :
    v.field? name = none ↔ name ∉ v.fieldNames := by
  simp [field?, fieldNames]

end Validator

end FieldRules
