import FieldRules.Proofs.Validator.Build
import FieldRules.Proofs.Validator.Policies
import Mathlib.Data.List.Nodup

/-!
# What a validator says of its schema

A validator has the names of its schema, in the same order. A name is found under its place among
the fields exactly if the schema declares it, and then it is validated by what the schema declares
for it. So whatever concerns a declared name can be read off the schema.
-/

namespace FieldRules

namespace Validator

/-- Validating the name neither fails nor warns because no field has it. -/
def Knows (v : Validator) (name : String) (record : Record) : Prop :=
  (v.validateField name record).2 ≠ .error (.unknownField name) ∧
    .skippedUnknown name ∉ (v.validateField name record).1

theorem level_of_mem_validateField {v : Validator} {name : String} (hname : name ∈ v.fieldNames)
    {record : Record} {event : Event} (h : event ∈ (v.validateField name record).1) :
    event.level = .trace := by
  apply level_of_declared hname
  rw [alone_namedRun]
  exact h

theorem refused?_of_subset {v : Validator} {names : List String}
    (h : ∀ name ∈ names, name ∈ v.fieldNames) : v.refused? names = none := by
  cases hpolicy : v.options.unknownFields with
  | ignore => exact refused?_of_ignores hpolicy names
  | reject =>
    rw [refused?_of_rejects hpolicy, List.find?_eq_none]
    intro name hname
    simpa using h name hname

/-- The errors of a declared name are those of its rules. -/
theorem rule_of_declared_error {v : Validator} {name : String} (hname : name ∈ v.fieldNames)
    {record : Record} {e : ValidationError} (h : (v.validateField name record).2 = .error e) :
    ∃ rule source, e = .rule name rule source := by
  have hcheck : v.refused? [name] = none := refused?_of_subset (by simpa using hname)
  exact rule_of_validateField_error hcheck (List.mem_singleton_self name) h

theorem knows_iff {v : Validator} {name : String} {record : Record} :
    v.Knows name record ↔ name ∈ v.fieldNames := by
  constructor
  · rintro ⟨hresult, hlog⟩
    by_contra hname
    have hnone : v.field? name = none := field?_eq_none_iff.mpr hname
    rw [validateField, alone_runField_of_none hnone] at hresult hlog
    cases hpolicy : v.options.unknownFields with
    | reject => simp [hpolicy] at hresult
    | ignore => simp [hpolicy] at hlog
  · intro hname
    constructor
    · intro herror
      obtain ⟨rule, source, he⟩ := rule_of_declared_error hname herror
      cases he
    · intro hevent
      have hlevel := level_of_mem_validateField hname hevent
      cases hlevel

theorem validateAll_error {v : Validator} {record : Record} {e : ValidationError}
    (h : (v.validateAll record).2 = .error e) : ∃ name rule source, e = .rule name rule source := by
  obtain ⟨name, hname, herror⟩ := exists_validateField_error h
  obtain ⟨rule, source, he⟩ := rule_of_declared_error hname herror
  exact ⟨name, rule, source, he⟩

theorem level_of_mem_validateAll {v : Validator} {record : Record} {event : Event}
    (h : event ∈ (v.validateAll record).1) : event.level = .trace := by
  obtain ⟨name, hname, hevent⟩ := exists_mem_namedRun h
  exact level_of_declared hname hevent

theorem index_get?_eq_some_iff {v : Validator} {name : String} {place : ℕ} :
    v.index.get? name = some place ↔ v.fieldNames[place]? = some name := by
  have hplace (key : String) (i : ℕ) : (key, i) ∈ v.fieldNames.zipIdx ↔
      v.fieldNames[i]? = some key := List.mk_mem_zipIdx_iff_getElem?
  rw [index, SortedTable.get?_ofList_eq_some_iff, hplace]
  intro key i j hi hj
  rw [hplace] at hi hj
  obtain ⟨hlt, -⟩ := List.getElem?_eq_some_iff.mp hi
  exact (List.getElem?_inj hlt v.nodup_fieldNames).mp (hi.trans hj.symm)

theorem field?_eq_some_iff {v : Validator} {name : String} {field : Field} :
    v.field? name = some field ↔ field ∈ v.fields ∧ field.name = name := by
  constructor
  · intro h
    exact ⟨List.mem_of_find?_eq_some h, name_of_field?_eq_some h⟩
  · rintro ⟨hmem, rfl⟩
    cases hfound : v.field? field.name with
    | none => exact absurd (List.mem_map_of_mem hmem) (field?_eq_none_iff.mp hfound)
    | some other =>
      have hother : other ∈ v.fields := List.mem_of_find?_eq_some hfound
      have hname : other.name = field.name := name_of_field?_eq_some hfound
      rw [List.inj_on_of_nodup_map v.nodup_fieldNames hother hmem hname]

theorem index_bind_eq_field? (v : Validator) (name : String) :
    ((v.index.get? name).bind fun place => v.fields[place]?) = v.field? name := by
  have hplace (place : ℕ) : v.index.get? name = some place ↔
      ∃ field, v.fields[place]? = some field ∧ field.name = name := by
    rw [index_get?_eq_some_iff, fieldNames, List.getElem?_map, Option.map_eq_some_iff]
  apply Option.ext
  intro field
  rw [field?_eq_some_iff, Option.bind_eq_some_iff]
  constructor
  · rintro ⟨place, hindex, hfield⟩
    obtain ⟨other, hother, hname⟩ := (hplace place).mp hindex
    obtain rfl : other = field := Option.some.inj (hother.symm.trans hfield)
    exact ⟨List.mem_of_getElem? hfield, hname⟩
  · rintro ⟨hmem, hname⟩
    obtain ⟨place, hfield⟩ := List.mem_iff_getElem?.mp hmem
    exact ⟨place, (hplace place).mpr ⟨field, hfield, hname⟩, hfield⟩

variable {v : Validator}

theorem field?_eq (v : Validator) (name : String) :
    v.field? name = (v.schema.get? name).map (Field.ofSpec name) := by
  have hsame : v.field? name =
      (v.schema.entries.find? fun e => e.1 = name).map fun e => Field.ofSpec e.1 e.2 := by
    rw [field?, fields_eq, List.find?_map]
    rfl
  rw [hsame, OrderedTable.get?, Entries.look]
  cases hfound : v.schema.entries.find? fun e => e.1 = name with
  | none => rfl
  | some e =>
    obtain rfl : e.1 = name := by simpa using List.find?_some hfound
    rfl

theorem compile_of_get? {name : String} {spec : FieldSpec}
    (hspec : v.schema.get? name = some spec) :
    Field.compile name spec v.options.strictRules = .ok (Field.ofSpec name spec) := by
  have hmem : (name, spec) ∈ v.schema.entries := OrderedTable.get?_eq_some_iff.mp hspec
  have hsound := v.not_offends (name, spec) hmem
  exact Field.compile_eq_ok_iff.mpr ⟨Field.fault?_eq_none_iff.mpr hsound, rfl⟩

theorem mem_required_iff {name : String} {flag : Bool} :
    (name, flag) ∈ (v.fields.filter Field.required).map (fun f => (f.name, true)) ↔
      flag = true ∧ ∃ spec, v.schema.get? name = some spec ∧ spec.required = some true := by
  simp only [fields_eq, List.mem_map, List.mem_filter, OrderedTable.get?_eq_some_iff]
  constructor
  · rintro ⟨_, ⟨⟨⟨key, spec⟩, hin, rfl⟩, hrequired⟩, heq⟩
    obtain ⟨rfl, rfl⟩ := Prod.mk.inj heq
    exact ⟨rfl, spec, hin, Field.required_ofSpec_iff.mp hrequired⟩
  · rintro ⟨rfl, spec, hin, hrequired⟩
    have hfield : (Field.ofSpec name spec).required = true :=
      Field.required_ofSpec_iff.mpr hrequired
    exact ⟨Field.ofSpec name spec, ⟨⟨(name, spec), hin, rfl⟩, hfield⟩, rfl⟩

theorem requiredFields_get?_eq_some_iff {name : String} {flag : Bool} :
    v.requiredFields.get? name = some flag ↔
      flag = true ∧ ∃ spec, v.schema.get? name = some spec ∧ spec.required = some true := by
  rw [requiredFields, SortedTable.get?_ofList_eq_some_iff, mem_required_iff]
  intro key a b ha hb
  rw [(mem_required_iff.mp ha).1, (mem_required_iff.mp hb).1]

structure AgreesWithSchema (v : Validator) : Prop where
  fieldNames : v.fieldNames = v.schema.names
  nodup : v.fieldNames.Nodup
  /-- The index has the place of each name and nothing else, so it never leads past the fields. -/
  index : ∀ name place, v.index.get? name = some place ↔ v.schema.names[place]? = some name
  knows : ∀ name record, v.Knows name record ↔ ∃ spec, v.schema.get? name = some spec
  declared : ∀ name spec, v.schema.get? name = some spec → ∃ field,
    Field.compile name spec v.options.strictRules = .ok field ∧
    ((v.index.get? name).bind fun place => v.fields[place]?) = some field ∧
    v.field? name = some field ∧
    ∀ record, v.validateField name record =
      ((field.run (record.get? name) record).alone.1,
        (field.run (record.get? name) record).alone.2.map (Option.map v.messages.resolve))
  requiredFields : ∀ name flag, v.requiredFields.get? name = some flag ↔
    flag = true ∧ ∃ spec, v.schema.get? name = some spec ∧ spec.required = some true
  validateAll : ∀ record, (∀ name, (v.validateAll record).2 ≠ .error (.unknownField name)) ∧
    ∀ event ∈ (v.validateAll record).1, event.level ≠ .warn

theorem agreesWithSchema (v : Validator) : v.AgreesWithSchema := by
  have hnames := v.fieldNames_eq_names
  have hfield := v.field?_eq
  refine ⟨hnames, v.nodup_fieldNames, ?_, ?_, ?_, fun _ _ => requiredFields_get?_eq_some_iff, ?_⟩
  · intro name place
    rw [index_get?_eq_some_iff, hnames]
  · intro name record
    rw [knows_iff, hnames, OrderedTable.mem_names_iff_exists]
  · intro name spec hspec
    have hfound : v.field? name = some (Field.ofSpec name spec) := by
      rw [hfield, hspec]
      rfl
    refine ⟨Field.ofSpec name spec, compile_of_get? hspec, ?_, hfound, fun record => ?_⟩
    · rw [index_bind_eq_field?, hfound]
    · rw [validateField, alone_runField_of_some hfound]
  · intro record
    constructor
    · intro name herror
      obtain ⟨name', rule, source, he⟩ := validateAll_error herror
      cases he
    · intro event hevent hwarn
      have htrace := level_of_mem_validateAll hevent
      rw [hwarn] at htrace
      cases htrace

end Validator

end FieldRules
