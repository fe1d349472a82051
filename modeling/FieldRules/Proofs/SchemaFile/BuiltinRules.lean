import FieldRules.Proofs.SchemaFile.Resolution
import FieldRules.Proofs.Validator.ValueTests
import FieldRules.Rule.Builtin

/-!
# Schema files with the built-in rules

All built-in kinds make tests of the value. So a validator made from a file with their help has an
answer for every record, and what it says depends on nothing but the content of the fields that it
is asked about.
-/

namespace FieldRules

def Factory.MakesValueTests (factory : Factory) : Prop :=
  ∀ parameter predicate, factory parameter = .ok predicate → predicate.IsValueTest

namespace Builtin

/-- A factory that reads its parameter and makes a test with it. -/
theorem makesValueTests_of_map {α : Type} (read : Option Toml → Except BuildError α)
    (test : α → Json → Bool) :
    Factory.MakesValueTests fun parameter =>
      (read parameter).map fun a => Predicate.ofValue (test a) := by
  intro parameter predicate h
  obtain ⟨a, -, rfl⟩ := map_eq_ok_iff.mp h
  exact ⟨test a, rfl⟩

theorem makesValueTests_pattern : Factory.MakesValueTests pattern := by
  intro parameter predicate h
  rw [pattern.eq_def] at h
  split at h
  · split at h
    · exact ⟨_, (Except.ok.inj h).symm⟩
    · cases h
  · cases h

theorem makesValueTests_oneOf : Factory.MakesValueTests oneOf := by
  intro parameter predicate h
  rw [oneOf.eq_def] at h
  split at h
  · exact ⟨_, (Except.ok.inj h).symm⟩
  · cases h

theorem makesValueTests_integer : Factory.MakesValueTests integer := by
  intro parameter predicate h
  exact ⟨isInteger, (Except.ok.inj h).symm⟩

end Builtin

theorem Registry.isValueTest_of_builtin {kind : String} {parameter : Option Toml}
    {predicate : Predicate} (h : Registry.builtin.build kind parameter = .ok predicate) :
    predicate.IsValueTest := by
  rw [build] at h
  cases hfactory : Registry.builtin.get? kind with
  | none =>
    rw [hfactory] at h
    cases h
  | some factory =>
    rw [hfactory] at h
    suffices hmakes : factory.MakesValueTests from hmakes parameter predicate h
    rw [builtin, SortedTable.get?_ofList] at hfactory
    have hmem := Entries.mem_of_look_eq_some hfactory
    simp only [Builtin.registrations, List.mem_reverse, List.mem_cons, List.not_mem_nil, or_false,
      Prod.mk.injEq] at hmem
    rcases hmem with ⟨-, rfl⟩ | ⟨-, rfl⟩ | ⟨-, rfl⟩ | ⟨-, rfl⟩ | ⟨-, rfl⟩ | ⟨-, rfl⟩ | ⟨-, rfl⟩
    · exact Builtin.makesValueTests_of_map _ _
    · exact Builtin.makesValueTests_of_map _ _
    · exact Builtin.makesValueTests_of_map _ _
    · exact Builtin.makesValueTests_of_map _ _
    · exact Builtin.makesValueTests_pattern
    · exact Builtin.makesValueTests_oneOf
    · exact Builtin.makesValueTests_integer

namespace SchemaFile

theorem testsValues_of_builtin {file : SchemaFile} {loaded : LoadedSchema} {options : Options}
    {v : Validator} (hfile : file.resolve .builtin = .ok loaded)
    (hbuild : Validator.build loaded.schema loaded.messages options = .ok v) : v.TestsValues := by
  obtain ⟨-, hdeclares, -⟩ := resolve_eq_ok_iff.mp hfile
  obtain ⟨hschema, -, -⟩ := Validator.build_eq_ok_iff.mp hbuild
  have hrules := hdeclares.rules fun _ _ _ => Registry.isValueTest_of_builtin
  intro f hf
  rw [v.fields_eq, hschema] at hf
  obtain ⟨x, hx, rfl⟩ := List.mem_map.mp hf
  exact hrules x hx

/-- With the built-in rules validating all fields always has an answer, and otherwise nothing but an
undeclared name is an error. Two records are validated alike if each declared field among the names
has the same content in both, or no content in either. -/
theorem validate_of_builtin {file : SchemaFile} {loaded : LoadedSchema} {options : Options}
    {v : Validator} (hfile : file.resolve .builtin = .ok loaded)
    (hbuild : Validator.build loaded.schema loaded.messages options = .ok v) :
    (∀ record, ∃ answer, (v.validateAll record).2 = .ok answer) ∧
    (∀ name record e, (v.validateField name record).2 = .error e → e = .unknownField name) ∧
    (∀ names record e, (v.validateFields names record).2 = .error e →
      ∃ name ∈ names, e = .unknownField name) ∧
    ∀ names record record', (∀ name ∈ names, name ∈ loaded.schema.names →
        Field.SameContent (record.get? name) (record'.get? name)) →
      v.validateFields names record = v.validateFields names record' := by
  have htests := testsValues_of_builtin hfile hbuild
  refine ⟨htests.validateAll_ok, fun _ _ _ => htests.validateField_error,
    fun _ _ _ => htests.validateFields_error, fun names record record' hsame => ?_⟩
  apply htests.validateFields_congr
  rw [v.fieldNames_eq_names, (Validator.build_eq_ok_iff.mp hbuild).1]
  exact hsame

def signupSpec : FieldSpec :=
  (FieldSpec.empty.setRequired true).addRule "min"
    (.ofValue fun value => (Builtin.length? value).any (3 ≤ ·))

def signupLoaded : LoadedSchema := ⟨(∅ : Schema).insert "name" signupSpec, ∅, {}⟩

def signupValidator : Validator :=
  ⟨signupLoaded.schema, ∅, ⟨.reject, true⟩, [Field.ofSpec "name" signupSpec], rfl, rfl⟩

/-- A name that is null is as absent as one that the record does not have. -/
theorem validate_signup :
    (signupFile none).resolve .builtin = .ok signupLoaded ∧
    Validator.build signupLoaded.schema signupLoaded.messages ⟨.reject, true⟩ =
      .ok signupValidator ∧
    (∃ answer, (signupValidator.validateAll ((∅ : Record).insert "name" .null)).2 = .ok answer) ∧
    signupValidator.validateFields ["name"] ((∅ : Record).insert "name" .null) =
      signupValidator.validateFields ["name"] ((∅ : Record).insert "age" (.boolean true)) := by
  have hfile : (signupFile none).resolve .builtin = .ok signupLoaded := rfl
  have hbuild : Validator.build signupLoaded.schema signupLoaded.messages ⟨.reject, true⟩ =
      .ok signupValidator := rfl
  obtain ⟨hall, -, -, hsame⟩ := validate_of_builtin hfile hbuild
  refine ⟨hfile, hbuild, hall _, hsame _ _ _ fun name hname _ => ?_⟩
  obtain rfl := List.mem_singleton.mp hname
  exact .inl ⟨.inr (.inl rfl), .inl rfl⟩

end SchemaFile

end FieldRules
