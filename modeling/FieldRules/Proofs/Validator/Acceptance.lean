import FieldRules.Proofs.Validator.FailureTexts

/-!
# Schemas that are accepted

A validator can be built of a schema exactly if there is a field in it and all its fields are sound;
otherwise the first field that is not is told of. Being strict has no part in what a validator does
once it is built, nor has it a part whether a field leaves its flag open or is declared not to be
required.
-/

namespace FieldRules

namespace Field

structure Sound (spec : FieldSpec) (strict : Bool) : Prop where
  declares : strict = true → spec.isEmpty = false
  ruleNames : ∀ rule ∈ spec.rules.names, rule ≠ "" ∧ rule ≠ requiredRule

variable {spec : FieldSpec} {strict : Bool}

theorem sound_iff_not_offends : Sound spec strict ↔ ∀ fault, ¬ Offends spec strict fault := by
  constructor
  · rintro ⟨hdeclares, hnames⟩ fault (⟨hstrict, hempty⟩ | ⟨hsplit, -⟩ | ⟨hsplit, -⟩)
    · rw [hdeclares hstrict] at hempty
      cases hempty
    · exact (hnames "" (by simp [hsplit])).1 rfl
    · exact (hnames requiredRule (by simp [hsplit])).2 rfl
  · intro h
    refine ⟨fun hstrict => ?_, fun rule hrule =>
      name_of_fault?_eq_none (fault?_eq_none_iff.mpr h) hrule⟩
    rw [Bool.eq_false_iff]
    exact fun hempty => h .noRules (.noRules hstrict hempty)

theorem Sound.lenient (h : Sound spec strict) : Sound spec false where
  declares := nofun
  ruleNames := h.ruleNames

theorem ofSpec_setRequired_false (name : String) (h : spec.required = none) :
    ofSpec name (spec.setRequired false) = ofSpec name spec := by
  rw [ofSpec, ofSpec, h]
  rfl

end Field

namespace Validator

variable {schema : Schema} {messages : Messages} {options : Options} {v w : Validator}

theorem build_eq_noFields_iff :
    build schema messages options = .error .noFields ↔ schema.names = [] := by
  rw [build_eq_error_iff, OrderedTable.isEmpty_iff_names]
  constructor
  · rintro (⟨hnames, -⟩ | ⟨-, hcompile⟩)
    · exact hnames
    · obtain ⟨_, _, _, _, _, -, -, -, hrules⟩ := compileAll_eq_error_iff.mp hcompile
      cases hrules
  · exact fun hnames => .inl ⟨hnames, rfl⟩

theorem build_eq_error_iff_first (h : schema.names ≠ []) {e : SchemaError} :
    build schema messages options = .error e ↔
      ∃ before name spec after fault, schema.entries = before ++ (name, spec) :: after ∧
        (∀ x ∈ before, Field.Sound x.2 options.strictRules) ∧
        Field.Offends spec options.strictRules fault ∧ e = .rules name fault := by
  simp only [build_eq_error_iff, compileAll_eq_error_iff, Field.sound_iff_not_offends,
    OrderedTable.isEmpty_iff_names, h, false_and, false_or, ← Bool.not_eq_true, not_false_eq_true,
    true_and]

theorem exists_build_iff_sound : (∃ v, build schema messages options = .ok v) ↔
    schema.names ≠ [] ∧
      ∀ name spec, schema.get? name = some spec → Field.Sound spec options.strictRules := by
  have hentries : (∀ e ∈ schema.entries, ∀ fault, ¬ Field.Offends e.2 options.strictRules fault) ↔
      ∀ name spec, schema.get? name = some spec → Field.Sound spec options.strictRules := by
    simp only [OrderedTable.get?_eq_some_iff, Field.sound_iff_not_offends, Prod.forall]
  rw [← hentries, ← OrderedTable.isEmpty_iff_names.ne, ne_eq, Bool.not_eq_true]
  constructor
  · rintro ⟨v, hv⟩
    obtain ⟨rfl, -, rfl⟩ := build_eq_ok_iff.mp hv
    exact ⟨v.declared, v.not_offends⟩
  · rintro ⟨hdeclared, hsound⟩
    exact ⟨_, build_of_compileAll hdeclared (compileAll_eq_ok_iff_map.mpr ⟨hsound, rfl⟩)⟩

/-- Schemas that are compiled to the same fields are validated alike, as far as messages and what to
do at undeclared names are the same. -/
theorem validatesAlike_of_build {schema' : Schema} {options' : Options}
    (hfields : schema'.entries.map (fun e => Field.ofSpec e.1 e.2) =
      schema.entries.map fun e => Field.ofSpec e.1 e.2)
    (hv : build schema messages options = .ok v) (hw : build schema' messages options' = .ok w)
    (hpolicy : options'.unknownFields = options.unknownFields) :
    w.fields = v.fields ∧ v.ValidatesAlike w := by
  obtain ⟨hschema, hmessages, hoptions⟩ := build_eq_ok_iff.mp hv
  obtain ⟨hschema', hmessages', hoptions'⟩ := build_eq_ok_iff.mp hw
  have hsame : w.fields = v.fields := by
    rw [fields_eq, fields_eq, hschema, hschema', hfields]
  refine ⟨hsame, validatesAlike_of_fields hsame (fun name => ?_) ?_⟩
  · rw [hmessages, hmessages']
  · rw [hoptions, hoptions', hpolicy]

theorem exists_build_lenient
    (h : build schema messages { options with strictRules := true } = .ok v) :
    ∃ w, build schema messages { options with strictRules := false } = .ok w ∧
      v.ValidatesAlike w := by
  obtain ⟨hnames, hsound⟩ := exists_build_iff_sound.mp ⟨v, h⟩
  have hlenient : ∀ name spec, schema.get? name = some spec → Field.Sound spec false :=
    fun name spec hspec => (hsound name spec hspec).lenient
  obtain ⟨w, hw⟩ : ∃ w, build schema messages { options with strictRules := false } = .ok w :=
    exists_build_iff_sound.mpr ⟨hnames, hlenient⟩
  exact ⟨w, hw, (validatesAlike_of_build rfl h hw rfl).2⟩

/-- There is no validator of a schema without fields. Otherwise there is one exactly if every field
is sound, and if not, the first that is not is told of, with what is wrong with it first. What can
be built strictly can be built without strictness and does the same, and so does what is built with
a flag that was left open declared to be false. -/
theorem build_acceptance (schema : Schema) (messages : Messages) (options : Options) :
    (build schema messages options = .error .noFields ↔ schema.names = []) ∧
    (schema.names ≠ [] →
      ((∃ v, build schema messages options = .ok v) ↔
        ∀ name spec, schema.get? name = some spec → Field.Sound spec options.strictRules) ∧
      ∀ e, build schema messages options = .error e ↔
        ∃ before name spec after fault, schema.entries = before ++ (name, spec) :: after ∧
          (∀ x ∈ before, Field.Sound x.2 options.strictRules) ∧
          Field.Offends spec options.strictRules fault ∧ e = .rules name fault) ∧
    (∀ v, build schema messages { options with strictRules := true } = .ok v →
      ∃ w, build schema messages { options with strictRules := false } = .ok w ∧
        v.ValidatesAlike w) ∧
    ∀ name spec, schema.get? name = some spec → spec.required = none → ∀ v w,
      build schema messages options = .ok v →
      build (schema.insert name (spec.setRequired false)) messages options = .ok w →
      v.ValidatesAlike w ∧ w.requiredFields = v.requiredFields := by
  refine ⟨build_eq_noFields_iff, fun hnames => ⟨?_, fun e => build_eq_error_iff_first hnames⟩,
    fun v => exists_build_lenient, ?_⟩
  · rw [exists_build_iff_sound, and_iff_right hnames]
  · -- To declare that a field is not required, where that was left open, changes no compiled field.
    intro name spec hspec hflag v w hv hw
    have hsame : (schema.insert name (spec.setRequired false)).entries.map
        (fun e => Field.ofSpec e.1 e.2) = schema.entries.map fun e => Field.ofSpec e.1 e.2 :=
      Entries.map_put hspec (Field.ofSpec_setRequired_false name hflag)
    obtain ⟨hfields, halike⟩ := validatesAlike_of_build hsame hv hw rfl
    refine ⟨halike, ?_⟩
    rw [requiredFields, requiredFields, hfields]

def filledSpec : FieldSpec := FieldSpec.empty.addTest "filled" fun _ _ => true

def filledSchema : Schema := (∅ : Schema).insert "user" filledSpec

/-- Strictly built, with the flag left open or declared, or built without strictness, a schema is
validated alike. A field that declares nothing and a rule without a name are refused in turn. -/
theorem build_acceptance_filled :
    (∃ v w u, build filledSchema ∅ { strictRules := true } = .ok v ∧
      build filledSchema ∅ { strictRules := false } = .ok w ∧ v.ValidatesAlike w ∧
      build (filledSchema.insert "user" (filledSpec.setRequired false)) ∅ { strictRules := true } =
        .ok u ∧ v.ValidatesAlike u ∧ u.requiredFields = v.requiredFields) ∧
    build ((filledSchema.insert "bare" .empty).insert "user"
      (filledSpec.addTest "" fun _ _ => true)) ∅ { strictRules := true } =
        .error (.rules "user" .emptyName) ∧
    build (filledSchema.insert "bare" .empty) ∅ { strictRules := true } =
      .error (.rules "bare" .noRules) := by
  obtain ⟨-, -, hlenient, hflag⟩ := build_acceptance filledSchema ∅ { strictRules := true }
  obtain ⟨w, hw, halike⟩ := hlenient _ rfl
  obtain ⟨halike', hrequired⟩ := hflag "user" filledSpec rfl rfl _ _ rfl rfl
  exact ⟨⟨_, w, _, rfl, hw, halike, rfl, halike', hrequired⟩, rfl, rfl⟩

end Validator

end FieldRules
