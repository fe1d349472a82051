import FieldRules.Proofs.Table.Edits
import FieldRules.Proofs.Validator.Extension

/-!
# Editing the schema of a validator

An extension whose schema is edited field by field differs from its parent only in the fields that
the edits mention. Every other name is validated as before, wherever its field has moved to.
-/

namespace FieldRules.Validator

variable {v w : Validator}

/-- The run of a name is settled by its declaration, the messages and the options. -/
theorem runField_congr (hmessages : w.messages = v.messages)
    (hoptions : w.options = v.options) {name : String}
    (hget : w.schema.get? name = v.schema.get? name) (record : Record) :
    w.runField name record = v.runField name record := by
  have hfield : w.field? name = v.field? name := by
    rw [field?_eq, field?_eq, hget]
  rw [runField, runField, hfield, hmessages, hoptions]

theorem parts_of_extendSchema {edit : Schema → Schema} (hw : v.extendSchema edit = .ok w) :
    w.schema = edit v.schema ∧ w.messages = v.messages ∧ w.options = v.options :=
  build_eq_ok_iff.mp hw

variable {edits : List (TableEdit FieldSpec)}

theorem schema_get?_of_notMem (hw : v.extendSchema (fun s => Table.editAll s edits) = .ok w)
    {name : String} (hname : name ∉ TableEdit.names edits) :
    w.schema.get? name = v.schema.get? name := by
  obtain ⟨hschema, -, -⟩ := parts_of_extendSchema hw
  rw [hschema]
  exact Table.get?_editAll_of_notMem (t := v.schema) hname

theorem validateField_of_notMem (hw : v.extendSchema (fun s => Table.editAll s edits) = .ok w)
    {name : String} (hname : name ∉ TableEdit.names edits) (record : Record) :
    w.validateField name record = v.validateField name record := by
  obtain ⟨-, hmessages, hoptions⟩ := parts_of_extendSchema hw
  have hget := schema_get?_of_notMem hw hname
  rw [validateField, validateField, runField_congr hmessages hoptions hget]

theorem mem_fieldNames_of_notMem (hw : v.extendSchema (fun s => Table.editAll s edits) = .ok w)
    {name : String} (hname : name ∉ TableEdit.names edits) :
    name ∈ w.fieldNames ↔ name ∈ v.fieldNames := by
  have hget := schema_get?_of_notMem hw hname
  rw [fieldNames_eq_names, fieldNames_eq_names, OrderedTable.mem_names_iff_exists,
    OrderedTable.mem_names_iff_exists, hget]

/-- Editing a schema leaves everything as it was off the names that the edits mention: how a name is
validated, the order of the names, and the messages in the answers for all fields. -/
theorem extendSchema_editAll_local
    (hw : v.extendSchema (fun s => Table.editAll s edits) = .ok w) :
    (∀ name, name ∉ TableEdit.names edits → ∀ record,
      w.validateField name record = v.validateField name record) ∧
    w.fieldNames.filter (fun name => name ∉ TableEdit.names edits) =
      v.fieldNames.filter (fun name => name ∉ TableEdit.names edits) ∧
    ∀ record answer answer', (v.validateAll record).2 = .ok answer →
      (w.validateAll record).2 = .ok answer' → ∀ name, name ∉ TableEdit.names edits →
      (answer'.bind fun table => table.get? name) = answer.bind fun table => table.get? name := by
  refine ⟨fun name => validateField_of_notMem hw, ?_, ?_⟩
  · obtain ⟨hschema, -, -⟩ := parts_of_extendSchema hw
    rw [fieldNames_eq_names, fieldNames_eq_names, hschema]
    exact OrderedTable.filter_names_editAll fun name hname => by simpa using hname
  · intro record answer answer' hanswer hanswer' name hname
    apply Option.ext
    intro message
    rw [(answers_of_validateFields_ok hanswer').failure_iff,
      (answers_of_validateFields_ok hanswer).failure_iff, mem_fieldNames_of_notMem hw hname,
      validateField_of_notMem hw hname]

/-- Edits that move the field of one name behind a new one. -/
def guestEdits : List (TableEdit FieldSpec) :=
  [.erase "soon", .insert "guest" (FieldSpec.empty.setRequired true),
    .insert "soon" (FieldSpec.empty.setRequired true)]

def guestValidator : Validator where
  schema := Table.editAll retrySchema guestEdits
  messages := retryValidator.messages
  options := retryValidator.options
  fields := (Table.editAll retrySchema guestEdits).entries.map fun (name, spec) =>
    Field.ofSpec name spec
  declared := rfl
  compiled := rfl

theorem extendSchema_guestEdits :
    build retrySchema retryValidator.messages retryValidator.options = .ok retryValidator ∧
    retryValidator.extendSchema (fun s => Table.editAll s guestEdits) = .ok guestValidator ∧
    guestValidator.fieldNames = ["late", "guest", "soon"] ∧
    guestValidator.fieldNames.filter (fun name => name ∉ TableEdit.names guestEdits) =
      retryValidator.fieldNames.filter (fun name => name ∉ TableEdit.names guestEdits) ∧
    ∃ answer answer', (retryValidator.validateAll ∅).2 = .ok answer ∧
      (guestValidator.validateAll ∅).2 = .ok answer' ∧
      (answer'.bind fun table => table.get? "late") =
        answer.bind fun table => table.get? "late" := by
  have hv : build retrySchema retryValidator.messages retryValidator.options =
      .ok retryValidator := rfl
  have hw : retryValidator.extendSchema (fun s => Table.editAll s guestEdits) =
      .ok guestValidator := rfl
  obtain ⟨-, hnames, hanswers⟩ := extendSchema_editAll_local hw
  obtain ⟨answer, hanswer⟩ := (retryValidator.validateFields_ok_iff ["soon", "late"] ∅).mpr <| by
    simp only [List.forall_mem_cons, List.not_mem_nil, false_implies, implies_true, and_true]
    exact ⟨⟨none, rfl⟩, ⟨some "isRequired", rfl⟩⟩
  obtain ⟨answer', hanswer'⟩ :=
      (guestValidator.validateFields_ok_iff ["late", "guest", "soon"] ∅).mpr <| by
    simp only [List.forall_mem_cons, List.not_mem_nil, false_implies, implies_true, and_true]
    exact ⟨⟨some "isRequired", rfl⟩, ⟨some "isRequired", rfl⟩, ⟨some "isRequired", rfl⟩⟩
  exact ⟨hv, hw, rfl, hnames, answer, answer', hanswer, hanswer',
    hanswers ∅ answer answer' hanswer hanswer' "late" (by decide)⟩

end FieldRules.Validator
