import FieldRules.Proofs.Messages.Blank
import FieldRules.Proofs.Validator.Verdicts

/-!
# The texts of failures

The rules of a validator have names that are not blank, so whatever its messages are, each failure
has a text that is not blank. And since blank messages are never shown, a validator
answers as it does without them.
-/

namespace FieldRules

namespace Validator

variable {v : Validator}

theorem ne_empty_of_canFail {name failing : String} (hcan : v.CanFail name failing) :
    failing ≠ "" := by
  obtain ⟨spec, hspec, rfl | hrule⟩ := hcan
  · decide
  · obtain ⟨hsound, -⟩ := Field.compile_eq_ok_iff.mp (compile_of_get? hspec)
    exact (Field.name_of_fault?_eq_none hsound hrule).1

theorem text_ne_empty_of_validateField {name text : String} {record : Record}
    (hfails : (v.validateField name record).2 = .ok (some text)) : text ≠ "" := by
  obtain ⟨failing, hcan, rfl⟩ := exists_canFail hfails
  exact Messages.resolve_ne_empty (ne_empty_of_canFail hcan)

theorem text_ne_empty_of_validateFieldLenient {name text : String} {record : Record}
    (hfails : (v.validateFieldLenient name record).2 = .ok (some text)) : text ≠ "" := by
  rw [validateFieldLenient] at hfails
  cases hfield : v.field? name with
  | none => simp [hfield] at hfails
  | some field =>
    rw [hfield] at hfails
    exact text_ne_empty_of_validateField hfails

theorem text_ne_empty_of_validateFields {names : List String} {record : Record}
    {table : Failures} (hfails : (v.validateFields names record).2 = .ok (some table))
    {name text : String} (htext : table.get? name = some text) : text ≠ "" := by
  obtain ⟨-, hfailures⟩ := (answers_of_validateFields_ok hfails).failures table rfl
  obtain ⟨-, hfield⟩ := (hfailures name text).mp htext
  exact text_ne_empty_of_validateField hfield

structure ValidatesAlike (v w : Validator) : Prop where
  field : ∀ name record, w.validateField name record = v.validateField name record
  lenient : ∀ name record, w.validateFieldLenient name record = v.validateFieldLenient name record
  fields : ∀ names record, w.validateFields names record = v.validateFields names record
  all : ∀ record, w.validateAll record = v.validateAll record

/-- How a validator validates is settled by its fields, the texts that its messages give, and what
it does at undeclared names. -/
theorem validatesAlike_of_fields {w : Validator} (hfields : w.fields = v.fields)
    (hresolve : ∀ name, w.messages.resolve name = v.messages.resolve name)
    (hpolicy : w.options.unknownFields = v.options.unknownFields) : v.ValidatesAlike w := by
  have hfield : w.field? = v.field? := by
    funext name
    rw [field?, field?, hfields]
  have hrun : w.runField = v.runField := by
    funext name record
    rw [runField, runField, hfield, funext hresolve, hpolicy]
  have hname (name : String) (record : Record) :
      w.validateField name record = v.validateField name record := by
    rw [validateField, validateField, hrun]
  have hnames (names : List String) (record : Record) :
      w.validateFields names record = v.validateFields names record := by
    rw [validateFields, validateFields, refused?, refused?, hrun, hfield, hpolicy]
  refine ⟨hname, fun name record => ?_, hnames, fun record => ?_⟩
  · rw [validateFieldLenient, validateFieldLenient, hfield, hname]
  · rw [validateAll, validateAll, hnames, fieldNames, fieldNames, hfields]

/-- Whatever the messages are, no failure has a blank text, and without the blank messages a
validator can be built too, validates alike, and resolves every name to the same text. -/
theorem failure_texts (v : Validator) :
    (∀ name record text, (v.validateField name record).2 = .ok (some text) → text ≠ "") ∧
    (∀ name record text, (v.validateFieldLenient name record).2 = .ok (some text) → text ≠ "") ∧
    (∀ names record table, (v.validateFields names record).2 = .ok (some table) →
      ∀ name text, table.get? name = some text → text ≠ "") ∧
    (∀ record table, (v.validateAll record).2 = .ok (some table) →
      ∀ name text, table.get? name = some text → text ≠ "") ∧
    (∃ w, build v.schema v.messages.withoutBlanks v.options = .ok w ∧ v.ValidatesAlike w) ∧
    ∀ key, v.messages.withoutBlanks.resolve key = v.messages.resolve key := by
  refine ⟨fun _ _ _ => text_ne_empty_of_validateField,
    fun _ _ _ => text_ne_empty_of_validateFieldLenient,
    fun _ _ _ hfails _ _ => text_ne_empty_of_validateFields hfails,
    fun _ _ hfails _ _ => text_ne_empty_of_validateFields hfails, ?_,
    Messages.resolve_withoutBlanks v.messages⟩
  exact ⟨{ v with messages := v.messages.withoutBlanks }, build_with_messages v _,
    validatesAlike_of_fields rfl (Messages.resolve_withoutBlanks v.messages) rfl⟩

def blankMessages : Messages := ((∅ : Messages).insert "isRequired" "").insert "default" ""

def blankRetryValidator : Validator := { retryValidator with messages := blankMessages }

/-- Two blank messages are passed over, and the missing field is told of by the check's name. -/
theorem failure_texts_blankRetryValidator :
    build retrySchema blankMessages retryValidator.options = .ok blankRetryValidator ∧
    (blankRetryValidator.validateField "late" ∅).2 = .ok (some "isRequired") ∧ "isRequired" ≠ "" ∧
    (∀ record table, (blankRetryValidator.validateAll record).2 = .ok (some table) →
      ∀ name text, table.get? name = some text → text ≠ "") ∧
    ∃ w, build retrySchema blankMessages.withoutBlanks retryValidator.options = .ok w ∧
      blankRetryValidator.ValidatesAlike w := by
  have hbuild : build retrySchema blankMessages retryValidator.options =
      .ok blankRetryValidator := rfl
  have hlate : (blankRetryValidator.validateField "late" ∅).2 = .ok (some "isRequired") := rfl
  obtain ⟨hfield, -, -, hall, hwithout, -⟩ := failure_texts blankRetryValidator
  exact ⟨hbuild, hlate, hfield "late" ∅ "isRequired" hlate, hall, hwithout⟩

end Validator

end FieldRules
