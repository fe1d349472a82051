import FieldRules.Proofs.SchemaFile.Resolution
import FieldRules.Proofs.Validator.Build

/-!
# Which fault of a schema file is reported

Making a validator of a schema file ends in one of five ways, and each of them excludes those after
it: with the first rule of the document that cannot be built, with messages that are no table, with
no field at all, with the first field of the schema whose rules are refused, or with a validator.
-/

namespace FieldRules

namespace SchemaFile

theorem Declares.isEmpty_iff {registry : Registry} {fields : List FieldEntry} {schema : Schema}
    (h : Declares registry fields schema) : schema.isEmpty = true ↔ fields = [] := by
  rw [OrderedTable.isEmpty_iff_names, h.names]
  cases fields with
  | nil => simp
  | cons field fields => simp [List.eraseDups_cons]

end SchemaFile

end FieldRules
