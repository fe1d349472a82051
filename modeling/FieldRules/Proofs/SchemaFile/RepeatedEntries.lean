import FieldRules.Proofs.SchemaFile.Resolution
import FieldRules.Rule.Builtin

/-!
# Repeated entries of schema files

Entries of a file may repeat the name of a field, and rules of an entry the name of a rule. Places
go by the first of them and content by the last: the last entry of a field replaces all that the
earlier ones declare, the last rule of a name only the predicate that stood there.
-/

namespace FieldRules.SchemaFile

/-- The fields of a schema are the names of the file's entries without their repeats. Each declares
just what the last entry of its name says: the flag of that entry, and the rules of that entry
without their repeats, each built from the last rule of its name. -/
theorem last_entries_of_resolve {registry : Registry} {file : SchemaFile} {loaded : LoadedSchema}
    (h : file.resolve registry = .ok loaded) :
    loaded.schema.names = (file.fields.map FieldEntry.name).eraseDups ∧
    ∀ name ∈ loaded.schema.names, ∃ entry spec,
      LastNamed FieldEntry.name file.fields name entry ∧
      loaded.schema.get? name = some spec ∧
      spec.required = entry.required ∧
      spec.rules.names = (entry.rules.map RuleEntry.name).eraseDups ∧
      ∀ ruleName ∈ spec.rules.names, ∃ rule predicate,
        LastNamed RuleEntry.name entry.rules ruleName rule ∧
        registry.build (rule.kind.getD rule.name) rule.parameter = .ok predicate ∧
        spec.rules.get? ruleName = some predicate := by
  obtain ⟨-, hdeclares, -⟩ := resolve_eq_ok_iff.mp h
  have hfields := declares_iff_filled.mp hdeclares
  refine ⟨hfields.names, fun name hname => ?_⟩
  obtain ⟨entry, spec, hlast, hspec, hget⟩ := hfields.exists_last hname
  obtain ⟨hrequired, hrules⟩ := filled_fieldSpec hspec
  refine ⟨entry, spec, hlast, hget, hrequired, hrules.names, fun ruleName hrule => ?_⟩
  exact hrules.exists_last hrule

/-- A file with two entries of one field, the second of which has two rules of one name. -/
def repeatedNameFile : SchemaFile where
  options := {}
  messages := none
  fields :=
    [⟨"name", some true, [⟨"integer", none, none⟩]⟩,
      ⟨"age", none, [⟨"integer", none, none⟩]⟩,
      ⟨"name", none,
        [⟨"size", some "min_length", some (.integer 3)⟩, ⟨"integer", none, none⟩,
          ⟨"size", some "max_length", some (.integer 8)⟩]⟩]

def repeatedNameLoaded : LoadedSchema where
  schema :=
    ((∅ : Schema).insert "name"
      ((FieldSpec.empty.addRule "size"
          (.ofValue fun value => (Builtin.length? value).any (· ≤ 8))).addRule "integer"
        (.ofValue Builtin.isInteger))).insert "age"
      (FieldSpec.empty.addRule "integer" (.ofValue Builtin.isInteger))
  messages := ∅
  options := {}

/-- Of the first entry nothing is left but the place of the field. -/
theorem last_entries_repeatedNameFile :
    repeatedNameFile.resolve .builtin = .ok repeatedNameLoaded ∧
    repeatedNameLoaded.schema.names = (repeatedNameFile.fields.map FieldEntry.name).eraseDups ∧
    "name" ∈ repeatedNameLoaded.schema.names ∧
    ∃ entry spec, LastNamed FieldEntry.name repeatedNameFile.fields "name" entry ∧
      repeatedNameLoaded.schema.get? "name" = some spec ∧ spec.required = entry.required ∧
      spec.rules.names = (entry.rules.map RuleEntry.name).eraseDups ∧
      "size" ∈ spec.rules.names ∧
      ∃ rule predicate, LastNamed RuleEntry.name entry.rules "size" rule ∧
        Registry.builtin.build (rule.kind.getD rule.name) rule.parameter = .ok predicate ∧
        spec.rules.get? "size" = some predicate := by
  have hfile : repeatedNameFile.resolve .builtin = .ok repeatedNameLoaded := rfl
  obtain ⟨hnames, hfields⟩ := last_entries_of_resolve hfile
  have hname : "name" ∈ repeatedNameLoaded.schema.names := by decide
  obtain ⟨entry, spec, hlast, hget, hrequired, hrules, hbuilt⟩ := hfields "name" hname
  have hsize : "size" ∈ spec.rules.names := by
    obtain rfl := Option.some.inj hget
    decide
  exact ⟨hfile, hnames, hname, entry, spec, hlast, hget, hrequired, hrules, hsize,
    hbuilt "size" hsize⟩

end FieldRules.SchemaFile
