import FieldRules.Proofs.Messages.OfJson
import FieldRules.Proofs.SchemaFile.Resolution
import FieldRules.Proofs.Toml.WellFormed
import FieldRules.Rule.Builtin

/-!
# The messages of a schema file

The messages are read from the JSON form of their value, and that form does not tell all values
apart. A table of texts is read as it is written. A float that JSON cannot write becomes `null` and
passes for the empty table, and a date or time becomes an object with one text and passes for a
table of that one message. Every other value is refused.
-/

namespace FieldRules

namespace Toml

theorem toJson_eq_text_iff {value : Toml} {s : String} :
    value.toJson = .text s ↔ value = .text s := by
  cases value with
  | float x => by_cases h : x.isFinite = true <;> simp [toJson, h]
  | _ => simp [toJson]

/-- Only a float that JSON cannot write becomes `null`. -/
theorem toJson_eq_null_iff {value : Toml} :
    value.toJson = .null ↔ ∃ x, value = .float x ∧ x.isFinite = false := by
  cases value with
  | float x => by_cases h : x.isFinite = true <;> simp [toJson, h]
  | _ => simp [toJson]

theorem toJson_eq_object_iff {value : Toml} {members : Entries Json} :
    value.toJson = .object members ↔
      (∃ d, value = .datetime d ∧ members = [(datetimeKey, .text d.text)]) ∨
      ∃ entries, value = .table entries ∧ members = entriesToJson entries := by
  cases value with
  | float x => by_cases h : x.isFinite = true <;> simp [toJson, h]
  | _ => simp [toJson, eq_comm]

def IsTableOf (value : Toml) (m : Messages) : Prop :=
  ∃ entries, value = .table entries ∧
    ∀ key, (SortedTable.ofList entries).get? key = (m.get? key).map .text

theorem isTableOf_entries (m : Messages) :
    IsTableOf (.table (m.entries.map fun e => (e.1, .text e.2))) m := by
  refine ⟨_, rfl, fun key => ?_⟩
  rw [SortedTable.get?_ofList_map, SortedTable.ofList_entries]

inductive PassesFor : Toml → Messages → Prop
  | unwritable (x : Binary64) (h : x.isFinite = false) : PassesFor (.float x) ∅
  | datetime (d : Datetime) : PassesFor (.datetime d) ((∅ : Messages).insert datetimeKey d.text)

/-- The one member that a date or time becomes is a table of one message. -/
theorem get?_datetime_iff {d : Datetime} {m : Messages} :
    (∀ key, (SortedTable.ofList [(datetimeKey, Json.text d.text)]).get? key =
      (m.get? key).map .text) ↔ m = (∅ : Messages).insert datetimeKey d.text := by
  have htable (key : String) : (SortedTable.ofList [(datetimeKey, Json.text d.text)]).get? key =
      (((∅ : Messages).insert datetimeKey d.text).get? key).map .text := by
    rw [SortedTable.get?_insert, SortedTable.get?_ofList, List.reverse_singleton, Entries.look_cons]
    by_cases h : key = datetimeKey
    · rw [if_pos h, if_pos h.symm]
      rfl
    · rw [if_neg h, if_neg fun q => h q.symm]
      rfl
  constructor
  · intro h
    refine SortedTable.ext_get? fun key => ?_
    have hinj : Function.Injective Json.text := fun a b hab => by simpa using hab
    exact Option.map_injective hinj ((h key).symm.trans (htable key))
  · rintro rfl
    exact htable

theorem ofJson_toJson_eq_ok_iff {value : Toml} {m : Messages} :
    Messages.ofJson value.toJson = .ok m ↔ value.IsTableOf m ∨ value.PassesFor m := by
  rw [Messages.ofJson_eq_ok_iff]
  constructor
  · rintro (⟨hnull, rfl⟩ | ⟨members, hobject, hget⟩)
    · obtain ⟨x, rfl, hx⟩ := toJson_eq_null_iff.mp hnull
      exact .inr (.unwritable x hx)
    · rcases toJson_eq_object_iff.mp hobject with ⟨d, rfl, rfl⟩ | ⟨entries, rfl, rfl⟩
      · rw [get?_datetime_iff.mp hget]
        exact .inr (.datetime d)
      · refine .inl ⟨entries, rfl, fun key => ?_⟩
        have hkey := hget key
        rw [entriesToJson_eq_map, SortedTable.get?_ofList_map] at hkey
        cases hm : m.get? key with
        | none => simpa [hm] using hkey
        | some message =>
          rw [hm] at hkey
          obtain ⟨value, hvalue, htext⟩ := Option.map_eq_some_iff.mp hkey
          rw [hvalue, toJson_eq_text_iff.mp htext]
          rfl
  · rintro (⟨entries, rfl, hget⟩ | hpasses)
    · refine .inr ⟨entriesToJson entries, by rw [toJson], fun key => ?_⟩
      rw [entriesToJson_eq_map, SortedTable.get?_ofList_map, hget, Option.map_map]
      rfl
    · cases hpasses with
      | unwritable x hx => exact .inl ⟨by rw [toJson, hx]; rfl, rfl⟩
      | datetime d => exact .inr ⟨_, by rw [toJson], get?_datetime_iff.mpr rfl⟩

end Toml

namespace SchemaFile

theorem readMessages_some_eq_ok_iff {value : Toml} {m : Messages} :
    readMessages (some value) = .ok m ↔ value.IsTableOf m ∨ value.PassesFor m := by
  rw [readMessages, mapError_eq_ok_iff, Toml.ofJson_toJson_eq_ok_iff]

/-- Where the rules build, a file with messages resolves exactly if their value is a table of texts
or passes for one, and has those messages then; with any other value it is refused for its
messages. -/
theorem resolve_messages_iff {registry : Registry} {file : SchemaFile} {value : Toml}
    (hbuilds : ∀ x ∈ ruleEntries file.fields, Builds registry x.2)
    (hvalue : file.messages = some value) :
    (∀ m, (∃ loaded, file.resolve registry = .ok loaded ∧ loaded.messages = m) ↔
      value.IsTableOf m ∨ value.PassesFor m) ∧
    ((∀ m, ¬ value.IsTableOf m ∧ ¬ value.PassesFor m) →
      ∃ fault, file.resolve registry = .error (.messages fault)) := by
  have hresolves (m : Messages) :
      (∃ loaded, file.resolve registry = .ok loaded ∧ loaded.messages = m) ↔
        readMessages (some value) = .ok m := by
    constructor
    · rintro ⟨loaded, hloaded, rfl⟩
      exact hvalue ▸ (resolve_eq_ok_iff.mp hloaded).2.2.1
    · intro hm
      obtain ⟨schema, hschema⟩ := (addFields_ok_iff ∅).mpr hbuilds
      obtain ⟨-, hdeclares⟩ := addFields_eq_ok_iff.mp hschema
      have hread : readMessages file.messages = .ok m := hvalue ▸ hm
      exact ⟨⟨schema, m, file.options⟩,
        resolve_eq_ok_iff.mpr ⟨hbuilds, hdeclares, hread, rfl⟩, rfl⟩
  refine ⟨fun m => by rw [hresolves, readMessages_some_eq_ok_iff], fun hno => ?_⟩
  have hfails : ∃ fault, Messages.ofJson value.toJson = .error fault := by
    cases hread : Messages.ofJson value.toJson with
    | ok m =>
      rcases Toml.ofJson_toJson_eq_ok_iff.mp hread with htable | hpasses
      · exact absurd htable (hno m).1
      · exact absurd hpasses (hno m).2
    | error fault => exact ⟨fault, rfl⟩
  obtain ⟨fault, hfault⟩ := hfails
  refine ⟨fault, resolve_eq_error_iff.mpr (.inr ⟨hbuilds, ?_⟩)⟩
  rw [hvalue, readMessages, hfault]
  rfl

def signupMessages : Messages :=
  ((∅ : Messages).insert "default" "is invalid").insert "min" "too short"

theorem builds_signup (messages : Option Toml) :
    ∀ x ∈ ruleEntries (signupFile messages).fields, Builds .builtin x.2 := by
  intro x hx
  obtain rfl : x = ("name", ⟨"min", some "min_length", some (.integer 3)⟩) := by
    simpa [ruleEntries, signupFile] using hx
  exact ⟨_, rfl⟩

def signupTable : Toml := .table [("default", .text "is invalid"), ("min", .text "too short")]

theorem resolve_signup_messages :
    (∀ x ∈ ruleEntries (signupFile (some signupTable)).fields, Builds .builtin x.2) ∧
    (signupFile (some signupTable)).messages = some signupTable ∧
    ∃ loaded, (signupFile (some signupTable)).resolve .builtin = .ok loaded ∧
      loaded.messages = signupMessages :=
  ⟨builds_signup _, rfl, ((resolve_messages_iff (builds_signup _) rfl).1 _).mpr
    (.inl (Toml.isTableOf_entries signupMessages))⟩

/-- A number that is not one and a date are taken for messages, and neither is a table. -/
theorem resolve_signup_no_table :
    (∃ loaded, (signupFile (some (.float .nan))).resolve .builtin = .ok loaded ∧
      loaded.messages = ∅) ∧
    (∃ loaded, (signupFile (some (.datetime (.dateOnly ⟨1979, 5, 27⟩)))).resolve .builtin =
        .ok loaded ∧
      loaded.messages.get? Toml.datetimeKey = some "1979-05-27") ∧
    ∀ m, ¬ (Toml.float .nan).IsTableOf m ∧
      ¬ (Toml.datetime (.dateOnly ⟨1979, 5, 27⟩)).IsTableOf m := by
  refine ⟨?_, ?_, fun m => ⟨?_, ?_⟩⟩
  · exact ((resolve_messages_iff (builds_signup _) rfl).1 ∅).mpr (.inr (.unwritable .nan rfl))
  · obtain ⟨loaded, hloaded, hmessages⟩ := ((resolve_messages_iff (builds_signup _) rfl).1 _).mpr
      (.inr (.datetime (.dateOnly ⟨1979, 5, 27⟩)))
    refine ⟨loaded, hloaded, ?_⟩
    rw [hmessages, SortedTable.get?_insert, if_pos rfl]
    rfl
  · rintro ⟨entries, htable, -⟩
    cases htable
  · rintro ⟨entries, htable, -⟩
    cases htable

end SchemaFile

end FieldRules
