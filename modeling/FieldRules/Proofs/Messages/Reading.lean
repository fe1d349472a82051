import FieldRules.Proofs.Messages.OfJson
import FieldRules.Proofs.Text.ByteOrder
import FieldRules.Schema

/-!
# Writing messages as JSON and reading them

A table is written as the object of its messages, blank ones too, and read back from it. Reading
takes `null` for the empty table and an object of texts for the table of its members. Another object
is refused for one of its members only: the first in byte order that is no text, whatever the others
are.
-/

namespace FieldRules.Messages

def toJson (m : Messages) : Json := .object (members m.entries)

def IsText (value : Json) : Prop := ∃ text, value = .text text

def AllTexts (ms : Entries Json) : Prop :=
  ∀ key value, (SortedTable.ofList ms).get? key = some value → IsText value

structure FirstOther (ms : Entries Json) (key : String) (value : Json) : Prop where
  found : (SortedTable.ofList ms).get? key = some value
  notText : ¬ IsText value
  least : ∀ other v, (SortedTable.ofList ms).get? other = some v → ¬ IsText v →
    other = key ∨ Text.bytes key < Text.bytes other

variable {m : Messages} {ms : Entries Json} {key : String} {value : Json} {fault : MessagesFault}

theorem isText_of_mem_members {texts : Entries String} {e : String × Json}
    (h : e ∈ members texts) : IsText e.2 := by
  obtain ⟨t, -, rfl⟩ := List.mem_map.mp h
  exact ⟨t.2, rfl⟩

theorem exists_eq_members (h : ∀ e ∈ ms, IsText e.2) : ∃ texts, ms = members texts := by
  induction ms with
  | nil => exact ⟨[], rfl⟩
  | cons e ms ih =>
    obtain ⟨⟨text, htext⟩, hrest⟩ := List.forall_mem_cons.mp h
    obtain ⟨texts, rfl⟩ := ih hrest
    exact ⟨(e.1, text) :: texts, by rw [members, members, List.map_cons, ← htext]⟩

theorem addMembers_eq_error_iff :
    addMembers m ms = .error fault ↔
      ∃ texts key value rest, ms = members texts ++ (key, value) :: rest ∧ ¬ IsText value ∧
        fault = .notText key value := by
  induction ms generalizing m with
  | nil =>
    constructor
    · intro h
      cases h
    · rintro ⟨texts, key, value, rest, hsplit, -, -⟩
      cases texts <;> cases hsplit
  | cons e ms ih =>
    obtain ⟨key, value⟩ := e
    by_cases htext : IsText value
    · obtain ⟨text, rfl⟩ := htext
      rw [addMembers, ih]
      constructor
      · rintro ⟨texts, key', value', rest, rfl, hnot, hfault⟩
        exact ⟨(key, text) :: texts, key', value', rest, rfl, hnot, hfault⟩
      · rintro ⟨texts, key', value', rest, hsplit, hnot, hfault⟩
        cases texts with
        | nil =>
          obtain ⟨⟨⟩, -⟩ := List.cons.inj hsplit
          exact absurd ⟨text, rfl⟩ hnot
        | cons t texts => exact ⟨texts, key', value', rest, (List.cons.inj hsplit).2, hnot, hfault⟩
    · have hstop : addMembers m ((key, value) :: ms) = .error (.notText key value) := by
        cases value with
        | text text => exact absurd ⟨text, rfl⟩ htext
        | _ => rfl
      rw [hstop]
      constructor
      · rintro ⟨⟩
        exact ⟨[], key, value, ms, rfl, htext, rfl⟩
      · rintro ⟨texts, key', value', rest, hsplit, -, rfl⟩
        cases texts with
        | nil =>
          obtain ⟨⟨⟩, -⟩ := List.cons.inj hsplit
          rfl
        | cons t texts =>
          obtain ⟨⟨⟩, -⟩ := List.cons.inj hsplit
          exact absurd ⟨t.2, rfl⟩ htext

/-- In key order the first other value is the one that has texts only in front of it. -/
theorem firstOther_iff :
    FirstOther ms key value ↔
      ∃ texts rest, (SortedTable.ofList ms).entries = members texts ++ (key, value) :: rest ∧
        ¬ IsText value := by
  constructor
  · rintro ⟨hfound, hnot, hleast⟩
    obtain ⟨before, rest, hsplit⟩ := List.append_of_mem (SortedTable.get?_eq_some_iff.mp hfound)
    have hbefore : ∀ e ∈ before, IsText e.2 := by
      intro e he
      by_contra htext
      have hlt : e.1 < key := (SortedTable.lt_of_entries_eq hsplit).1 e he
      have hmem : (e.1, e.2) ∈ (SortedTable.ofList ms).entries :=
        hsplit ▸ List.mem_append_left _ he
      rcases hleast e.1 e.2 (SortedTable.get?_eq_some_iff.mpr hmem) htext with heq | hgt
      · exact String.lt_irrefl _ (heq ▸ hlt)
      · exact String.lt_asymm hlt (Text.bytes_lt_bytes_iff.mp hgt)
    obtain ⟨texts, rfl⟩ := exists_eq_members hbefore
    exact ⟨texts, rest, hsplit, hnot⟩
  · rintro ⟨texts, rest, hsplit, hnot⟩
    refine ⟨SortedTable.get?_eq_some_iff.mpr ?_, hnot, fun other v hother htext => ?_⟩
    · rw [hsplit]
      exact List.mem_append_right _ List.mem_cons_self
    · rw [SortedTable.get?_eq_some_iff, hsplit, List.mem_append, List.mem_cons] at hother
      rcases hother with hmem | heq | hmem
      · exact absurd (isText_of_mem_members hmem) htext
      · exact .inl (Prod.mk.inj heq).1
      · have hlt : key < other := (SortedTable.lt_of_entries_eq hsplit).2 (other, v) hmem
        exact .inr (Text.bytes_lt_bytes_iff.mpr hlt)

theorem ofJson_object_eq_error_iff :
    ofJson (.object ms) = .error fault ↔
      ∃ key value, FirstOther ms key value ∧ fault = .notText key value := by
  rw [ofJson, addMembers_eq_error_iff]
  simp only [firstOther_iff]
  constructor
  · rintro ⟨texts, key, value, rest, hsplit, hnot, hfault⟩
    exact ⟨key, value, ⟨texts, rest, hsplit, hnot⟩, hfault⟩
  · rintro ⟨key, value, ⟨texts, rest, hsplit, hnot⟩, hfault⟩
    exact ⟨texts, key, value, rest, hsplit, hnot, hfault⟩

theorem ofJson_object_cases (ms : Entries Json) :
    (∃ m, ofJson (.object ms) = .ok m) ∧ AllTexts ms ∨
      ∃ key value, ofJson (.object ms) = .error (.notText key value) ∧ FirstOther ms key value := by
  cases hread : ofJson (.object ms) with
  | ok m =>
    refine .inl ⟨⟨m, rfl⟩, fun key value hfound => ?_⟩
    obtain ⟨hnull, -⟩ | ⟨_, ⟨⟩, hget⟩ := ofJson_eq_ok_iff.mp hread
    · cases hnull
    · rw [hget] at hfound
      obtain ⟨text, -, rfl⟩ := Option.map_eq_some_iff.mp hfound
      exact ⟨text, rfl⟩
  | error fault =>
    obtain ⟨key, value, hfirst, rfl⟩ := ofJson_object_eq_error_iff.mp hread
    exact .inr ⟨key, value, rfl, hfirst⟩

theorem exists_ofJson_object_iff : (∃ m, ofJson (.object ms) = .ok m) ↔ AllTexts ms := by
  rcases ofJson_object_cases ms with h | ⟨key, value, herror, hfirst⟩
  · exact iff_of_true h.1 h.2
  · refine iff_of_false ?_ fun hall => hfirst.notText (hall key value hfirst.found)
    rintro ⟨m, hok⟩
    cases herror.symm.trans hok

theorem ofJson_toJson (m : Messages) : ofJson m.toJson = .ok m := by
  refine ofJson_eq_ok_iff.mpr (.inr ⟨members m.entries, rfl, fun key => ?_⟩)
  rw [members, SortedTable.get?_ofList_map, SortedTable.ofList_entries]

/-- A table is what is read from its object. A value is read exactly if it is `null` or an object of
texts, as the table of its members. An object that is not of texts is refused for its first other
member. -/
theorem ofJson_inverts_toJson :
    (∀ m : Messages, ofJson m.toJson = .ok m) ∧
    (∀ value, (∃ m, ofJson value = .ok m) ↔
      value = .null ∨ ∃ ms, value = .object ms ∧ AllTexts ms) ∧
    (∀ value m, ofJson value = .ok m ↔ value = .null ∧ m = ∅ ∨ ∃ ms, value = .object ms ∧
      ∀ key, (SortedTable.ofList ms).get? key = (m.get? key).map .text) ∧
    (∀ ms, AllTexts ms ∨ ∃ key value, FirstOther ms key value ∧
      ofJson (.object ms) = .error (.notText key value)) ∧
    (∀ ms key value, ofJson (.object ms) = .error (.notText key value) ↔
      FirstOther ms key value) ∧
    ∀ key value, (SchemaError.messages (.notText key value)).message =
      "Invalid messages: " ++
        ("message for `" ++ key ++ "` must be a string, got `" ++ value.compact ++ "`") := by
  refine ⟨ofJson_toJson, fun value => ?_, fun value m => ofJson_eq_ok_iff, fun ms => ?_,
    fun ms key value => ?_, fun key value => rfl⟩
  · cases value with
    | null => exact iff_of_true ⟨∅, rfl⟩ (.inl rfl)
    | object ms =>
      rw [exists_ofJson_object_iff]
      simp
    | _ => simp [ofJson]
  · rcases ofJson_object_cases ms with ⟨-, hall⟩ | ⟨key, value, herror, hfirst⟩
    · exact .inl hall
    · exact .inr ⟨key, value, hfirst, herror⟩
  · rw [ofJson_object_eq_error_iff]
    constructor
    · rintro ⟨key', value', hfirst, ⟨⟩⟩
      exact hfirst
    · intro hfirst
      exact ⟨key, value, hfirst, rfl⟩

end FieldRules.Messages
