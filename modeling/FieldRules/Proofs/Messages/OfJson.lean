import FieldRules.Messages

/-!
# The JSON values that are tables of messages

`null` stands for the empty table. An object stands for a table if every member is a text, and then
the table holds the members and nothing else. No other value stands for a table.
-/

namespace FieldRules.Messages

def members (texts : Entries String) : Entries Json := texts.map fun e => (e.1, .text e.2)

/-- Members are added exactly if all of them are texts, one after another. -/
theorem addMembers_eq_ok_iff {m m' : Messages} {ms : Entries Json} :
    addMembers m ms = .ok m' ↔
      ∃ texts, ms = members texts ∧ m' = texts.foldl (fun t e => t.insert e.1 e.2) m := by
  induction ms generalizing m with
  | nil =>
    constructor
    · intro h
      exact ⟨[], rfl, (Except.ok.inj h).symm⟩
    · rintro ⟨texts, htexts, rfl⟩
      obtain rfl : texts = [] := List.map_eq_nil_iff.mp htexts.symm
      rfl
  | cons e ms ih =>
    obtain ⟨key, value⟩ := e
    constructor
    · intro h
      cases value with
      | text message =>
        rw [addMembers] at h
        obtain ⟨texts, rfl, rfl⟩ := ih.mp h
        exact ⟨(key, message) :: texts, rfl, rfl⟩
      | _ => simp [addMembers] at h
    · rintro ⟨texts, htexts, rfl⟩
      cases texts with
      | nil => simp [members] at htexts
      | cons t texts =>
        obtain ⟨hhead, rfl⟩ := List.cons.inj htexts
        obtain ⟨rfl, rfl⟩ := Prod.mk.inj hhead
        rw [addMembers]
        exact ih.mpr ⟨texts, rfl, rfl⟩

/-- A value is read as a table exactly if it is `null` and the table is empty, or it is an object
whose members are the messages of the table. -/
theorem ofJson_eq_ok_iff {value : Json} {m : Messages} :
    ofJson value = .ok m ↔ value = .null ∧ m = ∅ ∨ ∃ ms, value = .object ms ∧
      ∀ key, (SortedTable.ofList ms).get? key = (m.get? key).map .text := by
  cases value with
  | null => simp [ofJson, eq_comm]
  | object ms =>
    have hsorted : (SortedTable.ofList ms).names.Pairwise (· < ·) := (SortedTable.ofList ms).sorted
    simp only [ofJson, addMembers_eq_ok_iff, reduceCtorEq, false_and, false_or, Json.object.injEq,
      exists_eq_left']
    constructor
    · rintro ⟨texts, htexts, rfl⟩ key
      -- The entries of the object are in key order, and so are the texts.
      have hnames : (members texts).names = texts.names := Entries.names_map _ _
      have ht : texts.names.Pairwise (· < ·) := by
        rw [← hnames, ← htexts]
        exact hsorted
      have htable : SortedTable.ofList texts = ⟨texts, ht⟩ := SortedTable.ofList_entries ⟨texts, ht⟩
      change Entries.look key (SortedTable.ofList ms).entries =
        ((SortedTable.ofList texts).get? key).map .text
      rw [htexts, htable, members, Entries.look_map]
      rfl
    · intro hget
      refine ⟨m.entries, ?_, (SortedTable.ofList_entries m).symm⟩
      have hmembers : (members m.entries).names = m.names := Entries.names_map _ _
      apply Entries.eq_of_look_eq hsorted (hmembers.symm ▸ m.sorted)
      intro key
      rw [members, Entries.look_map]
      exact hget key
  | _ => simp [ofJson]

end FieldRules.Messages
