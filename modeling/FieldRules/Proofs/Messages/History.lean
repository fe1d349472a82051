import FieldRules.Proofs.Messages.OfJson
import FieldRules.Proofs.Table.SortedHistory

/-!
# Histories of message tables

A table of messages starts out empty, or is read from a value, or is filled from a list of messages,
and messages are then put in and removed. All that can be seen of it is settled by the last write of
each key, which is gone if the key is removed after it: whether two tables are equal, what is found
and resolved, and how many messages there are. A blank message is a write like any other. It counts
for the size, makes tables differ and is given back when it is removed, and only the look-ups for a
failure pass over it.
-/

namespace FieldRules.Messages

inductive Origin
  | new
  | value (value : Json) (m : Messages) (read : ofJson value = .ok m)
  | pairs (texts : Entries String)

namespace Origin

def table : Origin → Messages
  | .new => ∅
  | .value _ m _ => m
  | .pairs texts => SortedTable.ofList texts

def writeOfMember? : String × Json → Option (TableEdit String)
  | (key, .text text) => some (.insert key text)
  | _ => none

/-- The messages that the table starts out with, as writes in the order in which they are given. -/
def writes : Origin → List (TableEdit String)
  | .value (.object ms) _ _ => ms.filterMap writeOfMember?
  | .pairs texts => texts.map fun e => .insert e.1 e.2
  | _ => []

end Origin

structure History where
  origin : Origin
  edits : List (TableEdit String)

namespace History

def table (h : History) : Messages := Table.editAll h.origin.table h.edits

def steps (h : History) : List (TableEdit String) := h.origin.writes ++ h.edits

def stepsOf (h : History) (key : String) : List (TableEdit String) :=
  h.steps.filter fun e => e.name = key

def snoc (h : History) (e : TableEdit String) : History := { h with edits := h.edits ++ [e] }

/-- The last write of a key, which is not removed after it. -/
def LastWrite (h : History) (key text : String) : Prop :=
  LastNamed TableEdit.name h.steps key (.insert key text)

def Holds (h : History) (key : String) : Prop := ∃ text, h.LastWrite key text

def SameWrites (h h' : History) : Prop :=
  ∀ key text, h.LastWrite key text ↔ h'.LastWrite key text

/-- The last write of a key, unless it is blank. -/
def Shows (h : History) (key text : String) : Prop := h.LastWrite key text ∧ text ≠ ""

inductive Resolves (h : History) (name : String) : String → Prop
  | own {text : String} (shown : h.Shows name text) : Resolves h name text
  | default {text : String} (hidden : ∀ own, ¬ h.Shows name own)
      (shown : h.Shows defaultKey text) : Resolves h name text
  | bare (hidden : ∀ own, ¬ h.Shows name own) (noDefault : ∀ text, ¬ h.Shows defaultKey text) :
      Resolves h name name

end History

variable {h h' : History} {key name text : String}

theorem name_of_writeOfMember? {e : String × Json} {write : TableEdit String}
    (h : Origin.writeOfMember? e = some write) : write.name = e.1 := by
  obtain ⟨key, value⟩ := e
  cases value with
  | text text =>
    obtain rfl := Option.some.inj h
    rfl
  | _ => cases h

/-- Where the last member of a key is a text, that text is what the object writes there. -/
theorem lastNamed_writes {ms : Entries Json} (h : LastNamed Prod.fst ms key (key, .text text)) :
    LastNamed TableEdit.name (ms.filterMap Origin.writeOfMember?) key (.insert key text) := by
  obtain ⟨-, before, after, rfl, hafter⟩ := h
  refine ⟨rfl, before.filterMap Origin.writeOfMember?, after.filterMap Origin.writeOfMember?,
    ?_, fun write hwrite => ?_⟩
  · rw [List.filterMap_append]
    rfl
  · obtain ⟨e, he, hmakes⟩ := List.mem_filterMap.mp hwrite
    rw [name_of_writeOfMember? hmakes]
    exact hafter e he

theorem follows_of_object {ms : Entries Json} {m : Messages}
    (hget : ∀ key, (SortedTable.ofList ms).get? key = (m.get? key).map .text) :
    Table.Follows m (ms.filterMap Origin.writeOfMember?) := by
  have hwrites {key text : String} (h : m.get? key = some text) :
      LastNamed TableEdit.name (ms.filterMap Origin.writeOfMember?) key (.insert key text) := by
    refine lastNamed_writes (SortedTable.get?_ofList_eq_some_iff_last.mp ?_)
    rw [hget, h]
    rfl
  intro key text
  refine ⟨hwrites, fun hlast => ?_⟩
  -- The object has a last member under the key, and the table has its text.
  obtain ⟨-, before, after, hsplit, -⟩ := id hlast
  have hwrite : TableEdit.insert key text ∈ ms.filterMap Origin.writeOfMember? := by
    rw [hsplit]
    exact List.mem_append_right _ List.mem_cons_self
  obtain ⟨e, he, hmakes⟩ := List.mem_filterMap.mp hwrite
  have hkey : key ∈ ms.map Prod.fst :=
    List.mem_map.mpr ⟨e, he, (name_of_writeOfMember? hmakes).symm⟩
  obtain ⟨⟨other, value⟩, hmember⟩ := exists_lastNamed_iff.mpr hkey
  obtain rfl : other = key := hmember.1
  have hvalue := SortedTable.get?_ofList_eq_some_iff_last.mpr hmember
  rw [hget] at hvalue
  obtain ⟨stored, hstored, -⟩ := Option.map_eq_some_iff.mp hvalue
  obtain ⟨⟩ := hlast.unique (hwrites hstored)
  exact hstored

theorem Origin.follows (o : Origin) : Table.Follows o.table o.writes := by
  cases o with
  | new => exact Table.follows_empty
  | value value m read =>
    obtain ⟨rfl, rfl⟩ | ⟨ms, rfl, hget⟩ := ofJson_eq_ok_iff.mp read
    · exact Table.follows_empty
    · exact follows_of_object hget
  | pairs texts => exact Table.follows_ofList texts

theorem History.follows (h : History) : Table.Follows h.table h.steps :=
  h.origin.follows.editAll h.edits

theorem History.table_snoc (h : History) (e : TableEdit String) :
    (h.snoc e).table = Table.edit h.table e :=
  Table.editAll_snoc h.origin.table h.edits e

theorem History.message?_eq_some_iff : h.table.message? key = some text ↔ h.Shows key text := by
  rw [message?, Option.filter_eq_some_iff, decide_eq_true_eq]
  exact and_congr_left fun _ => h.follows key text

theorem History.message?_eq_none_iff :
    h.table.message? key = none ↔ ∀ text, ¬ h.Shows key text := by
  rw [Option.eq_none_iff_forall_ne_some]
  simp only [ne_eq, message?_eq_some_iff]

theorem History.resolves_resolve (h : History) (name : String) :
    h.Resolves name (h.table.resolve name) := by
  rw [resolve]
  cases hown : h.table.message? name with
  | some text => exact .own (message?_eq_some_iff.mp hown)
  | none =>
    have hhidden := message?_eq_none_iff.mp hown
    cases hdefault : h.table.message? defaultKey with
    | some text => exact .default hhidden (message?_eq_some_iff.mp hdefault)
    | none => exact .bare hhidden (message?_eq_none_iff.mp hdefault)

theorem History.Shows.unique {text' : String} (ht : h.Shows key text) (ht' : h.Shows key text') :
    text = text' := by
  obtain ⟨⟩ := ht.1.unique ht'.1
  rfl

theorem History.Resolves.unique {text' : String} (ht : h.Resolves name text)
    (ht' : h.Resolves name text') : text = text' := by
  cases ht with
  | own shown =>
    cases ht' with
    | own shown' => exact shown.unique shown'
    | default hidden' => exact absurd shown (hidden' _)
    | bare hidden' => exact absurd shown (hidden' _)
  | default hidden shown =>
    cases ht' with
    | own shown' => exact absurd shown' (hidden _)
    | default hidden' shown' => exact shown.unique shown'
    | bare hidden' noDefault' => exact absurd shown (noDefault' _)
  | bare hidden noDefault =>
    cases ht' with
    | own shown' => exact absurd shown' (hidden _)
    | default hidden' shown' => exact absurd shown' (noDefault _)
    | bare => rfl

theorem History.resolve_eq_iff : h.table.resolve name = text ↔ h.Resolves name text := by
  constructor
  · rintro rfl
    exact h.resolves_resolve name
  · intro hresolves
    exact (h.resolves_resolve name).unique hresolves

theorem History.table_eq_iff : h.table = h'.table ↔ h.SameWrites h' :=
  SortedTable.eq_iff_of_follows h.follows h'.follows

/-- Two tables are equal exactly if every key has the same last write in their histories, however
the edits of different keys stand to each other, and then nothing tells them apart. A table shows
the last writes that are not blank and counts all of them. Removing a key gives its last write,
blank or not, and leaves all other keys as they are. -/
theorem table_settled_by_lastWrites (h h' : History) :
    ((h.table == h'.table) = true ↔ h.SameWrites h') ∧
    ((∀ key, h.stepsOf key = h'.stepsOf key) → h.table = h'.table) ∧
    (h.SameWrites h' →
      (∀ key, h.table.message? key = h'.table.message? key) ∧
      (∀ name, h.table.resolve name = h'.table.resolve name) ∧
      h.table.size = h'.table.size ∧ h.table.isEmpty = h'.table.isEmpty) ∧
    (∀ key text, h.table.message? key = some text ↔ h.Shows key text) ∧
    (∀ name text, h.table.resolve name = text ↔ h.Resolves name text) ∧
    {key | h.Holds key}.encard = h.table.size ∧
    (h.table.isEmpty = true ↔ ∀ key, ¬ h.Holds key) ∧
    ∀ key,
      (∀ text, (h.table.remove key).1 = some text ↔ h.LastWrite key text) ∧
      (h.table.remove key).2 = (h.snoc (.erase key)).table ∧
      (h.table.remove key).2.get? key = none ∧
      ∀ other, other ≠ key → (h.table.remove key).2.get? other = h.table.get? other := by
  refine ⟨?_, SortedTable.eq_of_filter_eq h.follows h'.follows, fun hsame => ?_,
    fun key text => History.message?_eq_some_iff, fun name text => History.resolve_eq_iff,
    SortedTable.encard_present_of_follows h.follows, SortedTable.isEmpty_iff_of_follows h.follows,
    fun key => ⟨h.follows key, ?_, ?_, ?_⟩⟩
  · rw [beq_iff_eq]
    exact History.table_eq_iff
  · rw [History.table_eq_iff.mpr hsame]
    exact ⟨fun _ => rfl, fun _ => rfl, rfl, rfl⟩
  · rw [History.table_snoc]
    rfl
  · rw [remove, SortedTable.get?_erase, if_pos rfl]
  · intro other hother
    rw [remove, SortedTable.get?_erase, if_neg hother]

/-- A blank message that is read from a value before another key comes and goes. -/
def blankFirstHistory : History where
  origin := .value (.object [("a", .text ""), ("b", .text "x")])
    (SortedTable.ofList [("a", ""), ("b", "x")]) (by rfl)
  edits := [.erase "b"]

def blankLastHistory : History where
  origin := .pairs [("b", "x")]
  edits := [.erase "b", .insert "a" ""]

theorem stepsOf_blankFirstHistory (key : String) :
    blankFirstHistory.stepsOf key = blankLastHistory.stepsOf key := by
  have hfirst : blankFirstHistory.steps = [.insert "a" "", .insert "b" "x", .erase "b"] := rfl
  have hlast : blankLastHistory.steps = [.insert "b" "x", .erase "b", .insert "a" ""] := rfl
  rw [History.stepsOf, History.stepsOf, hfirst, hlast]
  by_cases ha : key = "a"
  · subst ha
    rfl
  · by_cases hb : key = "b"
    · subst hb
      rfl
    · have ha' : ¬ "a" = key := fun q => ha q.symm
      have hb' : ¬ "b" = key := fun q => hb q.symm
      simp [TableEdit.name, ha', hb']

theorem table_settled_blank :
    (∀ key, blankFirstHistory.stepsOf key = blankLastHistory.stepsOf key) ∧
    blankFirstHistory.table = blankLastHistory.table ∧
    blankFirstHistory.SameWrites blankLastHistory ∧
    blankFirstHistory.table.resolve "a" = blankLastHistory.table.resolve "a" ∧
    blankFirstHistory.LastWrite "a" "" ∧
    blankFirstHistory.table.message? "a" = none ∧ blankFirstHistory.table.size = 1 ∧
    (blankFirstHistory.table.remove "a").1 = some "" ∧
    "b" ≠ "a" ∧
    (blankFirstHistory.table.remove "a").2.get? "b" = blankFirstHistory.table.get? "b" := by
  obtain ⟨hequal, hreorder, halike, -, -, -, -, hremove⟩ :=
    table_settled_by_lastWrites blankFirstHistory blankLastHistory
  have htables : blankFirstHistory.table = blankLastHistory.table :=
    hreorder stepsOf_blankFirstHistory
  have hsame : blankFirstHistory.SameWrites blankLastHistory := hequal.mp (beq_iff_eq.mpr htables)
  obtain ⟨hgiven, -, -, hothers⟩ := hremove "a"
  have hblank : (blankFirstHistory.table.remove "a").1 = some "" := by decide
  exact ⟨stepsOf_blankFirstHistory, htables, hsame, (halike hsame).2.1 "a", (hgiven "").mp hblank,
    by decide, by decide, hblank, by decide, hothers "b" (by decide)⟩

end FieldRules.Messages
