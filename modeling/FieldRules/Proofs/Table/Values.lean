import FieldRules.Table.Sorted
import Mathlib.Data.List.Basic

/-!
# The values of a table

Changing or picking out the values of a table keeps its order, and each look-up shows it by itself.
-/

namespace FieldRules
variable {α β : Type}

/-- Where no name repeats, picking entries by their values picks what is found under a name. -/
theorem Entries.look_filter_snd {keep : α → Bool} {es : Entries α} (h : es.names.Nodup)
    (key : String) : look key (es.filter fun e => keep e.2) = (look key es).filter keep := by
  induction es with
  | nil => rfl
  | cons e es ih =>
    obtain ⟨hnot, hrest⟩ := List.nodup_cons.mp h
    rw [look_cons]
    by_cases hkey : e.1 = key
    · -- The name does not come again, so the entry that is dropped leaves nothing behind.
      have hnone : look key es = none := look_eq_none_iff.mpr (hkey ▸ hnot)
      rw [if_pos hkey]
      cases hkeep : keep e.2 with
      | true => simp [hkeep, look_cons, hkey, Option.filter]
      | false => simp [hkeep, ih hrest, hnone, Option.filter]
    · rw [if_neg hkey, ← ih hrest]
      cases hkeep : keep e.2 with
      | true => simp [hkeep, look_cons, hkey]
      | false => simp [hkeep]

namespace SortedTable

def mapValues (f : α → β) (t : SortedTable α) : SortedTable β where
  entries := t.entries.map fun e => (e.1, f e.2)
  sorted := by
    rw [Entries.names_map]
    exact t.sorted

def filterValues (keep : α → Bool) (t : SortedTable α) : SortedTable α where
  entries := t.entries.filter fun e => keep e.2
  sorted := t.sorted.sublist (List.filter_sublist.map Prod.fst)

theorem get?_mapValues (f : α → β) (t : SortedTable α) (key : String) :
    (t.mapValues f).get? key = (t.get? key).map f :=
  Entries.look_map f key t.entries

theorem get?_filterValues (keep : α → Bool) (t : SortedTable α) (key : String) :
    (t.filterValues keep).get? key = (t.get? key).filter keep :=
  Entries.look_filter_snd t.nodup_names key

theorem mapValues_insert (f : α → β) (t : SortedTable α) (name : String) (a : α) :
    (t.insert name a).mapValues f = (t.mapValues f).insert name (f a) := by
  apply ext_get?
  intro key
  rw [get?_mapValues, get?_insert, get?_insert, get?_mapValues]
  by_cases hkey : key = name
  · rw [if_pos hkey, if_pos hkey, Option.map_some]
  · rw [if_neg hkey, if_neg hkey]

theorem ofList_map (f : α → β) (es : Entries α) :
    ofList (es.map fun e => (e.1, f e.2)) = (ofList es).mapValues f := by
  apply ext_get?
  intro key
  rw [get?_ofList_map, get?_mapValues]

end SortedTable

end FieldRules
