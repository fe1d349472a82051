import FieldRules.Proofs.Table.History
import Mathlib.Data.Set.Card

/-!
# What a history of edits leaves in key order

A table in key order forgets how it was made: after any edits a name has the value of the last edit
that mentions it, and has none if that edit erases it. So two histories leave the same table exactly
if they agree on the last edit of every name, in whatever order they edit different names, and the
size counts the names whose last edit is an insertion.
-/

namespace FieldRules.SortedTable
open TableEdit
open Table (Follows)
variable {α : Type} {s t : SortedTable α} {edits edits' : List (TableEdit α)} {name : String}

theorem get?_ofList_eq_some_iff_last {es : Entries α} {a : α} :
    (ofList es).get? name = some a ↔ LastNamed Prod.fst es name (name, a) := by
  rw [get?_ofList, Entries.look, Option.map_eq_some_iff, lastNamed_iff_find?]
  constructor
  · rintro ⟨e, hfind, rfl⟩
    have hname : e.1 = name := by simpa using List.find?_some hfind
    rw [hfind, ← hname]
  · intro hfind
    exact ⟨(name, a), hfind, rfl⟩

theorem mem_names_ofList {es : Entries α} : name ∈ (ofList es).names ↔ name ∈ es.names := by
  rw [mem_names_iff_exists, Entries.names, ← exists_lastNamed_iff]
  simp only [get?_ofList_eq_some_iff_last]
  constructor
  · rintro ⟨a, hlast⟩
    exact ⟨(name, a), hlast⟩
  · rintro ⟨⟨other, a⟩, hlast⟩
    obtain rfl : other = name := hlast.1
    exact ⟨a, hlast⟩

theorem eq_iff_of_follows (hs : Follows s edits) (ht : Follows t edits') :
    s = t ↔ ∀ name a, LastNamed TableEdit.name edits name (.insert name a) ↔
      LastNamed TableEdit.name edits' name (.insert name a) := by
  constructor
  · rintro rfl name a
    rw [← hs name a, ht name a]
  · intro h
    refine ext_get? fun name => Option.ext fun a => ?_
    exact (hs name a).trans ((h name a).trans (ht name a).symm)

/-- Only the order of the edits of one name counts. -/
theorem eq_of_filter_eq (hs : Follows s edits) (ht : Follows t edits')
    (h : ∀ name, (edits.filter fun e => e.name = name) = edits'.filter fun e => e.name = name) :
    s = t := by
  refine (eq_iff_of_follows hs ht).mpr fun name a => ?_
  rw [← lastNamed_filter, h name, lastNamed_filter]

theorem present_iff_of_follows (h : Follows t edits) : Present edits name ↔ name ∈ t.names :=
  h.present_iff.trans mem_names_iff_exists.symm

theorem encard_present_of_follows (h : Follows t edits) :
    {name | Present edits name}.encard = t.size := by
  have hset : {name | Present edits name} = (t.names.toFinset : Set String) := by
    ext name
    rw [List.coe_toFinset]
    exact present_iff_of_follows h
  have hsize : t.names.length = t.size := List.length_map _
  rw [hset, Set.encard_coe_eq_coe_finsetCard, List.toFinset_card_of_nodup t.nodup_names, hsize]

theorem isEmpty_iff_names : t.isEmpty = true ↔ t.names = [] := by
  rw [isEmpty, List.isEmpty_iff, names, Entries.names, List.map_eq_nil_iff]

theorem isEmpty_iff_of_follows (h : Follows t edits) :
    t.isEmpty = true ↔ ∀ name, ¬ Present edits name := by
  simp only [isEmpty_iff_names, List.eq_nil_iff_forall_not_mem, present_iff_of_follows h]

end FieldRules.SortedTable
