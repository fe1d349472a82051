import FieldRules.Table.Ordered
import FieldRules.Table.Sorted
import Mathlib.Data.List.Basic

/-!
# Edits of a table

`Table` is what tables in the order of insertion and tables in key order have in common: an
insertion and an erasure change what is found under one name. A sequence of edits changes a table
only under the names it mentions. In a table that keeps the order of insertion the other names stay
in their order, too, though their places may shift.
-/

namespace FieldRules
variable {α : Type}

class Table (T : Type) (α : outParam Type) extends EmptyCollection T where
  get? : T → String → Option α
  insert : T → String → α → T
  erase : T → String → T
  get?_empty (key : String) : get? ∅ key = none
  get?_insert (t : T) (name : String) (a : α) (key : String) :
    get? (insert t name a) key = if key = name then some a else get? t key
  get?_erase (t : T) (name key : String) :
    get? (erase t name) key = if key = name then none else get? t key

instance : Table (OrderedTable α) α where
  get? := OrderedTable.get?
  insert := OrderedTable.insert
  erase := OrderedTable.erase
  get?_empty := OrderedTable.get?_empty
  get?_insert := OrderedTable.get?_insert
  get?_erase := OrderedTable.get?_erase

instance : Table (SortedTable α) α where
  get? := SortedTable.get?
  insert := SortedTable.insert
  erase := SortedTable.erase
  get?_empty := SortedTable.get?_empty
  get?_insert := SortedTable.get?_insert
  get?_erase := SortedTable.get?_erase

inductive TableEdit (α : Type)
  | insert (name : String) (a : α)
  | erase (name : String)

namespace TableEdit

def name : TableEdit α → String
  | .insert name _ => name
  | .erase name => name

def value? : TableEdit α → Option α
  | .insert _ a => some a
  | .erase _ => none

def names (edits : List (TableEdit α)) : List String := edits.map name

end TableEdit

namespace Table
variable {T : Type} [Table T α]

def edit (t : T) : TableEdit α → T
  | .insert name a => insert t name a
  | .erase name => erase t name

def editAll (t : T) (edits : List (TableEdit α)) : T := edits.foldl edit t

def ofList (es : Entries α) : T := es.foldl (fun t e => insert t e.1 e.2) ∅

theorem get?_edit (t : T) (e : TableEdit α) (key : String) :
    get? (edit t e) key = if key = e.name then e.value? else get? t key := by
  cases e with
  | insert name a => exact get?_insert t name a key
  | erase name => exact get?_erase t name key

theorem get?_editAll_of_notMem {t : T} {edits : List (TableEdit α)} {key : String}
    (h : key ∉ TableEdit.names edits) : get? (editAll t edits) key = get? t key := by
  induction edits generalizing t with
  | nil => rfl
  | cons e edits ih =>
    obtain ⟨hne, hrest⟩ := not_or.mp (List.mem_cons.not.mp h)
    have hhead : get? (edit t e) key = get? t key := by rw [get?_edit, if_neg hne]
    exact (ih hrest).trans hhead

theorem editAll_snoc (t : T) (edits : List (TableEdit α)) (e : TableEdit α) :
    editAll t (edits ++ [e]) = edit (editAll t edits) e := by
  rw [editAll, List.foldl_append]
  rfl

theorem ofList_snoc (es : Entries α) (e : String × α) :
    (ofList (es ++ [e]) : T) = insert (ofList es) e.1 e.2 := by
  rw [ofList, List.foldl_append]
  rfl

theorem ofList_eq_editAll (es : Entries α) :
    (ofList es : T) = editAll ∅ (es.map fun e => .insert e.1 e.2) := by
  rw [editAll, List.foldl_map]
  rfl

end Table

namespace OrderedTable
open Table (edit editAll)

/-- Names picked out without the name of an edit are the same before and after it. -/
theorem filter_names_edit {t : OrderedTable α} {e : TableEdit α} {keep : String → Bool}
    (h : keep e.name = false) : (edit t e).names.filter keep = t.names.filter keep := by
  cases e with
  | insert name a =>
    have hdrop : keep name = false := h
    have hnames : (edit t (.insert name a)).names = _ := names_insert t name a
    rw [hnames]
    by_cases hmem : name ∈ t.names
    · rw [if_pos hmem]
    · rw [if_neg hmem, List.filter_append, List.filter_singleton, hdrop]
      exact List.append_nil _
  | erase name =>
    have hdrop : keep name = false := h
    have hnames : (edit t (.erase name)).names = _ := names_erase t name
    rw [hnames, List.filter_filter]
    apply List.filter_congr
    intro key _
    by_cases hkey : key = name
    · rw [hkey, hdrop, Bool.false_and]
    · simp [hkey]

theorem filter_names_editAll {t : OrderedTable α} {edits : List (TableEdit α)}
    {keep : String → Bool} (h : ∀ name ∈ TableEdit.names edits, keep name = false) :
    (editAll t edits).names.filter keep = t.names.filter keep := by
  induction edits generalizing t with
  | nil => rfl
  | cons e edits ih =>
    obtain ⟨hhead, hrest⟩ := List.forall_mem_cons.mp h
    exact (ih hrest).trans (filter_names_edit hhead)

end OrderedTable

end FieldRules
