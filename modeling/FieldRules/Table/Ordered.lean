import FieldRules.Table.Entries

/-!
# Tables in order of first insertion

An `OrderedTable` maps names to values and remembers the order in which the names came. Putting a
value under a name that is present replaces the value where it stands; a new name goes to the end;
erasing closes the gap. That names never repeat is part of the type.

A table is seen through `names` and `get?`: `names_insert` and `get?_insert` say what an insertion
does, `names_erase` and `get?_erase` what an erasure does. `remove_eq` says that removing a name
erases it and gives the value that was under it.
-/

namespace FieldRules

structure OrderedTable (α : Type) where
  entries : Entries α
  nodup : entries.names.Nodup

namespace OrderedTable
variable {α : Type}

def empty : OrderedTable α := ⟨[], List.nodup_nil⟩

instance : EmptyCollection (OrderedTable α) := ⟨empty⟩
instance : Inhabited (OrderedTable α) := ⟨empty⟩

def names (t : OrderedTable α) : List String := t.entries.names

def size (t : OrderedTable α) : Nat := t.entries.length

def isEmpty (t : OrderedTable α) : Bool := t.entries.isEmpty

def get? (t : OrderedTable α) (name : String) : Option α := t.entries.look name

def insert (t : OrderedTable α) (name : String) (a : α) : OrderedTable α where
  entries := t.entries.put name a
  nodup := by
    rw [Entries.names_put]
    split
    · exact t.nodup
    · rename_i h
      refine List.nodup_append.2 ⟨t.nodup, by simp, ?_⟩
      intro x hx y hy hxy
      simp only [List.mem_singleton] at hy
      exact h (hy ▸ hxy ▸ hx)

def erase (t : OrderedTable α) (name : String) : OrderedTable α where
  entries := t.entries.filter fun e => e.1 ≠ name
  nodup := (List.filter_sublist.map Prod.fst).nodup t.nodup

def remove (t : OrderedTable α) (name : String) : Option α × OrderedTable α :=
  ((t.entries.pull name).1, ⟨(t.entries.pull name).2, by
    rw [Entries.pull_snd t.nodup]
    exact (t.erase name).nodup⟩)

@[simp] theorem names_empty : (empty : OrderedTable α).names = [] := rfl

@[simp] theorem get?_empty (name : String) : (empty : OrderedTable α).get? name = none := rfl

theorem names_insert (t : OrderedTable α) (name : String) (a : α) :
    (t.insert name a).names = if name ∈ t.names then t.names else t.names ++ [name] :=
  Entries.names_put name a t.entries

theorem get?_insert (t : OrderedTable α) (name : String) (a : α) (key : String) :
    (t.insert name a).get? key = if key = name then some a else t.get? key :=
  Entries.look_put name a t.entries key

theorem names_erase (t : OrderedTable α) (name : String) :
    (t.erase name).names = t.names.filter (· ≠ name) := by
  simp only [names, Entries.names, erase, List.filter_map]
  rfl

theorem get?_erase (t : OrderedTable α) (name key : String) :
    (t.erase name).get? key = if key = name then none else t.get? key :=
  Entries.look_filter_ne name key t.entries

theorem remove_eq (t : OrderedTable α) (name : String) :
    t.remove name = (t.get? name, t.erase name) := by
  simp only [remove, get?, erase, Entries.pull_fst, Entries.pull_snd t.nodup]

theorem get?_eq_none_iff {t : OrderedTable α} {name : String} :
    t.get? name = none ↔ name ∉ t.names :=
  Entries.look_eq_none_iff

theorem get?_eq_some_iff {t : OrderedTable α} {name : String} {a : α} :
    t.get? name = some a ↔ (name, a) ∈ t.entries :=
  Entries.look_eq_some_iff t.nodup

theorem mem_names_iff_exists {t : OrderedTable α} {name : String} :
    name ∈ t.names ↔ ∃ a, t.get? name = some a := by
  rw [← Option.isSome_iff_exists, ← Option.ne_none_iff_isSome, Ne, get?_eq_none_iff,
    Decidable.not_not]

theorem mem_names_insert {t : OrderedTable α} {name : String} {a : α} {key : String} :
    key ∈ (t.insert name a).names ↔ key = name ∨ key ∈ t.names := by
  simp only [mem_names_iff_exists, get?_insert]
  by_cases hkey : key = name <;> simp [hkey]

theorem mem_names_erase {t : OrderedTable α} {name key : String} :
    key ∈ (t.erase name).names ↔ key ≠ name ∧ key ∈ t.names := by
  rw [names_erase, List.mem_filter, decide_eq_true_eq, and_comm]

theorem isEmpty_iff_names {t : OrderedTable α} : t.isEmpty = true ↔ t.names = [] := by
  rw [isEmpty, List.isEmpty_iff, names, Entries.names, List.map_eq_nil_iff]

/-- A table is settled by its names in their order and its look-ups. -/
theorem ext_names {s t : OrderedTable α} (hnames : s.names = t.names)
    (h : ∀ key, s.get? key = t.get? key) : s = t := by
  cases s with
  | mk es hes => cases t with
    | mk fs hfs =>
      have : es = fs := Entries.eq_of_names_eq hes hnames h
      subst this; rfl

end OrderedTable

end FieldRules
