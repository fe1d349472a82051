import FieldRules.Proofs.Table.Repeats

/-!
# What a history of edits leaves

A table that was empty and then edited is read off the history alone. A name is present if the last
edit that mentions it inserts it, and then it has the value of that edit. Its place is settled by an
earlier edit, the one that made it present: present names come in the order of those edits.
-/

namespace FieldRules
variable {α : Type}

namespace TableEdit

/-- The last edit that mentions the name puts something under it. -/
def Present (edits : List (TableEdit α)) (name : String) : Prop :=
  ∃ a, LastNamed TableEdit.name edits name (.insert name a)

/-- The edit at this step makes the name present, and no later one takes it away. -/
def EntersAt (edits : List (TableEdit α)) (name : String) (step : ℕ) : Prop :=
  ∃ before a after, edits = before ++ .insert name a :: after ∧ before.length = step ∧
    ¬ Present before name ∧ .erase name ∉ after

variable {edits : List (TableEdit α)} {e : TableEdit α} {name : String} {step : ℕ}

theorem EntersAt.lt_length (h : EntersAt edits name step) : step < edits.length := by
  obtain ⟨before, a, after, rfl, rfl, -, -⟩ := h
  simp

/-- One more edit erases the name, or lets it in, or does not matter for when it came in. -/
theorem entersAt_snoc : EntersAt (edits ++ [e]) name step ↔
    EntersAt edits name step ∧ e ≠ .erase name ∨
      (∃ a, e = .insert name a) ∧ step = edits.length ∧ ¬ Present edits name := by
  constructor
  · rintro ⟨before, a, after, hsplit, rfl, habsent, hkept⟩
    rcases List.eq_nil_or_concat' after with rfl | ⟨after', last, rfl⟩
    · obtain ⟨rfl, hlast⟩ := List.append_inj' hsplit rfl
      exact .inr ⟨⟨a, List.singleton_inj.mp hlast⟩, rfl, habsent⟩
    · rw [← List.cons_append, ← List.append_assoc] at hsplit
      obtain ⟨rfl, hlast⟩ := List.append_inj' hsplit rfl
      obtain rfl := List.singleton_inj.mp hlast
      rw [List.mem_append, not_or, List.mem_singleton] at hkept
      exact .inl ⟨⟨before, a, after', rfl, rfl, habsent, hkept.1⟩, fun h => hkept.2 h.symm⟩
  · rintro (⟨⟨before, a, after, rfl, rfl, habsent, hkept⟩, hne⟩ | ⟨⟨a, rfl⟩, rfl, habsent⟩)
    · refine ⟨before, a, after ++ [e], by simp, rfl, habsent, ?_⟩
      rw [List.mem_append, not_or, List.mem_singleton]
      exact ⟨hkept, fun h => hne h.symm⟩
    · exact ⟨edits, a, [], rfl, rfl, habsent, List.not_mem_nil⟩

end TableEdit

namespace Table
open TableEdit
variable {T : Type} [Table T α] {t : T} {edits : List (TableEdit α)}

/-- A table has under every name what the history put there last and has not erased since. -/
def Follows (t : T) (edits : List (TableEdit α)) : Prop :=
  ∀ name a, get? t name = some a ↔ LastNamed TableEdit.name edits name (.insert name a)

theorem follows_empty : Follows (∅ : T) [] := by
  intro name a
  rw [get?_empty]
  exact iff_of_false nofun not_lastNamed_nil

theorem Follows.edit (h : Follows t edits) (e : TableEdit α) :
    Follows (edit t e) (edits ++ [e]) := by
  intro name a
  rw [get?_edit, lastNamed_snoc]
  by_cases hname : name = e.name
  · rw [if_pos hname, if_pos hname.symm]
    cases e with
    | insert other b =>
      obtain rfl : name = other := hname
      simp [value?]
    | erase other => simp [value?]
  · rw [if_neg hname, if_neg fun q => hname q.symm]
    exact h name a

theorem Follows.editAll (h : Follows t edits) (more : List (TableEdit α)) :
    Follows (editAll t more) (edits ++ more) := by
  induction more using List.reverseRecOn with
  | nil =>
    rw [List.append_nil]
    exact h
  | append_singleton more e ih =>
    rw [editAll_snoc, ← List.append_assoc]
    exact ih.edit e

theorem follows_ofList (es : Entries α) :
    Follows (ofList es : T) (es.map fun e => .insert e.1 e.2) := by
  rw [ofList_eq_editAll]
  exact follows_empty.editAll _

theorem Follows.present_iff (h : Follows t edits) {name : String} :
    Present edits name ↔ ∃ a, get? t name = some a := by
  rw [Present]
  simp only [h name]

end Table

namespace OrderedTable
open TableEdit

structure Follows (t : OrderedTable α) (edits : List (TableEdit α)) : Prop where
  nodup : t.names.Nodup
  follows : Table.Follows t edits
  mem_names_iff : ∀ name, name ∈ t.names ↔ ∃ step, EntersAt edits name step
  /-- Names come in the order of the steps at which they became present. -/
  ordered : t.names.Pairwise fun m n =>
    ∀ i j, EntersAt edits m i → EntersAt edits n j → i < j
  size_eq : t.size = t.names.length
  isEmpty_iff : t.isEmpty = true ↔ t.size = 0

variable {t : OrderedTable α} {edits : List (TableEdit α)}

theorem Follows.present_iff (h : t.Follows edits) {name : String} :
    Present edits name ↔ name ∈ t.names :=
  h.follows.present_iff.trans mem_names_iff_exists.symm

/-- A name that is present has come in already, so another edit does not change when. -/
theorem Follows.entersAt_of_snoc (h : t.Follows edits) {e : TableEdit α} {name : String}
    (hname : name ∈ t.names) {step : ℕ} (henters : EntersAt (edits ++ [e]) name step) :
    EntersAt edits name step := by
  rcases entersAt_snoc.mp henters with ⟨hold, -⟩ | ⟨-, -, habsent⟩
  · exact hold
  · exact absurd (h.present_iff.mpr hname) habsent

theorem size_eq_length_names (t : OrderedTable α) : t.size = t.names.length :=
  (List.length_map _).symm

theorem isEmpty_iff_size (t : OrderedTable α) : t.isEmpty = true ↔ t.size = 0 := by
  rw [isEmpty, size, List.isEmpty_iff, List.length_eq_zero_iff]

theorem Follows.insert (h : t.Follows edits) (name : String) (a : α) :
    (t.insert name a).Follows (edits ++ [.insert name a]) where
  nodup := (t.insert name a).nodup
  follows := h.follows.edit (.insert name a)
  mem_names_iff := by
    intro key
    rw [mem_names_insert]
    simp only [entersAt_snoc]
    constructor
    · intro hkey
      by_cases hold : key ∈ t.names
      · obtain ⟨step, henters⟩ := (h.mem_names_iff key).mp hold
        exact ⟨step, .inl ⟨henters, nofun⟩⟩
      · obtain rfl := hkey.resolve_right hold
        exact ⟨edits.length, .inr ⟨⟨a, rfl⟩, rfl, h.present_iff.not.mpr hold⟩⟩
    · rintro ⟨step, ⟨henters, -⟩ | ⟨⟨b, hinsert⟩, -, -⟩⟩
      · exact .inr ((h.mem_names_iff key).mpr ⟨step, henters⟩)
      · cases hinsert
        exact .inl rfl
  ordered := by
    have hold : t.names.Pairwise fun m n => ∀ i j,
        EntersAt (edits ++ [.insert name a]) m i → EntersAt (edits ++ [.insert name a]) n j →
        i < j :=
      h.ordered.imp_of_mem fun hm hn hlt i j hi hj =>
        hlt i j (h.entersAt_of_snoc hm hi) (h.entersAt_of_snoc hn hj)
    rw [names_insert]
    by_cases hname : name ∈ t.names
    · rw [if_pos hname]
      exact hold
    · -- Every name that is present came in at a step of the history so far, the new one after it.
      rw [if_neg hname, List.pairwise_append]
      refine ⟨hold, List.pairwise_singleton _ _, ?_⟩
      intro m hm n hn i j hi hj
      obtain rfl := List.mem_singleton.mp hn
      have hlt := (h.entersAt_of_snoc hm hi).lt_length
      rcases entersAt_snoc.mp hj with ⟨hj, -⟩ | ⟨-, rfl, -⟩
      · exact absurd ((h.mem_names_iff n).mpr ⟨j, hj⟩) hname
      · exact hlt
  size_eq := size_eq_length_names _
  isEmpty_iff := isEmpty_iff_size _

theorem Follows.erase (h : t.Follows edits) (name : String) :
    (t.erase name).Follows (edits ++ [.erase name]) where
  nodup := (t.erase name).nodup
  follows := h.follows.edit (.erase name)
  mem_names_iff := by
    intro key
    rw [mem_names_erase, h.mem_names_iff]
    simp only [entersAt_snoc]
    constructor
    · rintro ⟨hkey, step, henters⟩
      exact ⟨step, .inl ⟨henters, fun q => hkey (TableEdit.erase.inj q).symm⟩⟩
    · rintro ⟨step, ⟨henters, hne⟩ | ⟨⟨b, hinsert⟩, -, -⟩⟩
      · exact ⟨fun q => hne (congrArg TableEdit.erase q.symm), step, henters⟩
      · cases hinsert
  ordered := by
    rw [names_erase]
    refine (h.ordered.imp_of_mem ?_).filter _
    intro m n hm hn hlt i j hi hj
    exact hlt i j (h.entersAt_of_snoc hm hi) (h.entersAt_of_snoc hn hj)
  size_eq := size_eq_length_names _
  isEmpty_iff := isEmpty_iff_size _

theorem Follows.edit (h : t.Follows edits) (e : TableEdit α) :
    (Table.edit t e).Follows (edits ++ [e]) := by
  cases e with
  | insert name a => exact h.insert name a
  | erase name => exact h.erase name

theorem follows_empty : (∅ : OrderedTable α).Follows [] where
  nodup := List.nodup_nil
  follows := Table.follows_empty
  mem_names_iff := by
    intro name
    refine iff_of_false List.not_mem_nil ?_
    rintro ⟨step, henters⟩
    exact absurd henters.lt_length (Nat.not_lt_zero step)
  ordered := List.Pairwise.nil
  size_eq := rfl
  isEmpty_iff := isEmpty_iff_size _

theorem follows_editAll (edits : List (TableEdit α)) :
    (Table.editAll (∅ : OrderedTable α) edits).Follows edits := by
  induction edits using List.reverseRecOn with
  | nil => exact follows_empty
  | append_singleton edits e ih =>
    rw [Table.editAll_snoc]
    exact ih.edit e

end OrderedTable

end FieldRules
