import FieldRules.Proofs.Table.Edits
import Mathlib.Data.List.Induction

/-!
# Names that come again

Of several items with one name the last one counts. A table that is filled from a list has its names
in the order in which they first come, and under each name the value that comes last.
-/

namespace FieldRules
variable {α β : Type}

/-- The last of some items that has a name. -/
def LastNamed (nameOf : β → String) (items : List β) (name : String) (x : β) : Prop :=
  nameOf x = name ∧ ∃ before after, items = before ++ x :: after ∧ ∀ y ∈ after, nameOf y ≠ name

variable {nameOf : β → String} {items : List β} {name : String} {x : β}

theorem lastNamed_iff_find? :
    LastNamed nameOf items name x ↔
      items.reverse.find? (fun y => nameOf y = name) = some x := by
  rw [List.find?_eq_some_iff_append]
  constructor
  · rintro ⟨hname, before, after, rfl, hafter⟩
    refine ⟨by simpa using hname, after.reverse, before.reverse, by simp, ?_⟩
    simpa using hafter
  · rintro ⟨hname, after, before, hsplit, hafter⟩
    refine ⟨by simpa using hname, before.reverse, after.reverse, ?_, by simpa using hafter⟩
    rw [← List.reverse_reverse items, hsplit]
    simp

theorem exists_lastNamed_iff :
    (∃ x, LastNamed nameOf items name x) ↔ name ∈ items.map nameOf := by
  simp [lastNamed_iff_find?, ← Option.isSome_iff_exists]

theorem not_lastNamed_nil : ¬ LastNamed nameOf [] name x := by
  simp [lastNamed_iff_find?]

/-- One more item is the last of its own name and leaves the other names alone. -/
theorem lastNamed_snoc {y : β} :
    LastNamed nameOf (items ++ [y]) name x ↔
      if nameOf y = name then y = x else LastNamed nameOf items name x := by
  rw [lastNamed_iff_find?, lastNamed_iff_find?, List.reverse_append, List.reverse_singleton,
    List.singleton_append, List.find?_cons]
  by_cases hname : nameOf y = name <;> simp [hname]

/-- The last item of a name is settled by the items of that name. -/
theorem lastNamed_filter :
    LastNamed nameOf (items.filter fun y => nameOf y = name) name x ↔
      LastNamed nameOf items name x := by
  rw [lastNamed_iff_find?, lastNamed_iff_find?, ← List.filter_reverse, List.find?_filter]
  simp only [decide_eq_true_eq, and_self]

theorem LastNamed.unique {y : β} (hx : LastNamed nameOf items name x)
    (hy : LastNamed nameOf items name y) : x = y := by
  rw [lastNamed_iff_find?] at hx hy
  exact Option.some.inj (hx.symm.trans hy)

theorem eraseDups_snoc (names : List String) (name : String) :
    (names ++ [name]).eraseDups =
      if name ∈ names then names.eraseDups else names.eraseDups ++ [name] := by
  rw [List.eraseDups_append]
  by_cases h : name ∈ names
  · have hnone : [name].removeAll names = [] := by
      simp [List.removeAll, h]
    rw [hnone, if_pos h, List.eraseDups_nil, List.append_nil]
  · have hsame : [name].removeAll names = [name] := by
      simp [List.removeAll, h]
    rw [hsame, if_neg h]
    rfl

namespace OrderedTable

structure Filled (nameOf : β → String) (makes : β → α → Prop) (items : List β)
    (t : OrderedTable α) : Prop where
  names : t.names = (items.map nameOf).eraseDups
  value : ∀ name x, LastNamed nameOf items name x → ∃ a, makes x a ∧ t.get? name = some a

variable {makes : β → α → Prop} {t : OrderedTable α}

theorem filled_nil : Filled nameOf makes [] ∅ where
  names := rfl
  value := fun _ _ h => absurd h not_lastNamed_nil

/-- One more item replaces what its name has or comes at the end. -/
theorem Filled.snoc (h : Filled nameOf makes items t) {x : β} {a : α} (hmakes : makes x a) :
    Filled nameOf makes (items ++ [x]) (t.insert (nameOf x) a) where
  names := by
    rw [names_insert, List.map_append, List.map_singleton, eraseDups_snoc, h.names]
    simp only [List.mem_eraseDups]
  value := by
    intro name last hlast
    rw [lastNamed_snoc] at hlast
    rw [get?_insert]
    by_cases hname : nameOf x = name
    · rw [if_pos hname] at hlast
      obtain rfl := hlast
      exact ⟨a, hmakes, by rw [if_pos hname.symm]⟩
    · rw [if_neg hname] at hlast
      rw [if_neg fun q => hname q.symm]
      exact h.value name last hlast

/-- Whatever name the table has, it has from the last item of that name. -/
theorem Filled.exists_last (h : Filled nameOf makes items t) (hname : name ∈ t.names) :
    ∃ x a, LastNamed nameOf items name x ∧ makes x a ∧ t.get? name = some a := by
  rw [h.names, List.mem_eraseDups] at hname
  obtain ⟨x, hlast⟩ := exists_lastNamed_iff.mpr hname
  obtain ⟨a, hmakes, hget⟩ := h.value name x hlast
  exact ⟨x, a, hlast, hmakes, hget⟩

theorem Filled.last_of_mem (h : Filled nameOf makes items t) {e : String × α}
    (he : e ∈ t.entries) : ∃ x, LastNamed nameOf items e.1 x ∧ makes x e.2 := by
  obtain ⟨x, a, hlast, hmakes, hget⟩ := h.exists_last (List.mem_map_of_mem he)
  obtain rfl : a = e.2 := Option.some.inj (hget.symm.trans (get?_eq_some_iff.mpr he))
  exact ⟨x, hlast, hmakes⟩

theorem filled_ofList (es : Entries α) :
    Filled Prod.fst (fun e a => e.2 = a) es (Table.ofList es) := by
  induction es using List.reverseRecOn with
  | nil => exact filled_nil
  | append_singleton es e ih =>
    rw [Table.ofList_snoc]
    exact ih.snoc rfl

theorem names_ofList (es : Entries α) :
    (Table.ofList es : OrderedTable α).names = es.names.eraseDups :=
  (filled_ofList es).names

/-- The entries of the table are the last ones of their names. -/
theorem lastNamed_of_mem_ofList {es : Entries α} {e : String × α}
    (h : e ∈ (Table.ofList es : OrderedTable α).entries) : LastNamed Prod.fst es e.1 e := by
  obtain ⟨last, hlast, hvalue⟩ := (filled_ofList es).last_of_mem h
  obtain rfl : last = e := Prod.ext hlast.1 hvalue
  exact hlast

end OrderedTable

end FieldRules
