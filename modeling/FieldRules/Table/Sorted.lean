import FieldRules.Table.Entries

/-!
# Tables in key order

A `SortedTable` maps names to values and lists its entries by name, in the order of code points,
which for UTF-8 text is the order of bytes. The order is part of the type, so a table is determined
by what it holds: `ext_get?` says that two tables with equal look-ups are equal, whatever was done
to build them.
-/

namespace FieldRules

structure SortedTable (α : Type) where
  entries : Entries α
  sorted : entries.names.Pairwise (· < ·)

namespace Entries
variable {α : Type}

def place (name : String) (a : α) : Entries α → Entries α
  | [] => [(name, a)]
  | e :: es =>
    if name < e.1 then (name, a) :: e :: es
    else if name = e.1 then (name, a) :: es
    else e :: place name a es

theorem look_place (name : String) (a : α) (es : Entries α) (key : String) :
    look key (place name a es) = if key = name then some a else look key es := by
  induction es with
  | nil => simp [place, look_cons, eq_comm]
  | cons e es ih =>
    by_cases h : name < e.1
    · simp [place, h, look_cons, eq_comm]
    · rw [place, if_neg h]
      by_cases hn : name = e.1
      · by_cases hk : key = name
        · simp [hn, hk, look_cons]
        · have : ¬ e.1 = key := fun q => hk (q.symm.trans hn.symm)
          simp [hn, look_cons, this, Ne.symm this]
      · rw [if_neg hn, look_cons, look_cons, ih]
        by_cases hk : e.1 = key
        · have : ¬ key = name := fun q => hn (hk.trans q).symm
          rw [if_pos hk, if_pos hk, if_neg this]
        · rw [if_neg hk, if_neg hk]

theorem mem_names_place {name : String} {a : α} {es : Entries α} {x : String} :
    x ∈ names (place name a es) ↔ x = name ∨ x ∈ names es := by
  rw [← Decidable.not_iff_not, ← look_eq_none_iff, look_place, not_or, ← look_eq_none_iff]
  by_cases h : x = name <;> simp [h]

theorem sorted_place {name : String} {a : α} {es : Entries α}
    (hs : (names es).Pairwise (· < ·)) : (names (place name a es)).Pairwise (· < ·) := by
  induction es with
  | nil => simp [place, names]
  | cons e es ih =>
    obtain ⟨hlt, htail⟩ := List.pairwise_cons.1 hs
    by_cases h : name < e.1
    · rw [place, if_pos h]
      refine List.pairwise_cons.2 ⟨fun x hx => ?_, hs⟩
      cases List.mem_cons.1 hx with
      | inl hx => exact hx ▸ h
      | inr hx => exact String.lt_trans h (hlt x hx)
    · by_cases hn : name = e.1
      · rw [place, if_neg h, if_pos hn]
        exact List.pairwise_cons.2 ⟨fun x hx => hn ▸ hlt x hx, htail⟩
      · rw [place, if_neg h, if_neg hn]
        refine List.pairwise_cons.2 ⟨fun x hx => ?_, ih htail⟩
        cases mem_names_place.1 hx with
        | inl hx =>
          cases Std.lt_trichotomy name e.1 with
          | inl q => exact absurd q h
          | inr q => exact hx ▸ q.resolve_left hn
        | inr hx => exact hlt x hx

/-- Lists in key order with equal look-ups are equal. -/
theorem eq_of_look_eq {es fs : Entries α} (he : (names es).Pairwise (· < ·))
    (hf : (names fs).Pairwise (· < ·)) (h : ∀ key, look key es = look key fs) : es = fs := by
  induction es generalizing fs with
  | nil =>
    cases fs with
    | nil => rfl
    | cons f fs => simpa [look_cons] using h f.1
  | cons e es ih =>
    cases fs with
    | nil => simpa [look_cons] using h e.1
    | cons f fs =>
      have ⟨he₁, he₂⟩ := List.pairwise_cons.1 he
      have ⟨hf₁, hf₂⟩ := List.pairwise_cons.1 hf
      have hmem {x : String} : x ∈ names (e :: es) ↔ x ∈ names (f :: fs) := by
        rw [← Decidable.not_iff_not, ← look_eq_none_iff, ← look_eq_none_iff, h]
      have hef : e.1 = f.1 := by
        have h₁ := List.mem_cons.1 (hmem.1 (List.mem_cons_self))
        have h₂ := List.mem_cons.1 (hmem.2 (List.mem_cons_self))
        cases h₁ with
        | inl q => exact q
        | inr q =>
          cases h₂ with
          | inl p => exact p.symm
          | inr p => exact absurd (hf₁ _ q) (String.lt_asymm (he₁ _ p))
      have hval : e = f := by
        have := h e.1
        rw [look_cons, look_cons, if_pos rfl, if_pos hef.symm] at this
        exact Prod.ext hef (Option.some.inj this)
      subst hval
      refine congrArg (e :: ·) (ih he₂ hf₂ fun key => ?_)
      by_cases hk : e.1 = key
      · have none_of {gs : Entries α} (hg : ∀ x ∈ names gs, e.1 < x) : look key gs = none :=
          look_eq_none_iff.2 fun hm => String.lt_irrefl _ (hk ▸ hg key hm)
        rw [none_of he₁, none_of hf₁]
      · have := h key
        rwa [look_cons, look_cons, if_neg hk, if_neg hk] at this

end Entries

namespace SortedTable
variable {α : Type}

def empty : SortedTable α := ⟨[], List.Pairwise.nil⟩

instance : EmptyCollection (SortedTable α) := ⟨empty⟩
instance : Inhabited (SortedTable α) := ⟨empty⟩

def names (t : SortedTable α) : List String := t.entries.names

def size (t : SortedTable α) : Nat := t.entries.length

def isEmpty (t : SortedTable α) : Bool := t.entries.isEmpty

def get? (t : SortedTable α) (name : String) : Option α := t.entries.look name

def contains (t : SortedTable α) (name : String) : Bool := (t.get? name).isSome

def insert (t : SortedTable α) (name : String) (a : α) : SortedTable α :=
  ⟨t.entries.place name a, Entries.sorted_place t.sorted⟩

def erase (t : SortedTable α) (name : String) : SortedTable α where
  entries := t.entries.filter fun e => e.1 ≠ name
  sorted := t.sorted.sublist (List.filter_sublist.map Prod.fst)

/-- Inserts the entries one after another, so that the last one under a name counts. -/
def ofList (es : Entries α) : SortedTable α := es.foldl (fun t e => t.insert e.1 e.2) empty

instance [DecidableEq α] : DecidableEq (SortedTable α) := fun s t =>
  decidable_of_iff (s.entries = t.entries)
    ⟨fun h => by cases s; cases t; simpa using h, fun h => h ▸ rfl⟩

@[simp] theorem get?_empty (name : String) : (empty : SortedTable α).get? name = none := rfl

theorem get?_insert (t : SortedTable α) (name : String) (a : α) (key : String) :
    (t.insert name a).get? key = if key = name then some a else t.get? key :=
  Entries.look_place name a t.entries key

theorem get?_erase (t : SortedTable α) (name key : String) :
    (t.erase name).get? key = if key = name then none else t.get? key :=
  Entries.look_filter_ne name key t.entries

/-- Of the entries under one name in a list the last one counts. -/
theorem get?_ofList (es : Entries α) (key : String) :
    (ofList es).get? key = Entries.look key es.reverse := by
  suffices ∀ t : SortedTable α, (es.foldl (fun t e => t.insert e.1 e.2) t).get? key =
      (Entries.look key es.reverse).or (t.get? key) by simpa [ofList] using this empty
  induction es with
  | nil => intro t; rfl
  | cons e es ih =>
    intro t
    rw [List.foldl_cons, ih, get?_insert, List.reverse_cons, Entries.look_append, Option.or_assoc]
    congr 1
    by_cases h : key = e.1
    · rw [if_pos h, Entries.look_cons, if_pos h.symm]
      rfl
    · rw [if_neg h, Entries.look_cons, if_neg (fun q => h q.symm), Entries.look_nil]
      rfl

/-- Where a list has one value under each name, the table of it holds exactly its entries. -/
theorem get?_ofList_eq_some_iff {es : Entries α}
    (h : ∀ key a b, (key, a) ∈ es → (key, b) ∈ es → a = b) {key : String} {a : α} :
    (ofList es).get? key = some a ↔ (key, a) ∈ es := by
  rw [get?_ofList]
  constructor
  · intro hlook
    exact List.mem_reverse.1 (Entries.mem_of_look_eq_some hlook)
  · intro hmem
    cases hlook : Entries.look key es.reverse with
    | none =>
      have hnames := Entries.look_eq_none_iff.1 hlook
      exact absurd (List.mem_map_of_mem (List.mem_reverse.2 hmem)) hnames
    | some b =>
      have hb := List.mem_reverse.1 (Entries.mem_of_look_eq_some hlook)
      rw [h key b a hb hmem]

theorem get?_eq_none_iff {t : SortedTable α} {name : String} :
    t.get? name = none ↔ name ∉ t.names :=
  Entries.look_eq_none_iff

theorem isEmpty_eq_false_of_get? {t : SortedTable α} {name : String} {a : α}
    (h : t.get? name = some a) : t.isEmpty = false := by
  cases hes : t.entries with
  | nil => simp [get?, hes] at h
  | cons e es => simp [isEmpty, hes]

theorem ext_get? {s t : SortedTable α} (h : ∀ key, s.get? key = t.get? key) : s = t := by
  cases s with
  | mk es hs => cases t with
    | mk fs ht =>
      have : es = fs := Entries.eq_of_look_eq hs ht h
      subst this; rfl

theorem nodup_names (t : SortedTable α) : t.names.Nodup :=
  t.sorted.imp fun h => String.ne_of_lt h

theorem get?_eq_some_iff {t : SortedTable α} {name : String} {a : α} :
    t.get? name = some a ↔ (name, a) ∈ t.entries :=
  Entries.look_eq_some_iff t.nodup_names

theorem mem_names_iff_exists {t : SortedTable α} {name : String} :
    name ∈ t.names ↔ ∃ a, t.get? name = some a := by
  rw [← Option.isSome_iff_exists, ← Option.ne_none_iff_isSome, Ne, get?_eq_none_iff,
    Decidable.not_not]

theorem mem_of_mem_ofList {es : Entries α} {e : String × α} (h : e ∈ (ofList es).entries) :
    e ∈ es := by
  have hlook := get?_eq_some_iff.2 h
  rw [get?_ofList] at hlook
  exact List.mem_reverse.1 (Entries.mem_of_look_eq_some hlook)

/-- Around an entry stand those with smaller names and those with larger ones. -/
theorem lt_of_entries_eq {t : SortedTable α} {before after : Entries α} {e : String × α}
    (h : t.entries = before ++ e :: after) :
    (∀ b ∈ before, b.1 < e.1) ∧ ∀ a ∈ after, e.1 < a.1 := by
  have hsorted := t.sorted
  rw [h, Entries.names, List.map_append, List.map_cons] at hsorted
  obtain ⟨-, hright, hcross⟩ := List.pairwise_append.1 hsorted
  constructor
  · intro b hb
    exact hcross b.1 (List.mem_map_of_mem hb) e.1 List.mem_cons_self
  · intro a ha
    exact (List.pairwise_cons.1 hright).1 a.1 (List.mem_map_of_mem ha)

/-- The table of the entries of a table is the table. -/
theorem ofList_entries (t : SortedTable α) : ofList t.entries = t := by
  refine ext_get? fun key => Option.ext fun a => ?_
  have hunique (key : String) (a b : α) (ha : (key, a) ∈ t.entries) (hb : (key, b) ∈ t.entries) :
      a = b := by
    have hlook := get?_eq_some_iff.2 ha
    rw [get?_eq_some_iff.2 hb] at hlook
    exact (Option.some.inj hlook).symm
  rw [get?_ofList_eq_some_iff hunique, get?_eq_some_iff]

theorem get?_ofList_map {β : Type} (f : α → β) (es : Entries α) (key : String) :
    (ofList (es.map fun e => (e.1, f e.2))).get? key = ((ofList es).get? key).map f := by
  rw [get?_ofList, get?_ofList, ← List.map_reverse, Entries.look_map]

end SortedTable

end FieldRules
