/-!
# Lists of named values

The plain lists behind every table of the library. `look` finds the first value under a name;
`put` replaces the value where its name stands and adds a new name at the end; `pull` takes out the
first entry of a name.
-/

namespace FieldRules

abbrev Entries (α : Type) := List (String × α)

namespace Entries
variable {α : Type}

def names (es : Entries α) : List String := es.map Prod.fst

def look (name : String) (es : Entries α) : Option α :=
  (es.find? fun e => e.1 = name).map Prod.snd

def put (name : String) (a : α) : Entries α → Entries α
  | [] => [(name, a)]
  | e :: es => if e.1 = name then (name, a) :: es else e :: put name a es

def pull (name : String) : Entries α → Option α × Entries α
  | [] => (none, [])
  | e :: es => if e.1 = name then (some e.2, es) else (pull name es).map id (e :: ·)

@[simp] theorem look_nil (name : String) : look name ([] : Entries α) = none := rfl

theorem look_cons (name : String) (e : String × α) (es : Entries α) :
    look name (e :: es) = if e.1 = name then some e.2 else look name es := by
  by_cases h : e.1 = name <;> simp [look, h]

theorem look_eq_none_iff {name : String} {es : Entries α} :
    look name es = none ↔ name ∉ names es := by
  simp only [look, names, Option.map_eq_none_iff, List.find?_eq_none, List.mem_map,
    decide_eq_true_eq]
  exact ⟨fun h ⟨e, he, hn⟩ => h e he hn, fun h e he hn => h ⟨e, he, hn⟩⟩

theorem look_append (name : String) (es fs : Entries α) :
    look name (es ++ fs) = (look name es).or (look name fs) := by
  simp only [look, List.find?_append]
  cases es.find? fun e => e.1 = name <;> rfl

theorem mem_of_look_eq_some {name : String} {a : α} {es : Entries α} (h : look name es = some a) :
    (name, a) ∈ es := by
  obtain ⟨e, he, rfl⟩ := Option.map_eq_some_iff.1 h
  have hname : e.1 = name := by simpa using List.find?_some he
  exact hname ▸ List.mem_of_find?_eq_some he

/-- Where no name repeats, every entry is found under its name. -/
theorem look_eq_some_iff {name : String} {a : α} {es : Entries α} (h : (names es).Nodup) :
    look name es = some a ↔ (name, a) ∈ es := by
  refine ⟨mem_of_look_eq_some, fun hmem => ?_⟩
  induction es with
  | nil => simp at hmem
  | cons e es ih =>
    obtain ⟨hnot, hrest⟩ := List.nodup_cons.1 h
    cases List.mem_cons.1 hmem with
    | inl heq => simp [look_cons, ← heq]
    | inr hin =>
      have hne : ¬ e.1 = name := fun q => hnot (q ▸ List.mem_map_of_mem hin)
      rw [look_cons, if_neg hne]
      exact ih hrest hin

theorem look_map {β : Type} (f : α → β) (name : String) (es : Entries α) :
    look name (es.map fun e => (e.1, f e.2)) = (look name es).map f := by
  induction es with
  | nil => rfl
  | cons e es ih =>
    rw [List.map_cons, look_cons, look_cons, ih]
    by_cases h : e.1 = name <;> simp [h]

theorem names_map {β : Type} (f : α → β) (es : Entries α) :
    names (es.map fun e => (e.1, f e.2)) = names es := by
  rw [names, names, List.map_map]
  rfl

theorem look_filter_ne (name key : String) (es : Entries α) :
    look key (es.filter fun e => e.1 ≠ name) = if key = name then none else look key es := by
  induction es with
  | nil => simp
  | cons e es ih =>
    by_cases he : e.1 = name
    · by_cases hk : key = name
      · simpa [he, hk] using ih
      · have : ¬ name = key := fun q => hk q.symm
        simpa [he, hk, look_cons, this] using ih
    · by_cases hk : e.1 = key
      · have : ¬ key = name := fun q => he (hk.trans q)
        simp [look_cons, hk, this]
      · simpa [he, look_cons, hk] using ih

theorem pull_fst (name : String) (es : Entries α) : (pull name es).1 = look name es := by
  induction es with
  | nil => rfl
  | cons e es ih =>
    rw [pull, look_cons]
    by_cases h : e.1 = name
    · rw [if_pos h, if_pos h]
    · rw [if_neg h, if_neg h]
      exact ih

/-- Where no name repeats, one entry is all that a name has. -/
theorem pull_snd {name : String} {es : Entries α} (h : (names es).Nodup) :
    (pull name es).2 = es.filter fun e => e.1 ≠ name := by
  induction es with
  | nil => rfl
  | cons e es ih =>
    obtain ⟨hnot, hrest⟩ := List.nodup_cons.1 h
    rw [pull]
    by_cases he : e.1 = name
    · have hne : ∀ x ∈ es, x.1 ≠ name := fun x hx q =>
        hnot ((q.trans he.symm) ▸ List.mem_map_of_mem hx)
      rw [if_pos he, List.filter_cons_of_neg (by simpa using he)]
      exact (List.filter_eq_self.2 fun x hx => by simpa using hne x hx).symm
    · rw [if_neg he, List.filter_cons_of_pos (by simpa using he), ← ih hrest]
      rfl

theorem names_put (name : String) (a : α) (es : Entries α) :
    names (put name a es) = if name ∈ names es then names es else names es ++ [name] := by
  induction es with
  | nil => simp [put, names]
  | cons e es ih =>
    by_cases h : e.1 = name
    · simp [put, names, h]
    · have h' : ¬ name = e.1 := fun q => h q.symm
      have hc : names (put name a (e :: es)) = e.1 :: names (put name a es) := by
        simp [put, h, names]
      have hn : names (e :: es) = e.1 :: names es := rfl
      rw [hc, hn, ih]
      by_cases hm : name ∈ names es <;> simp [h', hm]

theorem look_put (name : String) (a : α) (es : Entries α) (key : String) :
    look key (put name a es) = if key = name then some a else look key es := by
  induction es with
  | nil => simp [put, look_cons, eq_comm]
  | cons e es ih =>
    by_cases h : e.1 = name
    · by_cases hk : key = name
      · simp [put, h, hk, look_cons]
      · have : ¬ name = key := fun q => hk q.symm
        simp [put, h, hk, look_cons, this]
    · by_cases hk : e.1 = key
      · have : ¬ key = name := fun q => h (hk.trans q)
        simp [put, look_cons, hk, this]
      · simp [put, h, look_cons, hk, ih]

/-- Putting in a value that looks like the one it replaces does not show. -/
theorem map_put {β : Type} {f : String × α → β} {name : String} {a b : α} {es : Entries α}
    (h : look name es = some b) (hf : f (name, a) = f (name, b)) :
    (put name a es).map f = es.map f := by
  induction es with
  | nil => cases h
  | cons e es ih =>
    rw [look_cons] at h
    by_cases he : e.1 = name
    · rw [if_pos he] at h
      obtain rfl : (name, b) = e := Prod.ext he.symm (Option.some.inj h).symm
      rw [put, if_pos rfl, List.map_cons, List.map_cons, hf]
    · rw [if_neg he] at h
      rw [put, if_neg he, List.map_cons, List.map_cons, ih h]

/-- Lists with the same names, none of them twice, and equal look-ups are equal. -/
theorem eq_of_names_eq {es fs : Entries α} (hnodup : (names es).Nodup)
    (hnames : names es = names fs) (h : ∀ key, look key es = look key fs) : es = fs := by
  induction es generalizing fs with
  | nil => exact (List.map_eq_nil_iff.1 hnames.symm).symm
  | cons e es ih =>
    cases fs with
    | nil => simp [names] at hnames
    | cons f fs =>
      obtain ⟨hname, htail⟩ := List.cons.inj hnames
      change e.1 = f.1 at hname
      obtain ⟨hnot, hrest⟩ := List.nodup_cons.1 hnodup
      have hvalue := h e.1
      rw [look_cons, look_cons, if_pos rfl, if_pos hname.symm] at hvalue
      obtain rfl : e = f := Prod.ext hname (Option.some.inj hvalue)
      refine congrArg (e :: ·) (ih hrest htail fun key => ?_)
      by_cases hk : e.1 = key
      · have hnot' : e.1 ∉ names fs := fun hmem => hnot (htail.symm ▸ hmem)
        rw [← hk, look_eq_none_iff.2 hnot, look_eq_none_iff.2 hnot']
      · have := h key
        rwa [look_cons, look_cons, if_neg hk, if_neg hk] at this

end Entries

end FieldRules
