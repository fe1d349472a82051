import FieldRules.Proofs.Toml.WellFormed
import FieldRules.SchemaFile.Basic

/-!
# Free values

The parameter of a rule and the messages of a file may be any value. Taking one from a document
changes tables for dates and times only, so that what is in form stays in form.
-/

namespace FieldRules.SchemaFile

theorem exists_of_mem_freeItems? {items items' : List Toml} (h : freeItems? items = some items')
    {x : Toml} (hx : x ∈ items') : ∃ y ∈ items, free? y = some x := by
  induction items generalizing items' with
  | nil =>
    obtain rfl := Option.some.inj h
    cases hx
  | cons y items ih =>
    obtain ⟨y', hy, h⟩ := Option.bind_eq_some_iff.mp h
    obtain ⟨rest, hrest, heq⟩ := Option.bind_eq_some_iff.mp h
    obtain rfl := Option.some.inj heq
    rcases List.mem_cons.mp hx with rfl | hx
    · exact ⟨y, List.mem_cons_self, hy⟩
    · obtain ⟨z, hz, hfree⟩ := ih hrest hx
      exact ⟨z, List.mem_cons_of_mem _ hz, hfree⟩

theorem freeEntries?_eq_some {entries entries' : Entries Toml}
    (h : freeEntries? entries = some entries') : entries'.names = entries.names ∧
      ∀ e ∈ entries', ∃ e' ∈ entries, free? e'.2 = some e.2 := by
  induction entries generalizing entries' with
  | nil =>
    obtain rfl := Option.some.inj h
    exact ⟨rfl, nofun⟩
  | cons e entries ih =>
    obtain ⟨x, hx, h⟩ := Option.bind_eq_some_iff.mp h
    obtain ⟨rest, hrest, heq⟩ := Option.bind_eq_some_iff.mp h
    obtain rfl := Option.some.inj heq
    obtain ⟨hnames, hfree⟩ := ih hrest
    refine ⟨congrArg (e.1 :: ·) hnames, List.forall_mem_cons.mpr
      ⟨⟨e, List.mem_cons_self, hx⟩, fun a ha => ?_⟩⟩
    obtain ⟨e', he', hfrom⟩ := hfree a ha
    exact ⟨e', List.mem_cons_of_mem _ he', hfrom⟩

theorem exists_datetime_of_datetimeTable? {entries : Entries Toml} {v : Toml}
    (h : datetimeTable? entries = some (some v)) : ∃ d, v = .datetime d := by
  unfold datetimeTable? at h
  split at h
  · split_ifs at h
    split at h
    · obtain ⟨d, -, rfl⟩ := Option.map_eq_some_iff.mp (Option.some.inj h)
      exact ⟨d, rfl⟩
    · cases h
  · cases h

theorem wellFormed_of_free? {v x : Toml} (hv : v.WellFormed) (h : free? v = some x) :
    x.WellFormed := by
  induction hv generalizing x with
  | text s =>
    obtain rfl := Option.some.inj h
    exact .text s
  | integer n =>
    rw [free?] at h
    split_ifs at h
    obtain rfl := Option.some.inj h
    exact .integer n
  | float hfloat =>
    obtain rfl := Option.some.inj h
    exact .float hfloat
  | boolean b =>
    obtain rfl := Option.some.inj h
    exact .boolean b
  | datetime d =>
    obtain rfl := Option.some.inj h
    exact .datetime d
  | array _ ih =>
    obtain ⟨items', hitems, rfl⟩ := Option.map_eq_some_iff.mp h
    refine .array fun y hy => ?_
    obtain ⟨z, hz, hfree⟩ := exists_of_mem_freeItems? hitems hy
    exact ih z hz hfree
  | table hsorted _ ih =>
    rw [free?] at h
    split at h
    next hdate =>
      obtain ⟨d, rfl⟩ := exists_datetime_of_datetimeTable? (hdate.trans (congrArg some h))
      exact .datetime d
    · obtain ⟨entries', hentries, rfl⟩ := Option.map_eq_some_iff.mp h
      obtain ⟨hnames, hfree⟩ := freeEntries?_eq_some hentries
      refine .table (hnames ▸ hsorted) fun e he => ?_
      obtain ⟨e', he', hfrom⟩ := hfree e he
      exact ih e' he' hfrom

end FieldRules.SchemaFile
