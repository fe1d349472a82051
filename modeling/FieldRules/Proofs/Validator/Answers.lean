import FieldRules.Proofs.Validator.FieldRuns

/-!
# The answer for several names

Gathering drops the names that pass and files the others by name. `Answers` says what the outcome
has to be in terms of validating each name by itself; it determines the outcome, and depends on the
list of names only through its members.
-/

namespace FieldRules.Validator

def failuresOf (results : List (String × Option String)) : Entries String :=
  results.filterMap fun (name, failure) => failure.map (name, ·)

theorem mem_failuresOf {results : List (String × Option String)} {name message : String} :
    (name, message) ∈ failuresOf results ↔ (name, some message) ∈ results := by
  simp only [failuresOf, List.mem_filterMap, Option.map_eq_some_iff, Prod.mk.injEq]
  constructor
  · rintro ⟨⟨name', failure⟩, hmem, message', rfl, rfl, rfl⟩
    exact hmem
  · intro hmem
    exact ⟨(name, some message), hmem, message, rfl, rfl, rfl⟩

theorem gather_eq (results : List (String × Option String)) :
    gather results =
      if failuresOf results = [] then none else some (SortedTable.ofList (failuresOf results)) := by
  simp only [gather, failuresOf, List.isEmpty_iff]

/-- What the answer for some names says: nothing where every one of them passes, and otherwise the
message of each that fails, in a table that is not empty. -/
structure Answers (v : Validator) (names : List String) (record : Record)
    (answer : Option Failures) : Prop where
  none_iff : answer = none ↔ ∀ name ∈ names, (v.validateField name record).2 = .ok none
  failures : ∀ table, answer = some table → table.isEmpty = false ∧
    ∀ name message, table.get? name = some message ↔
      name ∈ names ∧ (v.validateField name record).2 = .ok (some message)

theorem Answers.unique {v : Validator} {names : List String} {record : Record}
    {a b : Option Failures} (ha : v.Answers names record a) (hb : v.Answers names record b) :
    a = b := by
  cases a with
  | none => exact (hb.none_iff.mpr (ha.none_iff.mp rfl)).symm
  | some s =>
    cases b with
    | none => exact ha.none_iff.mpr (hb.none_iff.mp rfl)
    | some t =>
      congr 1
      apply SortedTable.ext_get?
      intro name
      apply Option.ext
      intro message
      rw [(ha.failures s rfl).2, (hb.failures t rfl).2]

theorem Answers.congr {v w : Validator} {names names' : List String} {record : Record}
    {a : Option Failures}
    (hfields : ∀ name, w.validateField name record = v.validateField name record)
    (hnames : ∀ name, name ∈ names ↔ name ∈ names') (h : v.Answers names record a) :
    w.Answers names' record a := by
  refine ⟨?_, fun table htable => ⟨(h.failures table htable).1, ?_⟩⟩
  · simpa only [hfields, hnames] using h.none_iff
  · simpa only [hfields, hnames] using (h.failures table htable).2

/-- The message of a name in an answer, if the answer has one for it. -/
theorem Answers.failure_iff {v : Validator} {names : List String} {record : Record}
    {answer : Option Failures} (h : v.Answers names record answer) {name message : String} :
    (answer.bind fun table => table.get? name) = some message ↔
      name ∈ names ∧ (v.validateField name record).2 = .ok (some message) := by
  cases answer with
  | some table => exact (h.failures table rfl).2 name message
  | none =>
    constructor
    · intro hnone
      cases hnone
    · rintro ⟨hname, hfails⟩
      have hpasses := h.none_iff.mp rfl name hname
      rw [hfails] at hpasses
      cases hpasses

/-- Gathering the results of names that each have one gives their answer. -/
theorem answers_gather {v : Validator} {names : List String} {record : Record}
    {results : List (String × Option String)}
    (h : ∀ name failure, (name, failure) ∈ results ↔
      name ∈ names ∧ (v.validateField name record).2 = .ok failure)
    (hok : ∀ name ∈ names, ∃ failure, (v.validateField name record).2 = .ok failure) :
    v.Answers names record (gather results) := by
  rw [gather_eq]
  have hmem (name message : String) : (name, message) ∈ failuresOf results ↔
      name ∈ names ∧ (v.validateField name record).2 = .ok (some message) := by
    rw [mem_failuresOf, h]
  constructor
  · rw [ite_eq_left_iff]
    constructor
    · intro hnil name hname
      obtain ⟨failure, hfailure⟩ := hok name hname
      cases failure with
      | none => exact hfailure
      | some message =>
        have hin := (hmem name message).mpr ⟨hname, hfailure⟩
        exact absurd (hnil (List.ne_nil_of_mem hin)) (Option.some_ne_none _)
    · intro hpass hne
      obtain ⟨⟨name, message⟩, hin⟩ := List.exists_mem_of_ne_nil _ hne
      have hfails := (hmem name message).mp hin
      simp [hpass name hfails.1] at hfails
  · intro table htable
    split at htable
    · cases htable
    · rename_i hfailures
      obtain rfl := Option.some.inj htable
      have hget (name message : String) :
          (SortedTable.ofList (failuresOf results)).get? name = some message ↔
            name ∈ names ∧ (v.validateField name record).2 = .ok (some message) := by
        rw [SortedTable.get?_ofList_eq_some_iff, hmem]
        intro key a b ha hb
        have hsame := ((hmem key a).mp ha).2.symm.trans ((hmem key b).mp hb).2
        simpa using hsame
      refine ⟨?_, hget⟩
      obtain ⟨⟨name, message⟩, hin⟩ := List.exists_mem_of_ne_nil _ hfailures
      have hfound := (hget name message).mpr ((hmem name message).mp hin)
      exact SortedTable.isEmpty_eq_false_of_get? hfound

end FieldRules.Validator
