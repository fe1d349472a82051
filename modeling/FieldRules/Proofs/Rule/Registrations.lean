import FieldRules.Proofs.Table.SortedHistory
import FieldRules.Proofs.Table.Values
import FieldRules.Proofs.Text.ByteOrder
import FieldRules.Rule.Builtin
import Mathlib.Data.List.Sort

/-!
# Histories of registries

Several registries live side by side under names of their own. Each starts out empty or with the
built-in kinds or as a copy of another one, and kinds are then registered in it. Beside every
registry goes its own history, the registrations made in it and in what it is a copy of. The history
settles the registry: which kinds it lists and in which order, and what it builds. A step on one
registry does not show in any other.
-/

namespace FieldRules

/-- A step with named registries. Where there is no registry of the name, there is nothing to copy
and nothing to register in. -/
inductive RegistryStep
  | create (id : String)
  | createBuiltin (id : String)
  | copy (source id : String)
  | register (id kind : String) (factory : Factory)

namespace RegistryStep

def target : RegistryStep → String
  | .create id => id
  | .createBuiltin id => id
  | .copy _ id => id
  | .register id _ _ => id

structure Keeping (α : Type) where
  fresh : α
  builtin : α
  register : α → String → Factory → α

variable {α : Type}

def result? (k : Keeping α) (shelf : SortedTable α) : RegistryStep → Option α
  | .create _ => some k.fresh
  | .createBuiltin _ => some k.builtin
  | .copy source _ => shelf.get? source
  | .register id kind factory => (shelf.get? id).map fun a => k.register a kind factory

def act (k : Keeping α) (shelf : SortedTable α) (step : RegistryStep) : SortedTable α :=
  match step.result? k shelf with
  | some a => shelf.insert step.target a
  | none => shelf

def run (k : Keeping α) (steps : List RegistryStep) : SortedTable α := steps.foldl (act k) ∅

def registry : Keeping Registry where
  fresh := ∅
  builtin := .builtin
  register := Registry.register

/-- The history of a registry is the list of all registrations, oldest first. -/
def history : Keeping (Entries Factory) where
  fresh := []
  builtin := Builtin.registrations
  register own kind factory := own ++ [(kind, factory)]

variable {k : Keeping α} {shelf : SortedTable α} {step : RegistryStep} {id : String}

theorem get?_act_of_ne (h : id ≠ step.target) : (step.act k shelf).get? id = shelf.get? id := by
  rw [act]
  cases step.result? k shelf with
  | none => rfl
  | some a => rw [SortedTable.get?_insert, if_neg h]

theorem get?_act_target {a : α} (h : step.result? k shelf = some a) :
    (step.act k shelf).get? step.target = some a := by
  rw [act, h, SortedTable.get?_insert, if_pos rfl]

/-- A step leaves the registry of the history that it leaves. -/
theorem act_registry (shelf : SortedTable (Entries Factory)) (step : RegistryStep) :
    step.act registry (shelf.mapValues SortedTable.ofList) =
      (step.act history shelf).mapValues SortedTable.ofList := by
  have hresult : step.result? registry (shelf.mapValues SortedTable.ofList) =
      (step.result? history shelf).map SortedTable.ofList := by
    cases step with
    | create id => rfl
    | createBuiltin id => rfl
    | copy source id => exact SortedTable.get?_mapValues _ _ _
    | register id kind factory =>
      rw [result?, result?, SortedTable.get?_mapValues, Option.map_map, Option.map_map]
      congr 1
      funext own
      exact (Table.ofList_snoc own (kind, factory)).symm
  rw [act, act, hresult]
  cases step.result? history shelf with
  | none => rfl
  | some own => exact (SortedTable.mapValues_insert _ _ _ _).symm

theorem run_snoc (k : Keeping α) (steps : List RegistryStep) (step : RegistryStep) :
    run k (steps ++ [step]) = step.act k (run k steps) := by
  rw [run, List.foldl_append]
  rfl

theorem run_registry (steps : List RegistryStep) :
    run registry steps = (run history steps).mapValues SortedTable.ofList := by
  induction steps using List.reverseRecOn with
  | nil => rfl
  | append_singleton steps step ih => rw [run_snoc, run_snoc, ih, act_registry]

end RegistryStep

namespace Registry

structure Law (r : Registry) (own : Entries Factory) : Prop where
  increasing : (r.kinds.map Text.bytes).Pairwise (· < ·)
  mem_kinds_iff : ∀ kind, kind ∈ r.kinds ↔ kind ∈ own.names
  /-- Sorting the kinds, in whatever order they are held, makes the listing. -/
  sorted_eq : ∀ held : List String, held.Nodup → (∀ kind, kind ∈ held ↔ kind ∈ own.names) →
    held.mergeSort (fun kind other => Text.bytes kind ≤ Text.bytes other) = r.kinds
  contains_iff : ∀ kind, r.contains kind = true ↔ kind ∈ r.kinds
  build_unlisted : ∀ kind, kind ∉ r.kinds → ∀ parameter, ∃ fault,
    r.build kind parameter = .error fault ∧ fault.message = "Unknown rule kind '" ++ kind ++ "'"
  build_listed : ∀ kind ∈ r.kinds, ∃ factory, LastNamed Prod.fst own kind (kind, factory) ∧
    ∀ parameter, r.build kind parameter = factory parameter

variable {r : Registry} {own : Entries Factory} {kind : String} {factory : Factory}
  {parameter : Option Toml}

theorem build_of_get?_eq_none (h : r.get? kind = none) :
    r.build kind parameter = .error (.unknownKind kind) := by
  rw [build, h]

theorem build_of_get?_eq_some (h : r.get? kind = some factory) :
    r.build kind parameter = factory parameter := by
  rw [build, h]

theorem build_register_self :
    (r.register kind factory).build kind parameter = factory parameter := by
  refine build_of_get?_eq_some ?_
  rw [register, SortedTable.get?_insert, if_pos rfl]

theorem build_register_of_ne {other : String} (h : other ≠ kind) :
    (r.register kind factory).build other parameter = r.build other parameter := by
  rw [build, build, register, SortedTable.get?_insert, if_neg h]

theorem pairwise_bytes_kinds (r : Registry) : (r.kinds.map Text.bytes).Pairwise (· < ·) := by
  rw [List.pairwise_map]
  exact r.sorted.imp Text.bytes_lt_bytes_iff.mpr

/-- There is one list of given kinds in order. -/
theorem mergeSort_eq_kinds {held : List String} (hnodup : held.Nodup)
    (hheld : ∀ kind, kind ∈ held ↔ kind ∈ r.kinds) :
    held.mergeSort (fun kind other => Text.bytes kind ≤ Text.bytes other) = r.kinds := by
  simp only [Text.bytes_le_bytes_iff]
  have hsorted : (held.mergeSort fun kind other => kind ≤ other).Pairwise (· ≤ ·) :=
    List.pairwise_mergeSort' (· ≤ ·) held
  have hkinds : r.kinds.Pairwise (· ≤ ·) :=
    r.sorted.imp fun hlt => String.not_lt.mp (String.lt_asymm hlt)
  have hperm : held.Perm r.kinds :=
    (List.perm_ext_iff_of_nodup hnodup r.nodup_names).mpr hheld
  exact ((List.mergeSort_perm _ _).trans hperm).eq_of_pairwise
    (fun _ _ _ _ => String.le_antisymm) hsorted hkinds

theorem law_ofList (own : Entries Factory) : Law (SortedTable.ofList own) own where
  increasing := pairwise_bytes_kinds _
  mem_kinds_iff := fun _ => SortedTable.mem_names_ofList
  sorted_eq := fun held hnodup hheld => mergeSort_eq_kinds hnodup fun kind =>
    (hheld kind).trans SortedTable.mem_names_ofList.symm
  contains_iff := by
    intro kind
    rw [SortedTable.contains, Option.isSome_iff_exists]
    exact SortedTable.mem_names_iff_exists.symm
  build_unlisted := by
    intro kind hkind parameter
    exact ⟨.unknownKind kind, build_of_get?_eq_none (SortedTable.get?_eq_none_iff.mpr hkind), rfl⟩
  build_listed := by
    intro kind hkind
    obtain ⟨factory, hget⟩ := SortedTable.mem_names_iff_exists.mp hkind
    exact ⟨factory, SortedTable.get?_ofList_eq_some_iff_last.mp hget,
      fun _ => build_of_get?_eq_some hget⟩

end Registry

namespace RegistryStep

/-- Every registry is settled by its own history. A copy is the registry that is copied. Registering
a kind puts its factory in place and changes nothing else: not what is built under another kind, and
no other registry. -/
theorem registry_settled_by_history (steps : List RegistryStep) :
    (∀ id r, (run registry steps).get? id = some r →
      (∃ own, (run history steps).get? id = some own ∧ r.Law own) ∧
      (∀ copy, (run registry (steps ++ [.copy id copy])).get? copy = some r) ∧
      ∀ kind factory,
        (run registry (steps ++ [.register id kind factory])).get? id =
          some (r.register kind factory) ∧
        (∀ parameter, (r.register kind factory).build kind parameter = factory parameter) ∧
        ∀ other, other ≠ kind → ∀ parameter,
          (r.register kind factory).build other parameter = r.build other parameter) ∧
    ∀ step : RegistryStep, ∀ id, id ≠ step.target →
      (run registry (steps ++ [step])).get? id = (run registry steps).get? id := by
  constructor
  · intro id r hr
    refine ⟨?_, fun copy => ?_, fun kind factory => ⟨?_, fun _ => Registry.build_register_self,
      fun other hother _ => Registry.build_register_of_ne hother⟩⟩
    · rw [run_registry, SortedTable.get?_mapValues] at hr
      obtain ⟨own, hown, rfl⟩ := Option.map_eq_some_iff.mp hr
      exact ⟨own, hown, Registry.law_ofList own⟩
    · rw [run_snoc]
      exact get?_act_target hr
    · rw [run_snoc]
      refine get?_act_target ?_
      rw [result?, hr]
      rfl
  · intro step id hid
    rw [run_snoc, get?_act_of_ne hid]

def forkedSteps : List RegistryStep := [.createBuiltin "base", .copy "base" "fork"]

def refusingFactory : Factory := fun _ => .error (.custom "off")

theorem registry_settled_forked :
    (run registry forkedSteps).get? "fork" = some .builtin ∧
    "base" ≠ (RegistryStep.register "fork" "min" refusingFactory).target ∧
    (run registry (forkedSteps ++ [.register "fork" "min" refusingFactory])).get? "base" =
      some .builtin ∧
    (run registry (forkedSteps ++ [.register "fork" "min" refusingFactory])).get? "fork" =
      some (Registry.builtin.register "min" refusingFactory) ∧
    (Registry.builtin.register "min" refusingFactory).build "min" none = .error (.custom "off") ∧
    "max" ≠ "min" ∧
    (Registry.builtin.register "min" refusingFactory).build "max" none =
      .error (.badParameter "max" .number) := by
  have hfork : (run registry forkedSteps).get? "fork" = some .builtin := rfl
  obtain ⟨hregistry, hothers⟩ := registry_settled_by_history forkedSteps
  obtain ⟨-, -, hregister⟩ := hregistry "fork" .builtin hfork
  obtain ⟨hput, hbuild, hkept⟩ := hregister "min" refusingFactory
  have hbase : "base" ≠ (RegistryStep.register "fork" "min" refusingFactory).target := by decide
  refine ⟨hfork, hbase, ?_, hput, hbuild none, by decide, ?_⟩
  · exact hothers _ "base" hbase
  · exact hkept "max" (by decide) none

end RegistryStep

end FieldRules
