import FieldRules.Proofs.Table.History
import FieldRules.Schema

/-!
# Schemas and fields, call by call

A field is declared by calls that set its flag or give it a rule, a schema by insertions and
removals of fields. What comes of them can be read off the calls: a field has the flag set last and
the rules given last under their names, each where its name came first, and a schema has the fields
that a history of edits leaves.
-/

namespace FieldRules

inductive SpecCall
  | require
  | setRequired (flag : Bool)
  | addTest (name : String) (test : Json → Record → Bool)
  | addAttempt (name : String) (attempt : Json → Record → Except String Bool)
  | addTask (name : String) (task : Json → Record → Trial)
  | addRule (name : String) (p : Predicate)

namespace SpecCall

def flag? : SpecCall → Option Bool
  | .require => some true
  | .setRequired flag => some flag
  | _ => none

def rule? : SpecCall → Option (String × Predicate)
  | .addTest name test => some (name, .ofTest test)
  | .addAttempt name attempt => some (name, .ofAttempt attempt)
  | .addTask name task => some (name, task)
  | .addRule name p => some (name, p)
  | _ => none

def flagsSet (calls : List SpecCall) : List Bool := calls.filterMap flag?

def rulesGiven (calls : List SpecCall) : Entries Predicate := calls.filterMap rule?

theorem filterMap_snoc {β : Type} (f : SpecCall → Option β) (calls : List SpecCall) (c : SpecCall) :
    (calls ++ [c]).filterMap f = calls.filterMap f ++ (f c).toList := by
  rw [List.filterMap_append, List.filterMap_cons]
  cases f c <;> rfl

theorem flagsSet_snoc (calls : List SpecCall) (c : SpecCall) :
    flagsSet (calls ++ [c]) = flagsSet calls ++ c.flag?.toList :=
  filterMap_snoc flag? calls c

theorem rulesGiven_snoc (calls : List SpecCall) (c : SpecCall) :
    rulesGiven (calls ++ [c]) = rulesGiven calls ++ c.rule?.toList :=
  filterMap_snoc rule? calls c

def ruleEdits (calls : List SpecCall) : List (TableEdit Predicate) :=
  (rulesGiven calls).map fun e => .insert e.1 e.2

end SpecCall

namespace FieldSpec
open SpecCall

def call (s : FieldSpec) : SpecCall → FieldSpec
  | .require => s.require
  | .setRequired flag => s.setRequired flag
  | .addTest name test => s.addTest name test
  | .addAttempt name attempt => s.addAttempt name attempt
  | .addTask name task => s.addTask name task
  | .addRule name p => s.addRule name p

def ofCalls (calls : List SpecCall) : FieldSpec := calls.foldl call .empty

theorem call_cases (c : SpecCall) :
    (∃ flag, c.flag? = some flag ∧ c.rule? = none ∧
      ∀ s : FieldSpec, s.call c = s.setRequired flag) ∨
    ∃ name p, c.flag? = none ∧ c.rule? = some (name, p) ∧
      ∀ s : FieldSpec, s.call c = s.addRule name p := by
  cases c with
  | require => exact .inl ⟨true, rfl, rfl, fun _ => rfl⟩
  | setRequired flag => exact .inl ⟨flag, rfl, rfl, fun _ => rfl⟩
  | addTest name test => exact .inr ⟨name, .ofTest test, rfl, rfl, fun _ => rfl⟩
  | addAttempt name attempt => exact .inr ⟨name, .ofAttempt attempt, rfl, rfl, fun _ => rfl⟩
  | addTask name task => exact .inr ⟨name, task, rfl, rfl, fun _ => rfl⟩
  | addRule name p => exact .inr ⟨name, p, rfl, rfl, fun _ => rfl⟩

theorem ofCalls_snoc (calls : List SpecCall) (c : SpecCall) :
    ofCalls (calls ++ [c]) = (ofCalls calls).call c := by
  rw [ofCalls, List.foldl_append]
  rfl

/-- The last flag counts, and the rules are as if put into a table in turn. -/
theorem ofCalls_eq (calls : List SpecCall) :
    ofCalls calls = ⟨(flagsSet calls).getLast?, Table.ofList (rulesGiven calls)⟩ := by
  induction calls using List.reverseRecOn with
  | nil => rfl
  | append_singleton calls c ih =>
    rw [ofCalls_snoc, ih, flagsSet_snoc, rulesGiven_snoc]
    rcases call_cases c with ⟨flag, hflag, hrule, hcall⟩ | ⟨name, p, hflag, hrule, hcall⟩
    · rw [hcall, hflag, hrule, Option.toList_some, Option.toList_none, List.getLast?_concat,
        List.append_nil, setRequired]
    · rw [hcall, hflag, hrule, Option.toList_some, Option.toList_none, Table.ofList_snoc,
        List.append_nil, addRule]
      rfl

theorem isEmpty_ofCalls_iff {calls : List SpecCall} :
    (ofCalls calls).isEmpty = true ↔ calls = [] := by
  rcases List.eq_nil_or_concat' calls with rfl | ⟨calls', c, rfl⟩
  · exact iff_of_true rfl rfl
  · refine iff_of_false ?_ (List.concat_ne_nil c calls')
    rw [ofCalls_snoc, Bool.not_eq_true]
    rcases call_cases c with ⟨flag, -, -, hcall⟩ | ⟨name, p, -, -, hcall⟩
    · rw [hcall]
      rfl
    · rw [hcall]
      exact isEmpty_of_mem_names (OrderedTable.mem_names_insert.mpr (.inl rfl))

end FieldSpec

/-- Any edits leave a schema that is an ordered map of them. Removing a field gives what is under
its name and takes away no more than that. Any calls declare a field whose rules are an ordered map
of those given, whose flag is the last one set, and which is empty only without calls. -/
theorem Schema.follows_calls :
    (∀ edits : List (TableEdit FieldSpec), (Table.editAll (∅ : Schema) edits).Follows edits) ∧
    (∀ (schema : Schema) (name : String),
      (schema.remove name).1 = schema.get? name ∧
      (schema.remove name).2 = Table.edit schema (.erase name) ∧
      (schema.remove name).2.get? name = none ∧
      (∀ key, key ≠ name → (schema.remove name).2.get? key = schema.get? key) ∧
      (schema.remove name).2.names = schema.names.filter (· ≠ name)) ∧
    ∀ calls : List SpecCall,
      (FieldSpec.ofCalls calls).rules.Follows (SpecCall.ruleEdits calls) ∧
      (FieldSpec.ofCalls calls).required = (SpecCall.flagsSet calls).getLast? ∧
      ((FieldSpec.ofCalls calls).isEmpty = true ↔ calls = []) := by
  refine ⟨OrderedTable.follows_editAll, fun schema name => ?_, fun calls => ?_⟩
  · rw [OrderedTable.remove_eq]
    refine ⟨rfl, rfl, ?_, fun key hkey => ?_, schema.names_erase name⟩
    · rw [OrderedTable.get?_erase, if_pos rfl]
    · rw [OrderedTable.get?_erase, if_neg hkey]
  · refine ⟨?_, ?_, FieldSpec.isEmpty_ofCalls_iff⟩
    · rw [FieldSpec.ofCalls_eq, Table.ofList_eq_editAll]
      exact OrderedTable.follows_editAll (SpecCall.ruleEdits calls)
    · rw [FieldSpec.ofCalls_eq]

end FieldRules
