import FieldRules.CommandLine.Arguments
import FieldRules.Proofs.Except
import Mathlib.Data.List.Nodup
import Mathlib.Tactic.SplitIfs
import Mathlib.Tactic.Tauto

/-!
# Arguments one after another

A command line says things one after another: which file holds the schema, the values of options,
and flags. They are all taken exactly if a schema file is among them, nothing but the fields comes
twice, and no file is named by the empty text.
-/

namespace FieldRules.CommandLine

inductive Argument
  | valued (slot : Slot) (value : String)
  | flag (flag : Flag)

namespace Argument

/-- What may be given once at most. -/
def single? : Argument → Option (Slot ⊕ Flag)
  | valued .fields _ => none
  | valued slot _ => some (.inl slot)
  | flag f => some (.inr f)

def isFilled : Argument → Bool
  | valued slot value => value ≠ "" || slot.allowsEmpty
  | flag _ => true

theorem single?_eq_schema_iff {x : Argument} :
    x.single? = some (.inl .schema) ↔ ∃ path, x = .valued .schema path := by
  rcases x with ⟨⟨⟩, value⟩ | f <;> simp [single?]

end Argument

/-- What a command line may say: a schema file is named, and nothing but the fields comes twice. -/
structure Proper (xs : List Argument) : Prop where
  file : ∃ path, .valued .schema path ∈ xs
  once : (xs.filterMap Argument.single?).Nodup
  filled : ∀ x ∈ xs, x.isFilled = true

namespace Arguments
variable {a b c : Arguments} {x : Argument} {xs : List Argument} {subject : Slot ⊕ Flag}

def take (a : Arguments) : Argument → Except Refusal Arguments
  | .valued slot value => a.give slot value
  | .flag f => a.raise f

/-- Takes an argument without asking whether it may be given. -/
def add (a : Arguments) : Argument → Arguments
  | .valued .schema value => { a with schema := some value }
  | .valued .input value => { a with input := some value }
  | .valued .fields value => { a with fields := some (a.fields.getD [] ++ pieces value) }
  | .valued .logLevel value => { a with logLevel := some value }
  | .flag .ignoreUnknown => { a with ignoreUnknown := true }
  | .flag .strict => { a with strict := true }
  | .flag .required => { a with required := true }

def given (a : Arguments) : Slot ⊕ Flag → Bool
  | .inl .schema => a.schema.isSome
  | .inl .input => a.input.isSome
  | .inl .fields => false
  | .inl .logLevel => a.logLevel.isSome
  | .inr .ignoreUnknown => a.ignoreUnknown
  | .inr .strict => a.strict
  | .inr .required => a.required

def takeAll (a : Arguments) (xs : List Argument) : Except Refusal Arguments := xs.foldlM take a

def addAll (a : Arguments) (xs : List Argument) : Arguments := xs.foldl add a

theorem addAll_cons (a : Arguments) (x : Argument) (xs : List Argument) :
    a.addAll (x :: xs) = (a.add x).addAll xs := rfl

theorem given_add : (a.add x).given subject = true ↔
    a.given subject = true ∨ x.single? = some subject := by
  rcases x with ⟨⟨⟩, value⟩ | ⟨⟨⟩⟩ <;> rcases subject with ⟨⟨⟩⟩ | ⟨⟨⟩⟩ <;>
    simp [add, given, Argument.single?]

theorem take_eq (a : Arguments) (x : Argument) :
    a.take x = if x.single?.any a.given then .error .repeated
      else if x.isFilled then .ok (a.add x) else .error .invalidValue := by
  rcases x with ⟨⟨⟩, value⟩ | ⟨⟨⟩⟩
  case valued.schema | valued.input | valued.logLevel =>
    by_cases hvalue : value = "" <;>
      simp [take, give, add, given, Argument.single?, Argument.isFilled, Slot.allowsEmpty, hvalue]
  case valued.fields =>
    simp [take, give, add, Argument.single?, Argument.isFilled, Slot.allowsEmpty]
  all_goals simp [take, raise, add, given, Argument.single?, Argument.isFilled]

theorem take_eq_ok_iff : a.take x = .ok b ↔
    (x.single?.any a.given = false ∧ x.isFilled = true) ∧ a.add x = b := by
  rw [take_eq]
  split_ifs with hgiven hfilled <;> simp [*]

theorem takeAll_nil_eq_ok_iff : a.takeAll [] = .ok b ↔ a = b := by
  simp [takeAll, pure, Except.pure]

theorem takeAll_cons_eq_ok_iff :
    a.takeAll (x :: xs) = .ok c ↔ ∃ b, a.take x = .ok b ∧ b.takeAll xs = .ok c := by
  rw [takeAll, List.foldlM_cons, bind_eq_ok_iff]
  rfl

/-- All arguments are taken unless one is given again or not filled. -/
theorem takeAll_eq_ok_iff : a.takeAll xs = .ok b ↔
    ((xs.filterMap Argument.single?).Nodup ∧
      (∀ subject ∈ xs.filterMap Argument.single?, a.given subject = false) ∧
      ∀ x ∈ xs, x.isFilled = true) ∧ a.addAll xs = b := by
  induction xs generalizing a with
  | nil => simp [takeAll_nil_eq_ok_iff, addAll]
  | cons x xs ih =>
    have hfresh (subject : Slot ⊕ Flag) : (a.add x).given subject = false ↔
        a.given subject = false ∧ x.single? ≠ some subject := by
      rw [← Bool.not_eq_true, given_add, not_or, Bool.not_eq_true]
    have hstep : a.takeAll (x :: xs) = .ok b ↔
        (x.single?.any a.given = false ∧ x.isFilled = true) ∧ (a.add x).takeAll xs = .ok b := by
      simp only [takeAll_cons_eq_ok_iff, take_eq_ok_iff, and_assoc, exists_and_left,
        exists_eq_left']
    rw [hstep, ih, List.filterMap_cons, addAll_cons, List.forall_mem_cons]
    cases hx : x.single? with
    | none =>
      simp only [hfresh, hx, Option.any_none, ne_eq, reduceCtorEq, not_false_eq_true, and_true]
      tauto
    | some subject =>
      simp only [hfresh, hx, Option.any_some, ne_eq, Option.some.injEq, List.nodup_cons,
        List.forall_mem_cons, imp_and, forall_and, List.forall_mem_ne]
      tauto

theorem given_addAll : (a.addAll xs).given subject = true ↔
    a.given subject = true ∨ subject ∈ xs.filterMap Argument.single? := by
  induction xs generalizing a with
  | nil => simp [addAll]
  | cons x xs ih =>
    rw [addAll_cons, ih, given_add, or_assoc]
    cases hx : x.single? <;> simp [eq_comm (a := subject), hx]

theorem isSome_schema_addAll :
    (addAll {} xs).schema.isSome = true ↔ ∃ path, .valued .schema path ∈ xs := by
  change given (addAll {} xs) (.inl .schema) = true ↔ _
  rw [given_addAll, List.mem_filterMap]
  simp only [Argument.single?_eq_schema_iff]
  constructor
  · rintro (hempty | ⟨_, hx, path, rfl⟩)
    · cases hempty
    · exact ⟨path, hx⟩
  · rintro ⟨path, hpath⟩
    exact .inr ⟨_, hpath, path, rfl⟩

theorem takeAll_empty_iff :
    takeAll {} xs = .ok a ∧ a.schema.isSome = true ↔ Proper xs ∧ addAll {} xs = a := by
  have hempty (subject : Slot ⊕ Flag) : given {} subject = false := by
    rcases subject with ⟨⟨⟩⟩ | ⟨⟨⟩⟩ <;> rfl
  rw [takeAll_eq_ok_iff]
  constructor
  · rintro ⟨⟨⟨honce, -, hfilled⟩, rfl⟩, hfile⟩
    exact ⟨⟨isSome_schema_addAll.mp hfile, honce, hfilled⟩, rfl⟩
  · rintro ⟨⟨hfile, honce, hfilled⟩, rfl⟩
    exact ⟨⟨⟨honce, fun _ _ => hempty _, hfilled⟩, rfl⟩, isSome_schema_addAll.mpr hfile⟩

end Arguments

end FieldRules.CommandLine
