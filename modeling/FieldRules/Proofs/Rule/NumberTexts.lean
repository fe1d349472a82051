import FieldRules.Proofs.Binary64.Nearest
import FieldRules.Proofs.Binary64.OfText
import FieldRules.Proofs.Text.Trimmed
import FieldRules.Rule.Builtin

/-!
# Bounds on integers in texts

A text that writes an integer, between any white space, is under the same bound as the integer: both
become the double precision number that is nearest to it, also where it takes more than 53 bits.
-/

namespace FieldRules.Builtin

open Binary64 (IsWord)

/-- The parameters of a bound, and the number that each of them sets as the bound. -/
inductive SetsBound : Toml → Binary64 → Prop
  | integer (p : Int) : SetsBound (.integer p) (.ofInt p)
  | float (x : Binary64) : SetsBound (.float x) x

variable {n : Int} {before after : String}

theorem isBlank_of_mem_toString {c : Char} (h : c ∈ (toString n).toList) :
    Text.isBlank c = false := by
  have hdigit {m : Nat} (hm : c ∈ Nat.toDigits 10 m) : Text.isBlank c = false :=
    Text.isBlank_eq_false_of_isDigit (Binary64.isDigit_of_mem_toDigits hm)
  rw [Int.toString_eq_repr, Int.repr_eq_if] at h
  by_cases hsign : 0 ≤ n
  · rw [if_pos hsign, Nat.toList_repr] at h
    exact hdigit h
  · rw [if_neg hsign, String.toList_append, Nat.toList_repr, List.mem_append] at h
    rcases h with h | h
    · obtain rfl : c = '-' := List.mem_singleton.mp h
      exact Text.isBlank_eq_false_of_printable (by decide) (by decide)
    · exact hdigit h

theorem toList_toString_ne_nil : (toString n).toList ≠ [] := by
  rw [Int.toString_eq_repr, Int.repr_eq_if]
  by_cases hsign : 0 ≤ n
  · rw [if_pos hsign, Nat.toList_repr]
    exact Nat.toDigits_ne_nil
  · rw [if_neg hsign, String.toList_append]
    exact List.cons_ne_nil _ _

theorem number?_text (hn : IsWord n)
    (hbefore : ∀ c ∈ before.toList, Text.isBlank c = true)
    (hafter : ∀ c ∈ after.toList, Text.isBlank c = true) :
    number? (.text (before ++ toString n ++ after)) = some (.ofInt n) := by
  have htrim : Text.trim (before.toList ++ (toString n).toList ++ after.toList) =
      (toString n).toList :=
    Text.trim_between hbefore hafter (fun _ => isBlank_of_mem_toString) toList_toString_ne_nil
  have hdigits : (Nat.toDigits 10 n.natAbs).length ≤ 20 := by
    obtain ⟨hlow, hhigh⟩ := hn
    exact (Nat.length_toDigits_le_iff (by decide) (by decide)).mpr (by omega)
  rw [number?, String.toList_append, String.toList_append, htrim]
  exact Binary64.ofText?_toString (by omega)

/-- The rules `min` and `max` of a number are tests of the value, which judge an integer and the
text of it alike, by the nearest double precision number. -/
theorem bounds_of_integer_text {parameter : Toml} {bound : Binary64}
    (hparameter : SetsBound parameter bound) :
    ∃ least most : Json → Bool,
      Registry.builtin.build "min" (some parameter) = .ok (.ofValue least) ∧
      Registry.builtin.build "max" (some parameter) = .ok (.ofValue most) ∧
      ∀ n, IsWord n → ∀ before after : String,
        (∀ c ∈ before.toList, Text.isBlank c = true) →
        (∀ c ∈ after.toList, Text.isBlank c = true) →
          least (.text (before ++ toString n ++ after)) = least (.number (.integer n)) ∧
          most (.text (before ++ toString n ++ after)) = most (.number (.integer n)) ∧
          least (.number (.integer n)) = bound.atMost (.ofInt n) ∧
          most (.number (.integer n)) = (Binary64.ofInt n).atMost bound := by
  refine ⟨fun value => (number? value).any bound.atMost,
    fun value => (number? value).any fun x => x.atMost bound, ?_, ?_, ?_⟩
  · cases hparameter <;> rfl
  · cases hparameter <;> rfl
  · intro n hn before after hbefore hafter
    have htext := number?_text hn hbefore hafter
    have hnumber : number? (.number (.integer n)) = some (.ofInt n) := rfl
    simp only [htext, hnumber, Option.any_some, and_self]

/-- The text of an integer of 54 bits is rounded as the integer is, down to the bound. -/
theorem bounds_of_integer_text_54bits :
    SetsBound (.integer 9007199254740992) (.ofInt 9007199254740992) ∧
    IsWord 9007199254740993 ∧
    (∀ c ∈ "\u3000\t".toList, Text.isBlank c = true) ∧
    (∀ c ∈ "\n".toList, Text.isBlank c = true) ∧
    ∃ least most : Json → Bool,
      Registry.builtin.build "min" (some (.integer 9007199254740992)) = .ok (.ofValue least) ∧
      Registry.builtin.build "max" (some (.integer 9007199254740992)) = .ok (.ofValue most) ∧
      least (.text "\u3000\t9007199254740993\n") = true ∧
      most (.text "\u3000\t9007199254740993\n") = true := by
  have hparameter : SetsBound (.integer 9007199254740992) (.ofInt 9007199254740992) := .integer _
  have hn : IsWord 9007199254740993 := by decide
  have hbefore : ∀ c ∈ "\u3000\t".toList, Text.isBlank c = true := by
    simp only [Text.isBlank_eq]
    exact List.all_eq_true.mp (by decide)
  have hafter : ∀ c ∈ "\n".toList, Text.isBlank c = true := by
    simp only [Text.isBlank_eq]
    exact List.all_eq_true.mp (by decide)
  obtain ⟨least, most, hleast, hmost, hbounds⟩ := bounds_of_integer_text hparameter
  obtain ⟨hmin, hmax, hlower, hupper⟩ := hbounds _ hn _ _ hbefore hafter
  have htext : "\u3000\t" ++ toString (9007199254740993 : Int) ++ "\n" =
      "\u3000\t9007199254740993\n" := by decide +kernel
  rw [htext, hlower] at hmin
  rw [htext, hupper] at hmax
  refine ⟨hparameter, hn, hbefore, hafter, least, most, hleast, hmost, ?_, ?_⟩
  · rw [hmin]
    decide
  · rw [hmax]
    decide

end FieldRules.Builtin
