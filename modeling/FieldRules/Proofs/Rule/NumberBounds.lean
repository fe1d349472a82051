import FieldRules.Proofs.Binary64.OfInt
import FieldRules.Rule.Builtin

/-!
# Bounds on integers

A bound and the value under it are compared as double precision numbers. No integer within its bound
is refused; one beyond it passes only if both are too long for 53 bits and become the same number.
-/

namespace FieldRules.Builtin

open Binary64 (IsWord Coincide)

/-- The rules `min` and `max` of an integer are tests of the value, and of integers they accept
those that keep the bound and those that coincide with it. -/
theorem bounds_of_integer {p : Int} (hp : IsWord p) :
    ∃ least most : Json → Bool,
      Registry.builtin.build "min" (some (.integer p)) = .ok (.ofValue least) ∧
      Registry.builtin.build "max" (some (.integer p)) = .ok (.ofValue most) ∧
      ∀ n, IsWord n →
        (least (.number (.integer n)) = true ↔ p ≤ n ∨ Coincide p n) ∧
        (most (.number (.integer n)) = true ↔ n ≤ p ∨ Coincide n p) := by
  refine ⟨fun value => (number? value).any (Binary64.ofInt p).atMost,
    fun value => (number? value).any fun x => x.atMost (.ofInt p), rfl, rfl, fun n hn => ?_⟩
  exact ⟨Binary64.atMost_ofInt_iff hp hn, Binary64.atMost_ofInt_iff hn hp⟩

/-- Below `2 ^ 53` the value is told apart from a bound of 54 bits. -/
theorem bounds_of_integer_54bits :
    IsWord 9007199254740993 ∧ IsWord 9007199254740991 ∧
    ∃ least most : Json → Bool,
      Registry.builtin.build "min" (some (.integer 9007199254740993)) = .ok (.ofValue least) ∧
      Registry.builtin.build "max" (some (.integer 9007199254740993)) = .ok (.ofValue most) ∧
      least (.number (.integer 9007199254740991)) = false ∧
      most (.number (.integer 9007199254740991)) = true := by
  have hp : IsWord 9007199254740993 := by decide
  have hn : IsWord 9007199254740991 := by decide
  obtain ⟨least, most, hleast, hmost, hbounds⟩ := bounds_of_integer hp
  obtain ⟨hmin, hmax⟩ := hbounds _ hn
  refine ⟨hp, hn, least, most, hleast, hmost, ?_, hmax.mpr (.inl (by decide))⟩
  rw [← Bool.not_eq_true, hmin]
  rintro (hle | hcoincide)
  · exact absurd hle (by decide)
  · exact absurd hcoincide.right (by decide)

/-- `2 ^ 53` passes for at least `2 ^ 53 + 1`, and that for at most `2 ^ 53`. -/
theorem bounds_of_integer_not_exact :
    ∃ least most : Json → Bool,
      Registry.builtin.build "min" (some (.integer 9007199254740993)) = .ok (.ofValue least) ∧
      Registry.builtin.build "max" (some (.integer 9007199254740992)) = .ok (.ofValue most) ∧
      least (.number (.integer 9007199254740992)) = true ∧
      most (.number (.integer 9007199254740993)) = true ∧
      ¬ (9007199254740993 : Int) ≤ 9007199254740992 :=
  ⟨_, _, rfl, rfl, by decide, by decide, by decide⟩

end FieldRules.Builtin
