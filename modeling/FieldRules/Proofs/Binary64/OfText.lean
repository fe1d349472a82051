import FieldRules.Binary64.Numeric
import Mathlib.Data.List.TakeDrop
import Mathlib.Data.List.TakeWhile

/-!
# Integers in texts

The decimal digits of an integer, with a minus sign if it is negative, are read as the number that
the integer is rounded to. Reading goes through the digits' value and a power of ten, which for an
integer is one, so both end in the rounding of the same ratio.
-/

namespace FieldRules.Binary64

theorem span_eq_of_forall {α : Type} {p : α → Bool} {xs : List α} (h : ∀ x ∈ xs, p x = true) :
    xs.span p = (xs, []) := by
  rw [List.span_eq_takeWhile_dropWhile, List.takeWhile_eq_self_iff.mpr h,
    List.dropWhile_eq_nil_iff.mpr h]

theorem digitsValue_eq_ofDigitChars (digits : List Char) :
    digitsValue digits = Nat.ofDigitChars 10 digits 0 := by
  rw [digitsValue, Nat.ofDigitChars_eq_foldl]
  congr 1
  funext n c
  rw [Nat.mul_comm]
  rfl

theorem digitsValue_toDigits (n : Nat) : digitsValue (Nat.toDigits 10 n) = n := by
  rw [digitsValue_eq_ofDigitChars, Nat.ofDigitChars_ten_toDigits]

theorem isDigit_of_mem_toDigits {n : Nat} {c : Char} (h : c ∈ Nat.toDigits 10 n) :
    c.isDigit = true :=
  Nat.isDigit_of_mem_toDigits (by decide) (by decide) h

theorem exists_toDigits (n : Nat) : ∃ c cs, Nat.toDigits 10 n = c :: cs ∧ c.isDigit = true := by
  obtain ⟨c, cs, hdigits⟩ := List.exists_cons_of_ne_nil (Nat.toDigits_ne_nil (n := n) (b := 10))
  exact ⟨c, cs, hdigits, isDigit_of_mem_toDigits (hdigits ▸ List.mem_cons_self)⟩

/-- Without an exponent, and with no more digits than finite numbers have, it is a ratio that is
rounded. -/
theorem ofDecimal_zero_eq_ofRatio {s : Bool} {n : Nat} (h : (Nat.toDigits 10 n).length ≤ 310) :
    ofDecimal s n 0 = ofRatio s n 1 := by
  by_cases hzero : n = 0
  · rw [ofDecimal, if_pos hzero, ofRatio, if_pos hzero]
  · have hpower : tenTo (0 : Int).toNat = 1 := rfl
    rw [ofDecimal, if_neg hzero]
    dsimp only
    rw [if_neg (by omega), if_neg (by omega), if_neg (by decide), hpower, Nat.mul_one]

variable {c : Char} {cs : List Char} {n : Nat}

theorem decimalOfText?_toDigits (s : Bool) (h : (Nat.toDigits 10 n).length ≤ 310) :
    decimalOfText? s (Nat.toDigits 10 n) = some (ofRatio s n 1) := by
  have hspan : (Nat.toDigits 10 n).span Char.isDigit = (Nat.toDigits 10 n, []) :=
    span_eq_of_forall fun _ => isDigit_of_mem_toDigits
  rw [decimalOfText?, hspan]
  simp [digitsValue_toDigits, ofDecimal_zero_eq_ofRatio h]

theorem unsignedOfText?_of_isDigit (s : Bool) (h : c.isDigit = true) :
    unsignedOfText? s (c :: cs) = decimalOfText? s (c :: cs) := by
  obtain ⟨hlow, hhigh⟩ := Char.isDigit_iff_toNat.mp h
  have hupper : ¬ ('A' ≤ c ∧ c ≤ 'Z') := by
    rintro ⟨hletter, -⟩
    have hA : 'A'.toNat ≤ '9'.toNat := Nat.le_trans hletter hhigh
    exact absurd hA (by decide)
  have hlower : lowerAscii c = c := by rw [lowerAscii, if_neg hupper]
  have hi : c ≠ 'i' := by rintro rfl; exact absurd h (by decide)
  have hn : c ≠ 'n' := by rintro rfl; exact absurd h (by decide)
  simp [unsignedOfText?, hlower, hi, hn]

theorem ofText?_of_isDigit (h : c.isDigit = true) :
    ofText? (c :: cs) = unsignedOfText? false (c :: cs) := by
  have hplus : c ≠ '+' := by rintro rfl; exact absurd h (by decide)
  have hminus : c ≠ '-' := by rintro rfl; exact absurd h (by decide)
  rw [ofText?]
  · rintro _ ⟨⟩
    exact hplus rfl
  · rintro _ ⟨⟩
    exact hminus rfl

theorem unsignedOfText?_toDigits (s : Bool) (h : (Nat.toDigits 10 n).length ≤ 310) :
    unsignedOfText? s (Nat.toDigits 10 n) = some (ofRatio s n 1) := by
  obtain ⟨c, cs, hdigits, hc⟩ := exists_toDigits n
  rw [← decimalOfText?_toDigits s h, hdigits]
  exact unsignedOfText?_of_isDigit s hc

/-- The text of an integer is read as the number that the integer is rounded to. -/
theorem ofText?_toString {n : Int} (h : (Nat.toDigits 10 n.natAbs).length ≤ 310) :
    ofText? (toString n).toList = some (ofInt n) := by
  rw [Int.toString_eq_repr, Int.repr_eq_if, ofInt]
  by_cases hsign : 0 ≤ n
  · have hneg : ¬ n < 0 := by omega
    have habs : n.toNat = n.natAbs := by omega
    obtain ⟨c, cs, hdigits, hc⟩ := exists_toDigits n.natAbs
    rw [if_pos hsign, Nat.toList_repr, habs, decide_eq_false hneg,
      ← unsignedOfText?_toDigits false h, hdigits]
    exact ofText?_of_isDigit hc
  · have hneg : n < 0 := by omega
    have habs : (-n).toNat = n.natAbs := by omega
    rw [if_neg hsign, String.toList_append, Nat.toList_repr, habs, decide_eq_true hneg,
      ← unsignedOfText?_toDigits true h]
    rfl

end FieldRules.Binary64
