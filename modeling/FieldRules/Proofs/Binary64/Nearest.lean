import FieldRules.Binary64.Basic
import Mathlib.Tactic.Common
import Mathlib.Tactic.LinearCombination

/-!
# The nearest representable integers

Double precision numbers hold 53 bits. An integer that takes more is rounded to the nearest one that
they hold, and of two that are as near to the even one. Rounding keeps the order of integers, so a
comparison goes wrong only where two of them are rounded to one, and it takes more than 53 bits on
both sides for that.
-/

namespace FieldRules.Binary64

variable {n p d d' : Int}

/-- An integer of 64 bits, with or without sign. -/
def IsWord (n : Int) : Prop := -2 ^ 63 ≤ n ∧ n < 2 ^ 64

instance : DecidablePred IsWord := fun n =>
  inferInstanceAs (Decidable (-2 ^ 63 ≤ n ∧ n < 2 ^ 64))

/-- At most 53 bits, shifted. Exponents have room for all integers of 64 bits, and numbers with a
fraction are no rivals to round to: none of them is beyond `2 ^ 53`. -/
def Representable (d : Int) : Prop := ∃ m e : Nat, m ≤ 2 ^ 53 ∧ d.natAbs = m * 2 ^ e

/-- No representable integer is nearer to `n` than `d`; if another one is as near, `d` is the even
one of the two, a multiple of twice their distance. -/
structure Nearest (n d : Int) : Prop where
  representable : Representable d
  least : ∀ d', Representable d' → (n - d).natAbs ≤ (n - d').natAbs
  even : ∀ d', Representable d' → d' ≠ d → (n - d').natAbs = (n - d).natAbs → 2 * (d' - d) ∣ d

theorem Representable.neg (h : Representable d) : Representable (-d) := by
  obtain ⟨m, e, hm, hd⟩ := h
  exact ⟨m, e, hm, by rw [Int.natAbs_neg, hd]⟩

theorem representable_of_le (h : n.natAbs ≤ 2 ^ 53) : Representable n :=
  ⟨n.natAbs, 0, h, by simp⟩

theorem nearest_self (h : Representable n) : Nearest n n where
  representable := h
  least _ _ := by simp
  even _ _ hne hsame := absurd hsame (by omega)

namespace Nearest

theorem unique (h : Nearest n d) (h' : Nearest n d') : d = d' := by
  by_contra hne
  have hsame : (n - d').natAbs = (n - d).natAbs :=
    Nat.le_antisymm (h'.least d h.representable) (h.least d' h'.representable)
  have hd : 2 * (d' - d) ∣ d := h.even d' h'.representable (Ne.symm hne) hsame
  have hd' : 2 * (d' - d) ∣ d' := by
    have hneg : 2 * (d' - d) = -(2 * (d - d')) := by omega
    rw [hneg, Int.neg_dvd]
    exact h'.even d h.representable hne hsame.symm
  -- Both are multiples of twice their distance, and so is the distance.
  obtain ⟨c, hc⟩ := Int.dvd_sub hd' hd
  have hzero : (d' - d) * (2 * c - 1) = 0 := by linear_combination -hc
  rcases Int.mul_eq_zero.mp hzero with h₁ | h₁ <;> omega

/-- Rounding keeps the order. -/
theorem mono (h : Nearest n d) (h' : Nearest p d') (hnp : n ≤ p) : d ≤ d' := by
  rcases Int.lt_or_eq_of_le hnp with hlt | rfl
  · have h₁ := h.least d' h'.representable
    have h₂ := h'.least d h.representable
    omega
  · exact (h.unique h').le

theorem neg (h : Nearest n d) : Nearest (-n) (-d) where
  representable := h.representable.neg
  least d' hd' := by
    have hle := h.least (-d') hd'.neg
    omega
  even d' hd' hne hsame := by
    have hdvd := h.even (-d') hd'.neg (by omega) (by omega)
    have hneg : 2 * (d' - -d) = -(2 * (-d' - d)) := by omega
    rwa [hneg, Int.neg_dvd, Int.dvd_neg]

theorem eq_of_representable (h : Nearest n d) (hn : Representable n) : d = n := by
  have hle := h.least n hn
  omega

end Nearest

/-- One representable integer is the nearest to both, and neither of the two is below `2 ^ 53`. -/
structure Coincide (p n : Int) : Prop where
  left : 2 ^ 53 ≤ p.natAbs
  right : 2 ^ 53 ≤ n.natAbs
  nearest : ∃ d, Nearest p d ∧ Nearest n d

/-- Integers of at most 53 bits are told apart from all others. -/
theorem eq_or_coincide (hp : Nearest p d) (hn : Nearest n d) : p = n ∨ Coincide p n := by
  have apart {a b : Int} (ha : Nearest a d) (hb : Nearest b d) (hlt : a.natAbs < 2 ^ 53) :
      a = b := by
    obtain rfl := ha.eq_of_representable (representable_of_le hlt.le)
    have hup := hb.least (2 ^ 53) (representable_of_le (by decide))
    have hdown := hb.least (-2 ^ 53) (representable_of_le (by decide))
    exact hb.eq_of_representable (representable_of_le (by omega))
  by_cases hp53 : p.natAbs < 2 ^ 53
  · exact .inl (apart hp hn hp53)
  · by_cases hn53 : n.natAbs < 2 ^ 53
    · exact .inl (apart hn hp hn53).symm
    · exact .inr ⟨by omega, by omega, d, hp, hn⟩

/-- A representable integer is a multiple of `2 ^ k` or less than any of 53 bits that is. -/
theorem Representable.dvd_or_lt (h : Representable d) (k : Nat) :
    ((2 ^ k : Nat) : Int) ∣ d ∨ 0 < k ∧ d.natAbs < 2 ^ 52 * 2 ^ k := by
  obtain ⟨m, e, hm, hd⟩ := h
  rcases Nat.lt_or_ge e k with he | he
  · have hle : d.natAbs ≤ 2 ^ 52 * 2 ^ k := by
      calc d.natAbs = m * 2 ^ e := hd
        _ ≤ 2 ^ 53 * 2 ^ (k - 1) := Nat.mul_le_mul hm (Nat.pow_le_pow_right (by decide) (by omega))
        _ = 2 ^ 52 * 2 ^ k := by rw [← Nat.pow_add, ← Nat.pow_add]; congr 1; omega
    rcases Nat.lt_or_eq_of_le hle with hlt | heq
    · exact .inr ⟨by omega, hlt⟩
    · exact .inl (Int.natCast_dvd.mpr (heq ▸ Nat.dvd_mul_left _ _))
  · exact .inl (Int.natCast_dvd.mpr (hd ▸ Nat.dvd_mul_left_of_dvd (Nat.pow_dvd_pow 2 he) m))

theorem le_natAbs_sub_of_dvd {u : Nat} (hd : (u : Int) ∣ d) (hd' : (u : Int) ∣ d') (hne : d ≠ d') :
    u ≤ (d - d').natAbs :=
  Nat.le_of_dvd (Int.natAbs_pos.mpr (sub_ne_zero.mpr hne))
    (Int.natCast_dvd.mp (Int.dvd_sub hd hd'))

/-- Of the multiples of a step none is nearer than one that is at most half a step away. -/
theorem natAbs_sub_le_of_dvd {u : Nat} (hd : (u : Int) ∣ d) (hd' : (u : Int) ∣ d')
    (hhalf : 2 * (n - d).natAbs ≤ u) : (n - d).natAbs ≤ (n - d').natAbs := by
  by_cases hne : d' = d
  · rw [hne]
  · have hstep := le_natAbs_sub_of_dvd hd' hd hne
    omega

/-- Nor is any other representable number nearer to a number of 53 bits and more. -/
theorem nearest_of_half_step {a k : Nat} (ha : 0 < k → 2 ^ 52 * 2 ^ k ≤ a) (hd : Representable d)
    (hgrid : ((2 ^ k : Nat) : Int) ∣ d) (hhalf : 2 * ((a : Int) - d).natAbs ≤ 2 ^ k)
    (heven : 2 * ((a : Int) - d).natAbs = 2 ^ k → 2 * ((2 ^ k : Nat) : Int) ∣ d) :
    Nearest a d := by
  have hmiddle : ((2 ^ k : Nat) : Int) ∣ (2 ^ 52 * 2 ^ k : Nat) :=
    Int.natCast_dvd_natCast.mpr (Nat.dvd_mul_left _ _)
  have below {x : Int} (hk : 0 < k) (hx : x.natAbs < 2 ^ 52 * 2 ^ k) :
      ((a : Int) - d).natAbs < ((a : Int) - x).natAbs := by
    have hle := natAbs_sub_le_of_dvd hgrid hmiddle hhalf
    have hak := ha hk
    omega
  refine ⟨hd, fun x hx => ?_, fun x hx hne hsame => ?_⟩
  · rcases hx.dvd_or_lt k with hdvd | ⟨hk, hlt⟩
    · exact natAbs_sub_le_of_dvd hgrid hdvd hhalf
    · exact (below hk hlt).le
  · rcases hx.dvd_or_lt k with hdvd | ⟨hk, hlt⟩
    · have hstep := le_natAbs_sub_of_dvd hdvd hgrid hne
      have hdouble := heven (by omega)
      rcases (by omega : x - d = (2 ^ k : Nat) ∨ x - d = -(2 ^ k : Nat)) with h | h
      · rwa [h]
      · rwa [h, Int.mul_neg, Int.neg_dvd]
    · exact absurd hsame (below hk hlt).ne'

end FieldRules.Binary64
