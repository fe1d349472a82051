import FieldRules.Binary64.Numeric
import FieldRules.Proofs.Binary64.OfInt
import Mathlib.Algebra.Order.Field.Power
import Mathlib.Algebra.Order.Floor.Semifield
import Mathlib.Data.Rat.Floor
import Mathlib.Tactic.FieldSimp
import Mathlib.Tactic.GCongr
import Mathlib.Tactic.Linarith

/-!
# Numbers in canonical form

Every finite number that the operations give has a significand below `2 ^ 53` and an exponent in
range, and only the numbers with the least exponent have less than 53 bits. So two of them with one
value have one significand and one exponent.
-/

namespace FieldRules.Binary64

def IsCanonical : Binary64 → Prop
  | .finite _ m e =>
    m < 2 * leastNormal ∧ minExponent ≤ e ∧ e ≤ maxExponent ∧ (e = minExponent ∨ leastNormal ≤ m)
  | _ => True

variable {n d : ℕ} {e : Int} {s : Bool} {x y : Binary64}

theorem isCanonical_zero (s : Bool) : (zero s).IsCanonical := by
  refine ⟨?_, le_refl _, ?_, .inl rfl⟩ <;> decide

/-- A ratio in units of a power of two is rounded down. -/
theorem inUnits_eq_floor (n d : ℕ) (e : Int) :
    (inUnits n d e).1 = ⌊(n / d : ℚ) / 2 ^ e⌋₊ := by
  rw [inUnits]
  by_cases he : e < 0
  · obtain ⟨k, rfl⟩ : ∃ k : ℕ, e = -k := ⟨(-e).toNat, by omega⟩
    have hk : (- -(k : Int)).toNat = k := by omega
    simp only [if_pos he, hk, Nat.shiftLeft_eq]
    rw [← Nat.floor_div_eq_div (K := ℚ)]
    congr 1
    rw [zpow_neg, zpow_natCast]
    push_cast
    field_simp
  · obtain ⟨k, rfl⟩ : ∃ k : ℕ, e = k := ⟨e.toNat, by omega⟩
    simp only [if_neg he, Int.toNat_natCast, Nat.shiftLeft_eq]
    rw [← Nat.floor_div_eq_div (K := ℚ)]
    congr 1
    rw [zpow_natCast]
    push_cast
    rw [div_div]

theorem inUnits_lt_iff {k : ℕ} (hk : k ≠ 0) :
    (inUnits n d e).1 < k ↔ (n / d : ℚ) / 2 ^ e < k := by
  rw [inUnits_eq_floor, Nat.floor_lt' hk]

theorem inUnits_sub_one_lt_iff {k : ℕ} (hk : k ≠ 0) :
    (inUnits n d (e - 1)).1 < 2 * k ↔ (inUnits n d e).1 < k := by
  have hunit : (n / d : ℚ) / 2 ^ (e - 1) = 2 * ((n / d : ℚ) / 2 ^ e) := by
    rw [zpow_sub_one₀ (by norm_num)]
    field_simp
  rw [inUnits_lt_iff hk, inUnits_lt_iff (by omega), hunit]
  push_cast
  constructor <;> intro h <;> linarith

theorem inUnits_anti {e' : Int} (he : e ≤ e') : (inUnits n d e').1 ≤ (inUnits n d e).1 := by
  rw [inUnits_eq_floor, inUnits_eq_floor]
  gcongr
  norm_num

theorem two_pow_log2_le {n : ℕ} (h : n ≠ 0) : (2 : ℚ) ^ n.log2 ≤ n := by
  exact_mod_cast Nat.log2_self_le h

theorem lt_two_pow_log2 {n : ℕ} (h : n ≠ 0) : (n : ℚ) < 2 ^ (n.log2 + 1) := by
  exact_mod_cast (Nat.log2_lt h).mp (Nat.lt_succ_self _)

/-- The difference of the logarithms places a ratio between two powers of two. -/
theorem ratio_bounds (hn : n ≠ 0) (hd : d ≠ 0) :
    (2 : ℚ) ^ ((n.log2 : Int) - d.log2 - 1) < n / d ∧
      (n / d : ℚ) < 2 ^ ((n.log2 : Int) - d.log2 + 1) := by
  have hpos : (0 : ℚ) < d := by positivity
  constructor
  · rw [lt_div_iff₀ hpos]
    calc (2 : ℚ) ^ ((n.log2 : Int) - d.log2 - 1) * d
        < 2 ^ ((n.log2 : Int) - d.log2 - 1) * 2 ^ (d.log2 + 1) := by
          gcongr
          exact lt_two_pow_log2 hd
      _ = 2 ^ n.log2 := by
          rw [← zpow_natCast, ← zpow_natCast, ← zpow_add₀ (by norm_num)]
          congr 1
          push_cast
          ring
      _ ≤ n := two_pow_log2_le hn
  · rw [div_lt_iff₀ hpos]
    calc (n : ℚ) < 2 ^ (n.log2 + 1) := lt_two_pow_log2 hn
      _ = 2 ^ ((n.log2 : Int) - d.log2 + 1) * 2 ^ d.log2 := by
          rw [← zpow_natCast, ← zpow_natCast, ← zpow_add₀ (by norm_num)]
          congr 1
          push_cast
          ring
      _ ≤ 2 ^ ((n.log2 : Int) - d.log2 + 1) * d := by
          gcongr
          exact two_pow_log2_le hd

theorem ratio_inUnits_bounds (hn : n ≠ 0) (hd : d ≠ 0) :
    (inUnits n d ((n.log2 : Int) - d.log2 - 52)).1 < 2 * leastNormal ∧
      leastNormal ≤ (inUnits n d ((n.log2 : Int) - d.log2 - 52 - 1)).1 := by
  obtain ⟨hlow, hhigh⟩ := ratio_bounds hn hd
  have hnormal : (leastNormal : ℚ) = 2 ^ (52 : Int) := by norm_num [leastNormal]
  constructor
  · rw [inUnits_lt_iff (by decide), div_lt_iff₀ (by positivity)]
    calc (n / d : ℚ) < 2 ^ ((n.log2 : Int) - d.log2 + 1) := hhigh
      _ = ((2 * leastNormal : ℕ) : ℚ) * 2 ^ ((n.log2 : Int) - d.log2 - 52) := by
          rw [Nat.cast_mul, hnormal, Nat.cast_two, ← zpow_one_add₀ (by norm_num),
            ← zpow_add₀ (by norm_num)]
          congr 1
          ring
  · rw [← Nat.not_lt, inUnits_lt_iff (by decide), not_lt, le_div_iff₀ (by positivity)]
    calc (leastNormal : ℚ) * 2 ^ ((n.log2 : Int) - d.log2 - 52 - 1)
        = 2 ^ ((n.log2 : Int) - d.log2 - 1) := by
          rw [hnormal, ← zpow_add₀ (by norm_num)]
          congr 1
          ring
      _ ≤ n / d := hlow.le

/-- The quotient that is rounded has 53 bits, or less of them at the least exponent. -/
theorem exponentOf_spec (hn : n ≠ 0) (hd : d ≠ 0) :
    minExponent ≤ exponentOf n d ∧ (inUnits n d (exponentOf n d)).1 < 2 * leastNormal ∧
      (exponentOf n d = minExponent ∨ leastNormal ≤ (inUnits n d (exponentOf n d)).1) := by
  obtain ⟨hhigh, hlow⟩ := ratio_inUnits_bounds hn hd
  rw [exponentOf]
  generalize (n.log2 : Int) - d.log2 - 52 = start at hhigh hlow
  have hnormal : ∃ e, (if (inUnits n d start).1 < leastNormal then start - 1 else start) = e ∧
      (inUnits n d e).1 < 2 * leastNormal ∧ leastNormal ≤ (inUnits n d e).1 := by
    by_cases hless : (inUnits n d start).1 < leastNormal
    · exact ⟨_, if_pos hless, (inUnits_sub_one_lt_iff (by decide)).mpr hless, hlow⟩
    · exact ⟨_, if_neg hless, hhigh, Nat.not_lt.mp hless⟩
  obtain ⟨e, he, hsmall, hlarge⟩ := hnormal
  simp only [he]
  rcases le_total e minExponent with hmin | hmin
  · rw [max_eq_right hmin]
    exact ⟨le_refl _, (inUnits_anti hmin).trans_lt hsmall, .inl rfl⟩
  · rw [max_eq_left hmin]
    exact ⟨hmin, hsmall, .inr hlarge⟩

theorem isCanonical_ofRatio (s : Bool) (n : ℕ) (hd : d ≠ 0) : (ofRatio s n d).IsCanonical := by
  by_cases hn : n = 0
  · rw [ofRatio, if_pos hn]
    exact isCanonical_zero s
  obtain ⟨hmin, hsmall, hlarge⟩ := exponentOf_spec hn hd
  rw [ofRatio, if_neg hn]
  generalize exponentOf n d = e at hmin hsmall hlarge
  cases hunits : inUnits n d e with
  | mk q rest =>
    obtain ⟨r, u⟩ := rest
    rw [hunits] at hsmall hlarge
    have hrounded : roundHalfEven q r u = q ∨ roundHalfEven q r u = q + 1 := by
      rcases roundHalfEven_cases q r u with h | h
      · exact .inl h.1
      · exact .inr h.1
    simp only [hunits]
    generalize roundHalfEven q r u = m at hrounded
    by_cases hfull : m = 2 * leastNormal
    · simp only [if_pos hfull]
      split_ifs with hmax
      · trivial
      · exact ⟨by decide, by omega, by omega, .inr (le_refl _)⟩
    · simp only [if_neg hfull]
      split_ifs with hmax
      · trivial
      · exact ⟨by omega, hmin, by omega, hlarge.imp_right (by omega)⟩

theorem isCanonical_ofInt (k : Int) : (ofInt k).IsCanonical := isCanonical_ofRatio _ _ one_ne_zero

theorem tenTo_ne_zero (k : ℕ) : tenTo k ≠ 0 := Nat.ne_of_gt (Nat.pow_pos (by decide))

theorem isCanonical_ofDecimal (s : Bool) (m : ℕ) (e : Int) : (ofDecimal s m e).IsCanonical := by
  rw [ofDecimal]
  dsimp only
  split_ifs
  · exact isCanonical_zero s
  · trivial
  · exact isCanonical_zero s
  · exact isCanonical_ofRatio s m (tenTo_ne_zero _)
  · exact isCanonical_ofRatio s _ one_ne_zero

theorem IsCanonical.negate (h : x.IsCanonical) : x.negate.IsCanonical := by
  cases x <;> exact h

theorem isCanonical_scaleUp (x y : Binary64) : (x.scaleUp y).IsCanonical := by
  cases x <;> cases y <;> try trivial
  rw [scaleUp]
  split_ifs
  · exact isCanonical_ofRatio _ _ (by simp [Nat.shiftLeft_eq])
  · exact isCanonical_ofRatio _ _ one_ne_zero

theorem isCanonical_scaleDown (x : Binary64) (hy : y.isZero = false) :
    (x.scaleDown y).IsCanonical := by
  cases x <;> cases y <;> try trivial
  next n _ =>
    have hn : n ≠ 0 := by simpa [isZero] using hy
    rw [scaleDown]
    split_ifs
    · exact isCanonical_ofRatio _ _ (by simp [Nat.shiftLeft_eq, hn])
    · exact isCanonical_ofRatio _ _ hn

theorem isCanonical_of_decimalOfText? {cs : List Char} (h : decimalOfText? s cs = some x) :
    x.IsCanonical := by
  unfold decimalOfText? at h
  dsimp only at h
  -- With or without a point, and whatever the exponent is read from, the end is the same.
  split at h <;> split_ifs at h <;> split at h
  all_goals
    obtain ⟨e, -, hx⟩ := Option.bind_eq_some_iff.mp h
    obtain rfl := Option.some.inj hx
    exact isCanonical_ofDecimal _ _ _

theorem isCanonical_of_unsignedOfText? {cs : List Char} (h : unsignedOfText? s cs = some x) :
    x.IsCanonical := by
  rw [unsignedOfText?] at h
  split_ifs at h
  · obtain rfl := Option.some.inj h
    trivial
  · obtain rfl := Option.some.inj h
    trivial
  · exact isCanonical_of_decimalOfText? h

theorem isCanonical_of_ofText? {cs : List Char} (h : ofText? cs = some x) : x.IsCanonical := by
  unfold ofText? at h
  split at h <;> exact isCanonical_of_unsignedOfText? h

theorem units_natAbs (s : Bool) (m : ℕ) (e : Int) :
    (units s m e).natAbs = m * 2 ^ (e - minExponent).toNat := by
  rw [units_eq, signed]
  split_ifs <;> simp [Int.natAbs_mul, Int.natAbs_pow]

/-- Significand and exponent are settled by the value. -/
theorem IsCanonical.eq_of_units {t : Bool} {m k : ℕ} {f : Int}
    (hx : (finite s m e).IsCanonical) (hy : (finite t k f).IsCanonical)
    (hvalue : units s m e = units t k f) : m = k ∧ e = f := by
  wlog hle : e ≤ f generalizing s t m k e f
  · obtain ⟨hm, he⟩ := this hy hx hvalue.symm (by omega)
    exact ⟨hm.symm, he.symm⟩
  obtain ⟨hm, hmin, -, -⟩ := hx
  obtain ⟨-, -, -, hnormal⟩ := hy
  have habs := congrArg Int.natAbs hvalue
  obtain ⟨j, hj⟩ : ∃ j : ℕ, (f - minExponent).toNat = j + (e - minExponent).toNat ∧ f = e + j :=
    ⟨(f - e).toNat, by omega, by omega⟩
  rw [units_natAbs, units_natAbs, hj.1, Nat.pow_add, ← Nat.mul_assoc,
    Nat.mul_left_inj (Nat.two_pow_pos _).ne'] at habs
  cases j with
  | zero => exact ⟨by simpa using habs, by omega⟩
  | succ j =>
    -- A larger exponent takes 53 bits, and the significand of the smaller one would have more.
    have hk : leastNormal ≤ k := hnormal.resolve_left (by omega)
    have hpow : 2 ≤ 2 ^ (j + 1) := Nat.le_self_pow (by omega) 2
    have hlarge : leastNormal * 2 ≤ k * 2 ^ (j + 1) := Nat.mul_le_mul hk hpow
    omega

end FieldRules.Binary64
