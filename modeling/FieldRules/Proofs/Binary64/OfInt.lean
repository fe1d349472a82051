import FieldRules.Proofs.Binary64.Nearest

/-!
# Rounding integers

`ofInt` makes of an integer of 64 bits the number that is nearest to it. Up to 53 bits the
significand holds the integer as it is; a longer one keeps its first 53 bits, rounded by the rest.
-/

namespace FieldRules.Binary64

variable {n p d d' : Int}

theorem roundHalfEven_cases (q r u : Nat) :
    roundHalfEven q r u = q ∧ 2 * r ≤ u ∧ (2 * r = u → 2 ∣ q) ∨
    roundHalfEven q r u = q + 1 ∧ u ≤ 2 * r ∧ (2 * r = u → 2 ∣ q + 1) := by
  rw [roundHalfEven]
  by_cases h : u < 2 * r ∨ 2 * r = u ∧ q % 2 = 1
  · rw [if_pos h]
    exact .inr ⟨rfl, by omega, by omega⟩
  · rw [if_neg h]
    exact .inl ⟨rfl, by omega, by omega⟩

theorem inUnits_of_neg {a : Nat} {e : Int} (he : e < 0) :
    inUnits a 1 e = (a * 2 ^ (-e).toNat, 0, 1) := by
  simp [inUnits, he, Nat.shiftLeft_eq, Nat.mod_one]

theorem inUnits_natCast {a k : Nat} : inUnits a 1 k = (a / 2 ^ k, a % 2 ^ k, 2 ^ k) := by
  have hk : ¬ (k : Int) < 0 := by omega
  simp [inUnits, hk, Nat.shiftLeft_eq]

theorem leastNormal_le_inUnits {a : Nat} (ha : a ≠ 0) :
    leastNormal ≤ (inUnits a 1 ((a.log2 : Int) - 52)).1 := by
  have hlow : 2 ^ a.log2 ≤ a := Nat.log2_self_le ha
  have hnormal : leastNormal = 2 ^ 52 := by decide
  rcases Nat.lt_or_ge a.log2 52 with hlog | hlog
  · have hexp : (-((a.log2 : Int) - 52)).toNat = 52 - a.log2 := by omega
    have hsum : a.log2 + (52 - a.log2) = 52 := by omega
    rw [inUnits_of_neg (by omega), hnormal, hexp]
    calc 2 ^ 52 = 2 ^ a.log2 * 2 ^ (52 - a.log2) := by rw [← Nat.pow_add, hsum]
      _ ≤ a * 2 ^ (52 - a.log2) := Nat.mul_le_mul_right _ hlow
  · obtain ⟨k, hk⟩ := Nat.exists_eq_add_of_le hlog
    have hexp : (a.log2 : Int) - 52 = k := by omega
    rw [hexp, inUnits_natCast, hnormal, Nat.le_div_iff_mul_le (Nat.two_pow_pos k), ← Nat.pow_add,
      ← hk]
    exact hlow

theorem exponentOf_one {a : Nat} (ha : a ≠ 0) : exponentOf a 1 = (a.log2 : Int) - 52 := by
  have hlog : Nat.log2 1 = 0 := by decide
  have hnormal := leastNormal_le_inUnits ha
  simp only [exponentOf, hlog, Nat.cast_zero, sub_zero, if_neg (Nat.not_lt.mpr hnormal)]
  exact max_eq_left (by rw [minExponent]; omega)

def signed (negative : Bool) (n : Int) : Int := if negative then -n else n

theorem Nearest.signed (h : Nearest n d) (s : Bool) :
    Nearest (Binary64.signed s n) (Binary64.signed s d) := by
  cases s with
  | false => exact h
  | true => exact h.neg

def HasValue (x : Binary64) (d : Int) : Prop :=
  ∃ s m e, x = .finite s m e ∧ units s m e = d * units false 1 0

theorem units_eq (s : Bool) (m : Nat) (e : Int) :
    units s m e = signed s (m * 2 ^ (e - minExponent).toNat : Nat) := by
  rw [units, Nat.shiftLeft_eq]
  rfl

/-- Bits move between significand and exponent. -/
theorem units_mul_two_pow {s : Bool} {m j : Nat} {e : Int} (he : minExponent ≤ e) :
    units s (m * 2 ^ j) e = units s m (e + j) := by
  have hexp : (e + j - minExponent).toNat = j + (e - minExponent).toNat := by omega
  rw [units_eq, units_eq, hexp, Nat.pow_add, Nat.mul_assoc]

theorem hasValue_of_units {s : Bool} {m k : Nat} {x : Binary64} {e : Int}
    (hx : x = .finite s m e) (he : units s m e = units s k 0) : HasValue x (signed s k) := by
  refine ⟨s, m, e, hx, ?_⟩
  rw [he, units_eq, units_eq]
  generalize 2 ^ (0 - minExponent).toNat = u
  cases s <;> simp [signed]

/-- A significand that rounding has filled up is halved, which does not change the value. -/
theorem exists_ofRatio_eq {a q r u : Nat} (s : Bool) (ha : a ≠ 0) (hlog : a.log2 ≤ 64)
    (hunits : inUnits a 1 ((a.log2 : Int) - 52) = (q, r, u)) :
    ∃ m e, ofRatio s a 1 = .finite s m e ∧
      units s m e = units s (roundHalfEven q r u) ((a.log2 : Int) - 52) := by
  have hmin : minExponent ≤ (a.log2 : Int) - 52 := by rw [minExponent]; omega
  simp only [ofRatio, if_neg ha, exponentOf_one ha, hunits]
  by_cases hfull : roundHalfEven q r u = 2 * leastNormal
  · have hmax : ¬ maxExponent < (a.log2 : Int) - 52 + 1 := by rw [maxExponent]; omega
    simp only [if_pos hfull, if_neg hmax]
    refine ⟨_, _, rfl, ?_⟩
    rw [hfull, Nat.mul_comm, ← Nat.pow_one 2, units_mul_two_pow hmin]
    rfl
  · have hmax : ¬ maxExponent < (a.log2 : Int) - 52 := by rw [maxExponent]; omega
    simp only [if_neg hfull, if_neg hmax]
    exact ⟨_, _, rfl, rfl⟩

/-- An integer of more than 53 bits is rounded to its nearest multiple of the last unit. -/
theorem nearest_roundHalfEven {a k : Nat} (hlow : 2 ^ 52 * 2 ^ k ≤ a) (hhigh : a < 2 ^ 53 * 2 ^ k) :
    Nearest a (roundHalfEven (a / 2 ^ k) (a % 2 ^ k) (2 ^ k) * 2 ^ k : Nat) := by
  have hsplit : 2 ^ k * (a / 2 ^ k) + a % 2 ^ k = a := Nat.div_add_mod a (2 ^ k)
  have hquot : a / 2 ^ k < 2 ^ 53 := (Nat.div_lt_iff_lt_mul (Nat.two_pow_pos k)).mpr hhigh
  have hrem : a % 2 ^ k < 2 ^ k := Nat.mod_lt a (Nat.two_pow_pos k)
  have hcases := roundHalfEven_cases (a / 2 ^ k) (a % 2 ^ k) (2 ^ k)
  generalize roundHalfEven (a / 2 ^ k) (a % 2 ^ k) (2 ^ k) = m at hcases
  have hm : m ≤ 2 ^ 53 := by omega
  have hdist : 2 * ((a : Int) - (m * 2 ^ k : Nat)).natAbs ≤ 2 ^ k ∧
      (2 * ((a : Int) - (m * 2 ^ k : Nat)).natAbs = 2 ^ k → 2 ∣ m) := by
    rcases hcases with ⟨rfl, hr, heven⟩ | ⟨rfl, hr, heven⟩
    · rw [Nat.mul_comm (a / 2 ^ k)]
      omega
    · rw [Nat.add_mul, Nat.one_mul, Nat.mul_comm (a / 2 ^ k)]
      omega
  refine nearest_of_half_step (fun _ => hlow) ⟨m, k, hm, Int.natAbs_natCast _⟩
    (Int.natCast_dvd_natCast.mpr (Nat.dvd_mul_left _ _)) hdist.1 fun htie => ?_
  exact_mod_cast Nat.mul_dvd_mul_right (hdist.2 htie) (2 ^ k)

theorem exists_nearest_ofRatio {a : Nat} (s : Bool) (ha : a ≤ 2 ^ 64) :
    ∃ d : Nat, Nearest a d ∧ HasValue (ofRatio s a 1) (signed s d) := by
  by_cases hzero : a = 0
  · subst hzero
    exact ⟨0, nearest_self (representable_of_le (by decide)),
      s, 0, minExponent, rfl, by cases s <;> rfl⟩
  have hlog : a.log2 < 65 := (Nat.log2_lt hzero).mpr (by omega)
  rcases Nat.lt_or_ge a.log2 52 with hsmall | hlarge
  · obtain ⟨m, e, hx, he⟩ := exists_ofRatio_eq s hzero (by omega) (inUnits_of_neg (by omega))
    have hbits : a < 2 ^ 52 := (Nat.log2_lt hzero).mp hsmall
    refine ⟨a, nearest_self (representable_of_le (by omega)), hasValue_of_units hx ?_⟩
    rw [he, roundHalfEven, if_neg (by omega), units_mul_two_pow (by rw [minExponent]; omega)]
    congr 1
    omega
  · obtain ⟨k, hk⟩ := Nat.exists_eq_add_of_le hlarge
    have hexp : (a.log2 : Int) - 52 = k := by omega
    obtain ⟨m, e, hx, he⟩ := exists_ofRatio_eq s hzero (by omega) (hexp ▸ inUnits_natCast)
    have hlow : 2 ^ 52 * 2 ^ k ≤ a := by
      rw [← Nat.pow_add, ← hk]
      exact Nat.log2_self_le hzero
    have hhigh : a < 2 ^ 53 * 2 ^ k := by
      rw [← Nat.pow_add]
      exact (Nat.log2_lt hzero).mp (by omega)
    refine ⟨_, nearest_roundHalfEven hlow hhigh, hasValue_of_units hx ?_⟩
    rw [he, hexp, units_mul_two_pow (by decide), Int.zero_add]

theorem exists_nearest_ofInt (hn : IsWord n) : ∃ d, Nearest n d ∧ HasValue (ofInt n) d := by
  have hsigned : signed (decide (n < 0)) n.natAbs = n := by
    simp only [signed, decide_eq_true_eq]
    split <;> omega
  obtain ⟨hlow, hhigh⟩ := hn
  have hsize : n.natAbs ≤ 2 ^ 64 := by omega
  obtain ⟨d, hd, hvalue⟩ := exists_nearest_ofRatio (decide (n < 0)) hsize
  have hnearest := hd.signed (decide (n < 0))
  rw [hsigned] at hnearest
  exact ⟨_, hnearest, hvalue⟩

theorem order?_of_hasValue {x y : Binary64} (hx : HasValue x d) (hy : HasValue y d') :
    order? x y = some (compare d d') := by
  obtain ⟨s, m, e, rfl, he⟩ := hx
  obtain ⟨t, l, f, rfl, hf⟩ := hy
  have hone : 0 < units false 1 0 := by decide
  rw [order?, he, hf]
  rcases lt_trichotomy d d' with hlt | rfl | hgt
  · rw [compare_lt_iff_lt.mpr hlt, compare_lt_iff_lt.mpr (Int.mul_lt_mul_of_pos_right hlt hone)]
  · rw [compare_eq_iff_eq.mpr rfl, compare_eq_iff_eq.mpr rfl]
  · rw [compare_gt_iff_gt.mpr hgt, compare_gt_iff_gt.mpr (Int.mul_lt_mul_of_pos_right hgt hone)]

theorem atMost_of_hasValue {x y : Binary64} (hx : HasValue x d) (hy : HasValue y d') :
    x.atMost y = true ↔ d ≤ d' := by
  rw [atMost, order?_of_hasValue hx hy, ← compare_le_iff_le]
  cases compare d d' <;> decide

theorem same_of_hasValue {x y : Binary64} (hx : HasValue x d) (hy : HasValue y d') :
    x.same y = true ↔ d = d' := by
  rw [same, order?_of_hasValue hx hy, ← compare_eq_iff_eq]
  simp

theorem atMost_ofInt_iff (hp : IsWord p) (hn : IsWord n) :
    (ofInt p).atMost (ofInt n) = true ↔ p ≤ n ∨ Coincide p n := by
  obtain ⟨d, hpd, hd⟩ := exists_nearest_ofInt hp
  obtain ⟨d', hnd, hd'⟩ := exists_nearest_ofInt hn
  rw [atMost_of_hasValue hd hd']
  constructor
  · intro hle
    by_cases hpn : p ≤ n
    · exact .inl hpn
    · have hge : d' ≤ d := hnd.mono hpd (by omega)
      obtain rfl : d = d' := Int.le_antisymm hle hge
      exact .inr ((eq_or_coincide hpd hnd).resolve_left (by omega))
  · rintro (hle | ⟨-, -, c, hpc, hnc⟩)
    · exact hpd.mono hnd hle
    · rw [hpd.unique hpc, hnd.unique hnc]

theorem same_ofInt_iff (hp : IsWord p) (hn : IsWord n) :
    (ofInt p).same (ofInt n) = true ↔ p = n ∨ Coincide p n := by
  obtain ⟨d, hpd, hd⟩ := exists_nearest_ofInt hp
  obtain ⟨d', hnd, hd'⟩ := exists_nearest_ofInt hn
  rw [same_of_hasValue hd hd']
  constructor
  · rintro rfl
    exact eq_or_coincide hpd hnd
  · rintro (rfl | ⟨-, -, c, hpc, hnc⟩)
    · exact hpd.unique hnd
    · rw [hpd.unique hpc, hnd.unique hnc]

theorem same_self {x : Binary64} (h : x ≠ .nan) : x.same x = true := by
  cases x with
  | nan => exact absurd rfl h
  | infinite s => cases s <;> rfl
  | finite s m e => simp [same, order?]

theorem ofInt_ne_nan (n : Int) : ofInt n ≠ .nan := by
  rw [ofInt, ofRatio]
  split
  · simp [zero]
  · dsimp only
    split <;> split <;> simp

end FieldRules.Binary64
