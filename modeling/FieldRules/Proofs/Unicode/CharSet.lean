import FieldRules.Unicode.CharSet
import Mathlib.Data.List.Basic
import Mathlib.Tactic.Common

/-!
# The elements of a set of characters

Each operation on sets does to their ranges what its name says of their elements. Since ranges are
in order and apart from one another, sets with the same elements have the same ranges.
-/

namespace FieldRules.CharSet

def Covers (rs : List (ℕ × ℕ)) (n : ℕ) : Prop := ∃ r ∈ rs, r.1 ≤ n ∧ n ≤ r.2

instance : Membership ℕ CharSet := ⟨fun s n => Covers s.ranges n⟩

variable {s t : CharSet} {r : ℕ × ℕ} {rs : List (ℕ × ℕ)} {n : ℕ}

theorem not_covers_nil : ¬ Covers [] n := by
  rintro ⟨r, hr, -⟩
  cases hr

theorem covers_cons : Covers (r :: rs) n ↔ (r.1 ≤ n ∧ n ≤ r.2) ∨ Covers rs n :=
  List.exists_mem_cons_iff _ r rs

theorem containsCode_iff (hordered : rs.Pairwise fun r s => startsBy r s = true) :
    containsCode n rs = true ↔ Covers rs n := by
  induction rs with
  | nil => exact iff_of_false nofun not_covers_nil
  | cons r rs ih =>
    obtain ⟨hfirst, hrest⟩ := List.pairwise_cons.mp hordered
    rw [containsCode, Bool.and_eq_true, Bool.or_eq_true, ih hrest, covers_cons]
    simp only [decide_eq_true_eq]
    constructor
    · rintro ⟨hle, hin | hlater⟩
      · exact .inl ⟨hle, hin⟩
      · exact .inr hlater
    · rintro (⟨hle, hin⟩ | ⟨x, hx, hle, hin⟩)
      · exact ⟨hle, .inl hin⟩
      · have hstart : r.1 ≤ x.1 := of_decide_eq_true (hfirst x hx)
        exact ⟨Nat.le_trans hstart hle, .inr ⟨x, hx, hle, hin⟩⟩

theorem contains_iff {c : Char} : s.contains c = true ↔ c.toNat ∈ s :=
  containsCode_iff s.ordered_ranges

theorem covers_joinRanges_go (h : (r :: rs).Pairwise fun s t => startsBy s t = true) :
    Covers (joinRanges.go r rs) n ↔ Covers (r :: rs) n := by
  induction rs generalizing r with
  | nil => rfl
  | cons x rs ih =>
    obtain ⟨hr, hrest⟩ := List.pairwise_cons.mp h
    obtain ⟨hrx, hrrs⟩ := List.forall_mem_cons.mp hr
    have hstart : r.1 ≤ x.1 := of_decide_eq_true hrx
    rw [joinRanges.go]
    split_ifs with hmeet
    · have hjoined : ((r.1, max r.2 x.2) :: rs).Pairwise fun s t => startsBy s t = true :=
        List.pairwise_cons.mpr ⟨hrrs, (List.pairwise_cons.mp hrest).2⟩
      rw [ih hjoined, covers_cons, covers_cons, covers_cons, ← or_assoc]
      refine or_congr_left ?_
      dsimp only
      omega
    · rw [covers_cons, ih hrest, ← covers_cons]

theorem covers_joinRanges (h : rs.Pairwise fun s t => startsBy s t = true) :
    Covers (joinRanges rs) n ↔ Covers rs n := by
  cases rs with
  | nil => rfl
  | cons r rs => exact covers_joinRanges_go h

theorem mem_normalize : n ∈ normalize rs ↔ Covers rs n := by
  refine (covers_joinRanges (List.pairwise_mergeSort startsBy_trans startsBy_total _)).trans ?_
  constructor
  · rintro ⟨r, hr, hin⟩
    exact ⟨r, (List.mem_filter.mp (List.mem_mergeSort.mp hr)).1, hin⟩
  · rintro ⟨r, hr, hin⟩
    have hproper : r.1 ≤ r.2 := Nat.le_trans hin.1 hin.2
    exact ⟨r, List.mem_mergeSort.mpr (List.mem_filter.mpr ⟨hr, decide_eq_true hproper⟩), hin⟩

theorem mem_union : n ∈ s.union t ↔ n ∈ s ∨ n ∈ t := by
  have hordered := List.pairwise_merge startsBy_trans startsBy_total _ _ s.ordered_ranges
    t.ordered_ranges
  refine (covers_joinRanges hordered).trans ?_
  simp only [Covers, List.mem_merge, or_and_right, exists_or]
  rfl

theorem mem_unionAll {ss : List CharSet} : n ∈ unionAll ss ↔ ∃ s ∈ ss, n ∈ s := by
  rw [unionAll, mem_normalize]
  constructor
  · rintro ⟨r, hr, hin⟩
    obtain ⟨s, hs, hrs⟩ := List.mem_flatMap.mp hr
    exact ⟨s, hs, r, hrs, hin⟩
  · rintro ⟨s, hs, r, hr, hin⟩
    exact ⟨r, List.mem_flatMap.mpr ⟨s, hs, hr⟩, hin⟩

structure Separate (rs : List (ℕ × ℕ)) : Prop where
  proper : ∀ r ∈ rs, r.1 ≤ r.2
  apart : rs.Pairwise fun r s => r.2 + 1 < s.1

namespace Separate
variable {x : ℕ × ℕ} {xs : List (ℕ × ℕ)}

theorem tail (h : Separate (r :: rs)) : Separate rs :=
  ⟨(List.forall_mem_cons.mp h.proper).2, (List.pairwise_cons.mp h.apart).2⟩

theorem head_le (h : Separate (r :: rs)) : r.1 ≤ r.2 := h.proper r List.mem_cons_self

theorem lt_of_covers_tail (h : Separate (r :: rs)) (hn : Covers rs n) : r.2 + 1 < n := by
  obtain ⟨x, hx, hxn, -⟩ := hn
  exact Nat.lt_of_lt_of_le ((List.pairwise_cons.mp h.apart).1 x hx) hxn

theorem le_of_covers (h : Separate (r :: rs)) (hn : Covers (r :: rs) n) : r.1 ≤ n := by
  rcases covers_cons.mp hn with hin | hlater
  · exact hin.1
  · have := h.lt_of_covers_tail hlater
    have := h.head_le
    omega

theorem covers_tail_iff (h : Separate (r :: rs)) :
    Covers rs n ↔ Covers (r :: rs) n ∧ r.2 < n := by
  rw [covers_cons]
  constructor
  · intro hn
    have := h.lt_of_covers_tail hn
    exact ⟨.inr hn, by omega⟩
  · rintro ⟨hin | hn, hlt⟩
    · omega
    · exact hn

theorem fst_le_of_subset (hr : Separate (r :: rs)) (hx : Separate (x :: xs))
    (h : ∀ n, Covers (x :: xs) n → Covers (r :: rs) n) : r.1 ≤ x.1 :=
  hr.le_of_covers (h x.1 (covers_cons.mpr (.inl ⟨Nat.le_refl _, hx.head_le⟩)))

theorem snd_le_of_subset (hr : Separate (r :: rs)) (hstart : r.1 = x.1)
    (h : ∀ n, Covers (x :: xs) n → Covers (r :: rs) n) : x.2 ≤ r.2 := by
  by_contra hlt
  have hle := hr.head_le
  have hnext : Covers (r :: rs) (r.2 + 1) :=
    h _ (covers_cons.mpr (.inl ⟨by omega, by omega⟩))
  have hgap := hr.lt_of_covers_tail (hr.covers_tail_iff.mpr ⟨hnext, by omega⟩)
  omega

theorem eq_of_covers (hrs : Separate rs) (hxs : Separate xs)
    (h : ∀ n, Covers rs n ↔ Covers xs n) : rs = xs := by
  induction rs generalizing xs with
  | nil =>
    cases xs with
    | nil => rfl
    | cons x xs =>
      exact absurd ((h x.1).mpr (covers_cons.mpr (.inl ⟨Nat.le_refl _, hxs.head_le⟩)))
        not_covers_nil
  | cons r rs ih =>
    cases xs with
    | nil =>
      exact absurd ((h r.1).mp (covers_cons.mpr (.inl ⟨Nat.le_refl _, hrs.head_le⟩)))
        not_covers_nil
    | cons x xs =>
      have hstart : r.1 = x.1 := Nat.le_antisymm
        (hrs.fst_le_of_subset hxs fun n => (h n).mpr) (hxs.fst_le_of_subset hrs fun n => (h n).mp)
      have hend : r.2 = x.2 := Nat.le_antisymm
        (hxs.snd_le_of_subset hstart.symm fun n => (h n).mp)
        (hrs.snd_le_of_subset hstart fun n => (h n).mpr)
      obtain rfl : r = x := Prod.ext hstart hend
      congr 1
      refine ih hrs.tail hxs.tail fun n => ?_
      rw [hrs.covers_tail_iff, hxs.covers_tail_iff, h]

end Separate

theorem separate_ranges (s : CharSet) : Separate s.ranges := ⟨s.proper, s.separate⟩

theorem ext_mem (h : ∀ n, n ∈ s ↔ n ∈ t) : s = t := by
  have hranges : s.ranges = t.ranges := s.separate_ranges.eq_of_covers t.separate_ranges h
  cases s
  cases t
  cases hranges
  rfl

/-- Nothing between the start and the first range is left out, and nothing of a range is let in. -/
theorem covers_gaps {top start : ℕ} (hrs : Separate rs) (hstart : ∀ r ∈ rs, start ≤ r.1)
    (hn : n ≤ top) : Covers (gaps top start rs) n ↔ start ≤ n ∧ ¬ Covers rs n := by
  induction rs generalizing start with
  | nil =>
    rw [gaps]
    split_ifs with h
    · simp only [covers_cons, not_covers_nil, or_false, not_false_eq_true, and_true]
      exact and_iff_left hn
    · exact iff_of_false not_covers_nil fun hall => h (Nat.le_trans hall.1 hn)
  | cons r rs ih =>
    have hproper := hrs.head_le
    have hle := hstart r List.mem_cons_self
    have hafter := (List.pairwise_cons.mp hrs.apart).1
    have htail := ih hrs.tail fun x hx => Nat.le_of_lt (hafter x hx)
    rw [gaps, covers_cons]
    split_ifs
    · rw [covers_cons, htail]
      by_cases hcovers : Covers rs n
      · have := hrs.lt_of_covers_tail hcovers
        simp only [hcovers, not_true_eq_false, and_false, or_true, or_false, iff_false]
        omega
      · simp only [hcovers, not_false_eq_true, and_true, or_false]
        omega
    · rw [htail]
      by_cases hcovers : Covers rs n
      · simp only [hcovers, not_true_eq_false, and_false, or_true]
      · simp only [hcovers, not_false_eq_true, and_true, or_false]
        omega

theorem mem_complementTo {top : ℕ} (hn : n ≤ top) : n ∈ s.complementTo top ↔ n ∉ s := by
  have hgaps := covers_gaps s.separate_ranges (fun _ _ => Nat.zero_le _) hn
  exact hgaps.trans (and_iff_right n.zero_le)

variable {c : Char}

theorem toNat_le_maxCodePoint (c : Char) : c.toNat ≤ maxCodePoint := by
  rcases c.valid with h | h
  · exact Nat.le_of_lt (Nat.lt_trans h (by decide))
  · exact Nat.le_of_lt_succ h.2

theorem contains_normalize : (normalize rs).contains c = true ↔ Covers rs c.toNat :=
  contains_iff.trans mem_normalize

theorem contains_union : (s.union t).contains c = (s.contains c || t.contains c) := by
  rw [Bool.eq_iff_iff, Bool.or_eq_true, contains_iff, contains_iff, contains_iff, mem_union]

theorem contains_unionAll {ss : List CharSet} :
    (unionAll ss).contains c = ss.any fun s => s.contains c := by
  rw [Bool.eq_iff_iff, List.any_eq_true, contains_iff, mem_unionAll]
  simp only [contains_iff]

theorem contains_complement : s.complement.contains c = !s.contains c := by
  rw [Bool.eq_iff_iff, Bool.not_eq_true', ← Bool.not_eq_true, contains_iff, contains_iff]
  exact mem_complementTo (toNat_le_maxCodePoint c)

theorem contains_inter : (s.inter t).contains c = (s.contains c && t.contains c) := by
  rw [inter, contains_complement, contains_union, contains_complement, contains_complement,
    Bool.not_or, Bool.not_not, Bool.not_not]

theorem contains_diff : (s.diff t).contains c = (s.contains c && !t.contains c) := by
  rw [diff, contains_complement, contains_union, contains_complement, Bool.not_or, Bool.not_not]

theorem contains_symmDiff :
    (s.symmDiff t).contains c = (s.contains c ^^ t.contains c) := by
  rw [symmDiff, contains_union, contains_diff, contains_diff]
  cases s.contains c <;> cases t.contains c <;> rfl

end FieldRules.CharSet
