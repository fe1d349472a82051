/-!
# Sets of characters

A set of code points is a list of closed ranges, in order and apart from one another, and that they
are is part of the type. `joinRanges` makes such ranges of any that are in order of their first
elements; `gaps` makes them of the ranges of a set. All sets are made by one of the two.

`ofText` reads the form in which the tables of the library are written: hexadecimal ranges between
blanks or line ends, `41-5A` for a range, `AA` for one code point, `100-10A/2` for every other code
point of a range.
-/

namespace FieldRules

structure CharSet where
  ranges : List (Nat × Nat)
  proper : ∀ r ∈ ranges, r.1 ≤ r.2
  separate : ranges.Pairwise fun r s => r.2 + 1 < s.1
deriving DecidableEq

namespace CharSet

def maxCodePoint : Nat := 0x10FFFF

def empty : CharSet := ⟨[], nofun, .nil⟩

instance : Inhabited CharSet := ⟨empty⟩

def range (first last : Nat) : CharSet :=
  if h : first ≤ last then
    ⟨[(first, last)], List.forall_mem_singleton.2 h, List.pairwise_singleton _ _⟩
  else empty

def single (c : Char) : CharSet := range c.toNat c.toNat

def all : CharSet := range 0 maxCodePoint

def isEmpty (s : CharSet) : Bool := s.ranges.isEmpty

def startsBy (r s : Nat × Nat) : Bool := r.1 ≤ s.1

theorem startsBy_trans (r s t : Nat × Nat) (hrs : startsBy r s = true)
    (hst : startsBy s t = true) : startsBy r t = true :=
  decide_eq_true (Nat.le_trans (of_decide_eq_true hrs) (of_decide_eq_true hst))

theorem startsBy_total (r s : Nat × Nat) : (startsBy r s || startsBy s r) = true := by
  rcases Nat.le_total r.1 s.1 with h | h
  · simp [startsBy, h]
  · simp [startsBy, h]

theorem ordered_ranges (s : CharSet) : s.ranges.Pairwise fun r t => startsBy r t = true := by
  refine s.separate.imp_of_mem fun hr _ h => decide_eq_true ?_
  have := s.proper _ hr
  omega

/-- Joins ranges that are ordered by their first element wherever they meet or overlap. -/
def joinRanges : List (Nat × Nat) → List (Nat × Nat)
  | [] => []
  | r :: rs => go r rs
where
  go (r : Nat × Nat) : List (Nat × Nat) → List (Nat × Nat)
    | [] => [r]
    | s :: rs => if s.1 ≤ r.2 + 1 then go (r.1, max r.2 s.2) rs else r :: go s rs

theorem proper_joinRanges_go {r : Nat × Nat} {rs : List (Nat × Nat)} (hr : r.1 ≤ r.2)
    (hrs : ∀ s ∈ rs, s.1 ≤ s.2) : ∀ s ∈ joinRanges.go r rs, s.1 ≤ s.2 := by
  induction rs generalizing r with
  | nil => exact List.forall_mem_singleton.2 hr
  | cons s rs ih =>
    obtain ⟨hs, hrest⟩ := List.forall_mem_cons.1 hrs
    rw [joinRanges.go]
    split
    · exact ih (Nat.le_trans hr (Nat.le_max_left _ _)) hrest
    · exact List.forall_mem_cons.2 ⟨hr, ih hs hrest⟩

theorem separate_joinRanges_go {r : Nat × Nat} {rs : List (Nat × Nat)}
    (h : (r :: rs).Pairwise fun s t => startsBy s t = true) :
    ((joinRanges.go r rs).Pairwise fun s t => s.2 + 1 < t.1) ∧
      ∀ s ∈ joinRanges.go r rs, r.1 ≤ s.1 := by
  induction rs generalizing r with
  | nil => exact ⟨List.pairwise_singleton _ _, List.forall_mem_singleton.2 (Nat.le_refl _)⟩
  | cons s rs ih =>
    obtain ⟨hr, hrest⟩ := List.pairwise_cons.1 h
    obtain ⟨hrs, hrrest⟩ := List.forall_mem_cons.1 hr
    rw [joinRanges.go]
    split
    · exact ih (List.pairwise_cons.2 ⟨hrrest, (List.pairwise_cons.1 hrest).2⟩)
    next hgap =>
      obtain ⟨hseparate, hfrom⟩ := ih hrest
      refine ⟨List.pairwise_cons.2 ⟨fun t ht => ?_, hseparate⟩,
        List.forall_mem_cons.2 ⟨Nat.le_refl _, fun t ht => ?_⟩⟩
      · have := hfrom t ht
        omega
      · exact Nat.le_trans (of_decide_eq_true hrs) (hfrom t ht)

theorem proper_joinRanges {rs : List (Nat × Nat)} (h : ∀ r ∈ rs, r.1 ≤ r.2) :
    ∀ r ∈ joinRanges rs, r.1 ≤ r.2 := by
  cases rs with
  | nil => exact h
  | cons r rs =>
    obtain ⟨hr, hrs⟩ := List.forall_mem_cons.1 h
    exact proper_joinRanges_go hr hrs

theorem separate_joinRanges {rs : List (Nat × Nat)}
    (h : rs.Pairwise fun r s => startsBy r s = true) :
    (joinRanges rs).Pairwise fun r s => r.2 + 1 < s.1 := by
  cases rs with
  | nil => exact .nil
  | cons r rs => exact (separate_joinRanges_go h).1

def normalize (rs : List (Nat × Nat)) : CharSet where
  ranges := joinRanges ((rs.filter fun r => r.1 ≤ r.2).mergeSort startsBy)
  proper := proper_joinRanges fun r hr => by
    simpa using (List.mem_filter.1 (List.mem_mergeSort.1 hr)).2
  separate := separate_joinRanges (List.pairwise_mergeSort startsBy_trans startsBy_total _)

/-- Ranges in order need no sorting. -/
theorem ranges_normalize {rs : List (Nat × Nat)} (hproper : ∀ r ∈ rs, r.1 ≤ r.2)
    (hordered : rs.Pairwise fun r s => startsBy r s = true) :
    (normalize rs).ranges = joinRanges rs := by
  have hkept : rs.filter (fun r => r.1 ≤ r.2) = rs := List.filter_eq_self.2 (by simpa using hproper)
  show joinRanges ((rs.filter fun r => r.1 ≤ r.2).mergeSort startsBy) = joinRanges rs
  rw [hkept, List.mergeSort_of_pairwise hordered]

def union (s t : CharSet) : CharSet where
  ranges := joinRanges (s.ranges.merge t.ranges startsBy)
  proper := proper_joinRanges fun r hr => (List.mem_merge.1 hr).elim (s.proper r) (t.proper r)
  separate := separate_joinRanges (List.pairwise_merge startsBy_trans startsBy_total _ _
    s.ordered_ranges t.ordered_ranges)

def unionAll (ss : List CharSet) : CharSet := normalize (ss.flatMap ranges)

/-- The gaps between ranges, from a given code point to `top`. -/
def gaps (top : Nat) (start : Nat) : List (Nat × Nat) → List (Nat × Nat)
  | [] => if start ≤ top then [(start, top)] else []
  | r :: rs =>
    if start < r.1 then (start, r.1 - 1) :: gaps top (r.2 + 1) rs else gaps top (r.2 + 1) rs

theorem bounds_of_mem_gaps {top start : Nat} {rs : List (Nat × Nat)}
    (hproper : ∀ r ∈ rs, r.1 ≤ r.2) (hstart : ∀ r ∈ rs, start ≤ r.1)
    (hseparate : rs.Pairwise fun r s => r.2 + 1 < s.1) :
    ∀ x ∈ gaps top start rs, start ≤ x.1 ∧ x.1 ≤ x.2 := by
  induction rs generalizing start with
  | nil =>
    rw [gaps]
    split
    next h => exact List.forall_mem_singleton.2 ⟨Nat.le_refl _, h⟩
    · exact nofun
  | cons r rs ih =>
    obtain ⟨hr, hrest⟩ := List.forall_mem_cons.1 hproper
    obtain ⟨hafter, hseparate⟩ := List.pairwise_cons.1 hseparate
    have hle := hstart r List.mem_cons_self
    have hgaps : ∀ x ∈ gaps top (r.2 + 1) rs, start ≤ x.1 ∧ x.1 ≤ x.2 := by
      intro x hx
      obtain ⟨hx₁, hx₂⟩ := ih hrest (fun s hs => Nat.le_of_lt (hafter s hs)) hseparate x hx
      exact ⟨by omega, hx₂⟩
    rw [gaps]
    split
    next h => exact List.forall_mem_cons.2 ⟨⟨Nat.le_refl _, by omega⟩, hgaps⟩
    · exact hgaps

theorem separate_gaps {top start : Nat} {rs : List (Nat × Nat)}
    (hproper : ∀ r ∈ rs, r.1 ≤ r.2) (hseparate : rs.Pairwise fun r s => r.2 + 1 < s.1) :
    (gaps top start rs).Pairwise fun r s => r.2 + 1 < s.1 := by
  induction rs generalizing start with
  | nil =>
    rw [gaps]
    split
    · exact List.pairwise_singleton _ _
    · exact .nil
  | cons r rs ih =>
    obtain ⟨hr, hrest⟩ := List.forall_mem_cons.1 hproper
    obtain ⟨hafter, hseparate⟩ := List.pairwise_cons.1 hseparate
    rw [gaps]
    split
    · refine List.pairwise_cons.2 ⟨fun x hx => ?_, ih hrest hseparate⟩
      have := bounds_of_mem_gaps hrest (fun s hs => Nat.le_of_lt (hafter s hs)) hseparate x hx
      show r.1 - 1 + 1 < x.1
      omega
    · exact ih hrest hseparate

def complementTo (top : Nat) (s : CharSet) : CharSet where
  ranges := gaps top 0 s.ranges
  proper := fun x hx =>
    (bounds_of_mem_gaps s.proper (fun _ _ => Nat.zero_le _) s.separate x hx).2
  separate := separate_gaps s.proper s.separate

def complement (s : CharSet) : CharSet := s.complementTo maxCodePoint

def inter (s t : CharSet) : CharSet := (s.complement.union t.complement).complement

def diff (s t : CharSet) : CharSet := (s.complement.union t).complement

def symmDiff (s t : CharSet) : CharSet := (s.diff t).union (t.diff s)

def containsCode (n : Nat) : List (Nat × Nat) → Bool
  | [] => false
  | r :: rs => r.1 ≤ n && (n ≤ r.2 || containsCode n rs)

def contains (s : CharSet) (c : Char) : Bool := containsCode c.toNat s.ranges

def isWithin (s : CharSet) (top : Nat) : Bool := s.ranges.all fun r => r.2 ≤ top

def hexDigit (c : Char) : Nat := if c.isDigit then c.toNat - 48 else c.toNat - 55

def hexNumber (cs : List Char) : Nat := cs.foldl (fun n c => n * 16 + hexDigit c) 0

/-- Every code point from `first` to `last`, or every other one. -/
def stepped (first last : Nat) (alternate : Bool) : List (Nat × Nat) :=
  if alternate then
    (List.range ((last - first) / 2 + 1)).map fun i => (first + 2 * i, first + 2 * i)
  else [(first, last)]

def readItem (item : List Char) : Nat × Nat × Bool :=
  let (bounds, stride) := item.span (· ≠ '/')
  let (first, last) := bounds.span (· ≠ '-')
  let low := hexNumber first
  (low, if last.isEmpty then low else hexNumber (last.drop 1), !stride.isEmpty)

def isBetweenItems (c : Char) : Bool := c == ' ' || c == '\n'

def items (text : String) : List (List Char) :=
  (text.toList.splitBy fun c d => isBetweenItems c == isBetweenItems d).filter
    fun item => !item.all isBetweenItems

def readRanges (text : String) : List (Nat × Nat) :=
  (items text).flatMap fun item =>
    let (first, last, alternate) := readItem item
    stepped first last alternate

def ofText (text : String) : CharSet := normalize (readRanges text)

end CharSet

end FieldRules
