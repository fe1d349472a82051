import FieldRules.Text.Blank
import Mathlib.Data.List.Basic

/-!
# What stays when a text is trimmed

Trimming takes away the white space at the ends of a text and nothing between them. Printable ASCII
is no white space.
-/

namespace FieldRules.Text

def blankRanges : List (Nat × Nat) :=
  [(0x9, 0xD), (0x20, 0x20), (0x85, 0x85), (0xA0, 0xA0), (0x1680, 0x1680), (0x2000, 0x200A),
    (0x2028, 0x2029), (0x202F, 0x202F), (0x205F, 0x205F), (0x3000, 0x3000)]

theorem ranges_whiteSpace : Unicode.whiteSpace.ranges = blankRanges := by
  have hlisted : (Unicode.listed.find? fun p => p.1.head? = some "White_Space").map
      (fun p => CharSet.readRanges p.2) = some blankRanges := by decide +kernel
  obtain ⟨p, hp, hranges⟩ := Option.map_eq_some_iff.mp hlisted
  rw [Unicode.whiteSpace, Unicode.listedSet, hp]
  change (CharSet.ofText p.2).ranges = blankRanges
  rw [CharSet.ofText, hranges, CharSet.ranges_normalize (by decide) (by decide)]
  decide

theorem isBlank_eq (c : Char) : isBlank c = CharSet.containsCode c.toNat blankRanges := by
  rw [isBlank, CharSet.contains, ranges_whiteSpace]

theorem isBlank_eq_false_of_printable {c : Char} (hlow : 0x21 ≤ c.toNat) (hhigh : c.toNat ≤ 0x7E) :
    isBlank c = false := by
  rw [isBlank_eq]
  generalize c.toNat = n at hlow hhigh
  simp only [blankRanges, CharSet.containsCode, Bool.and_eq_false_iff, Bool.or_eq_false_iff,
    decide_eq_false_iff_not]
  omega

theorem isBlank_eq_false_of_isDigit {c : Char} (h : c.isDigit = true) : isBlank c = false := by
  obtain ⟨hlow, hhigh⟩ := Char.isDigit_iff_toNat.mp h
  have hzero : '0'.toNat = 0x30 := rfl
  have hnine : '9'.toNat = 0x39 := rfl
  exact isBlank_eq_false_of_printable (by omega) (by omega)

variable {before cs rest after : List Char}

/-- Dropping white space stops at the first character that is none. -/
theorem dropWhile_isBlank_append (hbefore : ∀ c ∈ before, isBlank c = true)
    (hrest : ∀ c, rest.head? = some c → isBlank c = false) :
    (before ++ rest).dropWhile isBlank = rest := by
  rw [List.dropWhile_append_of_pos hbefore]
  cases rest with
  | nil => rfl
  | cons c rest => rw [List.dropWhile_cons_of_neg (by simp [hrest c rfl])]

theorem trim_between (hbefore : ∀ c ∈ before, isBlank c = true)
    (hafter : ∀ c ∈ after, isBlank c = true) (hcs : ∀ c ∈ cs, isBlank c = false) (hne : cs ≠ []) :
    trim (before ++ cs ++ after) = cs := by
  have hfirst : ∀ c, (cs ++ after).head? = some c → isBlank c = false := by
    intro c hc
    rw [List.head?_append_of_ne_nil cs hne] at hc
    exact hcs c (List.mem_of_mem_head? hc)
  have hlast : ∀ c, cs.reverse.head? = some c → isBlank c = false := by
    intro c hc
    exact hcs c (List.mem_reverse.mp (List.mem_of_mem_head? hc))
  have hreverse : ∀ c ∈ after.reverse, isBlank c = true := fun c hc =>
    hafter c (List.mem_reverse.mp hc)
  rw [trim, List.append_assoc, dropWhile_isBlank_append hbefore hfirst, List.reverse_append,
    dropWhile_isBlank_append hreverse hlast, List.reverse_reverse]

end FieldRules.Text
