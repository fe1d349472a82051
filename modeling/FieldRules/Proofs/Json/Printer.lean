import FieldRules.Json.Printer
import FieldRules.Json.Reader
import Mathlib.Data.List.Basic
import Mathlib.Tactic.SplitIfs

/-!
# What the printer writes

The text of a value is one line: it has no newline and no other character below the blank. Outside
of its quoted parts there is not even a blank, so a value is written as closely as it can be.
-/

namespace FieldRules.Json

inductive EscapedAs (c : Char) : List Char → Prop
  | itself (hquote : c ≠ '"') (hbackslash : c ≠ '\\') (hcode : 0x20 ≤ c.toNat) : EscapedAs c [c]
  | letter {x : Char} (hletter : simpleEscape? x = some c) (hcode : 0x20 ≤ x.toNat) :
    EscapedAs c ['\\', x]
  | code (hcode : c.toNat < 0x20) :
    EscapedAs c ['\\', 'u', '0', '0', hexDigit (c.toNat / 16), hexDigit (c.toNat % 16)]

theorem escapedAs_escape (c : Char) : EscapedAs c (escape c) := by
  unfold escape
  split
  case h_6 hquote hbackslash _ _ _ =>
    split_ifs with hbackspace hfeed hlow
    · exact .letter (by rw [← Char.ofNat_toNat c, hbackspace]; rfl) (by decide)
    · exact .letter (by rw [← Char.ofNat_toNat c, hfeed]; rfl) (by decide)
    · exact .code hlow
    · exact .itself hquote hbackslash (by omega)
  all_goals exact .letter rfl (by decide)

theorem hexDigit_bounds : ∀ n < 16,
    0x20 ≤ (hexDigit n).toNat ∧ hexDigit n ≠ '"' ∧ hexDigit n ≠ '\\' := by decide

theorem le_of_mem_escape {c x : Char} (h : x ∈ escape c) : 0x20 ≤ x.toNat := by
  have hescaped := escapedAs_escape c
  generalize escape c = written at h hescaped
  cases hescaped with
  | itself _ _ hcode =>
    obtain rfl := List.mem_singleton.mp h
    exact hcode
  | letter _ hcode =>
    rcases List.mem_pair.mp h with rfl | rfl
    · decide
    · exact hcode
  | code hcode =>
    have hhigh := hexDigit_bounds (c.toNat / 16) (by omega)
    have hlow := hexDigit_bounds (c.toNat % 16) (by omega)
    simp only [List.mem_cons, List.not_mem_nil, or_false] at h
    rcases h with rfl | rfl | rfl | rfl | rfl | rfl
    · decide
    · decide
    · decide
    · decide
    · exact hhigh.1
    · exact hlow.1

theorem lt_of_isDigit {c : Char} (h : c.isDigit = true) : 0x20 < c.toNat := by
  have hzero : (0x30 : ℕ) ≤ c.toNat := (Char.isDigit_iff_toNat.mp h).1
  omega

theorem isBlank_of_lt {c : Char} (h : 0x20 < c.toNat) : isBlank c = false := by
  have hne (x : Char) (hx : x.toNat ≤ 0x20) : c ≠ x := by
    rintro rfl
    omega
  simp [isBlank, hne ' ' (by decide), hne '\t' (by decide), hne '\n' (by decide),
    hne '\r' (by decide)]

/-- What stands outside of the quoted parts of a text, which may begin inside of one. -/
def unquoted : (inside : Bool) → List Char → List Char
  | _, [] => []
  | false, '"' :: cs => unquoted true cs
  | false, c :: cs => c :: unquoted false cs
  | true, '"' :: cs => unquoted false cs
  | true, '\\' :: _ :: cs => unquoted true cs
  | true, _ :: cs => unquoted true cs

theorem unquoted_false_cons {c : Char} (h : c ≠ '"') (cs : List Char) :
    unquoted false (c :: cs) = c :: unquoted false cs := by
  rw [unquoted]
  exact h

theorem unquoted_true_cons {c : Char} (hquote : c ≠ '"') (hbackslash : c ≠ '\\')
    (cs : List Char) : unquoted true (c :: cs) = unquoted true cs := by
  rw [unquoted]
  · exact hquote
  · intro _ _ hc
    exact absurd hc hbackslash

theorem unquoted_escape (c : Char) (rest : List Char) :
    unquoted true (escape c ++ rest) = unquoted true rest := by
  have hescaped := escapedAs_escape c
  generalize escape c = written at hescaped
  cases hescaped with
  | itself hquote hbackslash _ => exact unquoted_true_cons hquote hbackslash rest
  | letter => rfl
  | code hcode =>
    obtain ⟨-, hquote, hbackslash⟩ := hexDigit_bounds (c.toNat / 16) (by omega)
    obtain ⟨-, hquote', hbackslash'⟩ := hexDigit_bounds (c.toNat % 16) (by omega)
    change unquoted true (hexDigit (c.toNat / 16) :: hexDigit (c.toNat % 16) :: rest) = _
    rw [unquoted_true_cons hquote hbackslash, unquoted_true_cons hquote' hbackslash']

theorem toList_quoted (s : String) :
    (quoted s).toList = '"' :: (s.toList.flatMap escape ++ ['"']) := by
  rw [quoted, String.toList_ofList]
  rfl

theorem unquoted_quoted (s : String) (rest : List Char) :
    unquoted false ((quoted s).toList ++ rest) = unquoted false rest := by
  have hinside (cs : List Char) :
      unquoted true (cs.flatMap escape ++ '"' :: rest) = unquoted false rest := by
    induction cs with
    | nil => rfl
    | cons c cs ih => rw [List.flatMap_cons, List.append_assoc, unquoted_escape, ih]
  rw [toList_quoted, List.cons_append, List.append_assoc]
  exact hinside s.toList

theorem unquoted_quoted_self (s : String) : unquoted false (quoted s).toList = [] := by
  simpa [unquoted] using unquoted_quoted s []

/-- A piece of a line, with every quote closed and no blank outside of quotes. -/
structure IsTight (cs : List Char) : Prop where
  le_toNat : ∀ c ∈ cs, 0x20 ≤ c.toNat
  unquoted_append : ∀ rest, unquoted false (cs ++ rest) = unquoted false cs ++ unquoted false rest
  isBlank_eq_false : ∀ c ∈ unquoted false cs, isBlank c = false

namespace IsTight
variable {cs ds : List Char}

theorem nil : IsTight [] where
  le_toNat := nofun
  unquoted_append := fun _ => rfl
  isBlank_eq_false := nofun

theorem append (hcs : IsTight cs) (hds : IsTight ds) : IsTight (cs ++ ds) where
  le_toNat := List.forall_mem_append.mpr ⟨hcs.le_toNat, hds.le_toNat⟩
  unquoted_append rest := by
    rw [List.append_assoc, hcs.unquoted_append, hds.unquoted_append, hcs.unquoted_append,
      List.append_assoc]
  isBlank_eq_false := by
    rw [hcs.unquoted_append]
    exact List.forall_mem_append.mpr ⟨hcs.isBlank_eq_false, hds.isBlank_eq_false⟩

theorem ite {p : Prop} [Decidable p] (hcs : IsTight cs) (hds : IsTight ds) :
    IsTight (if p then cs else ds) := by
  split_ifs
  · exact hcs
  · exact hds

/-- Outside of quotes a character counts for itself. -/
theorem of_forall (h : ∀ c ∈ cs, 0x20 < c.toNat ∧ c ≠ '"') : IsTight cs := by
  have hunquoted (rest : List Char) : unquoted false (cs ++ rest) = cs ++ unquoted false rest := by
    induction cs with
    | nil => rfl
    | cons c cs ih =>
      obtain ⟨⟨-, hquote⟩, hrest⟩ := List.forall_mem_cons.mp h
      rw [List.cons_append, unquoted_false_cons hquote, ih hrest]
      rfl
  have hself : unquoted false cs = cs := by simpa [unquoted] using hunquoted []
  refine ⟨fun c hc => Nat.le_of_lt (h c hc).1, fun rest => ?_, fun c hc => ?_⟩
  · rw [hunquoted, hself]
  · exact isBlank_of_lt (h c (hself ▸ hc)).1

theorem of_all (h : (cs.all fun c => decide (0x20 < c.toNat ∧ c ≠ '"')) = true) : IsTight cs :=
  of_forall fun c hc => of_decide_eq_true (List.all_eq_true.mp h c hc)

theorem quoted (s : String) : IsTight (quoted s).toList where
  le_toNat := by
    rw [toList_quoted]
    intro c hc
    rcases List.mem_cons.mp hc with rfl | hc
    · decide
    · rcases List.mem_append.mp hc with hc | hc
      · obtain ⟨x, -, hx⟩ := List.mem_flatMap.mp hc
        exact le_of_mem_escape hx
      · obtain rfl := List.mem_singleton.mp hc
        decide
  unquoted_append rest := by
    rw [unquoted_quoted, unquoted_quoted_self]
    rfl
  isBlank_eq_false := by
    rw [unquoted_quoted_self]
    nofun

theorem intercalate {xs : List String} (h : ∀ x ∈ xs, IsTight x.toList) :
    IsTight (String.intercalate "," xs).toList := by
  have hcomma : IsTight ",".toList := of_all rfl
  rw [String.toList_intercalate]
  induction xs with
  | nil => exact nil
  | cons x xs ih =>
    obtain ⟨hx, hxs⟩ := List.forall_mem_cons.mp h
    cases xs with
    | nil =>
      rw [List.map_singleton, List.intercalate_singleton]
      exact hx
    | cons y ys =>
      rw [List.map_cons, List.map_cons, List.intercalate_cons_cons]
      exact (hx.append hcomma).append (ih hxs)

theorem digits {cs : List Char} (h : ∀ c ∈ cs, c.isDigit = true) : IsTight cs := by
  refine of_forall fun c hc => ⟨lt_of_isDigit (h c hc), ?_⟩
  rintro rfl
  exact absurd (h '"' hc) (by decide)

theorem toDigits (n : ℕ) : IsTight (Nat.toDigits 10 n) :=
  digits fun _ => Nat.isDigit_of_mem_toDigits (by decide) (by decide)

theorem replicate_zero (n : ℕ) : IsTight (List.replicate n '0') :=
  digits fun c hc => by
    obtain rfl := List.eq_of_mem_replicate hc
    rfl

end IsTight

theorem isDigit_of_mem_shortest {significand : ℕ} {exponent : Int} {c : Char}
    (h : c ∈ (Binary64.shortest significand exponent).digits) : c.isDigit = true := by
  have hmem := List.mem_reverse.mp ((List.dropWhile_sublist _).subset (List.mem_reverse.mp h))
  exact Nat.isDigit_of_mem_toDigits (by decide) (by decide) hmem

theorem isTight_positional {d : Binary64.Decimal} (h : ∀ c ∈ d.digits, c.isDigit = true) :
    IsTight (positional d).toList := by
  rw [positional]
  split_ifs
  · rw [String.toList_append, String.toList_ofList, String.toList_ofList]
    exact .append (.of_all rfl) ((IsTight.replicate_zero _).append (.digits h))
  · have hzeros (n : ℕ) : ∀ c ∈ d.digits ++ List.replicate n '0', c.isDigit = true := by
      refine List.forall_mem_append.mpr ⟨h, fun c hc => ?_⟩
      obtain rfl := List.eq_of_mem_replicate hc
      rfl
    have hpoint : IsTight ['.'] := .of_all rfl
    rw [String.toList_ofList]
    exact .append (.digits fun c hc => hzeros _ c (List.mem_of_mem_take hc))
      (hpoint.append (.ite (.replicate_zero 1)
        (.digits fun c hc => hzeros _ c (List.mem_of_mem_drop hc))))

theorem isTight_scientific {d : Binary64.Decimal} (h : ∀ c ∈ d.digits, c.isDigit = true) :
    IsTight (scientific d).toList := by
  have hpoint : IsTight (if d.digits.length = 1 then [] else ['.']) :=
    .ite .nil (.of_all rfl)
  have hsign : IsTight (if d.exponent < 0 then "-" else "+").toList := by
    split_ifs <;> exact .of_all rfl
  have hdigits : IsTight (toString d.exponent.natAbs).toList := by
    rw [Nat.toString_eq_repr, Nat.toList_repr]
    exact .toDigits _
  simp only [scientific, String.toList_append, String.toList_ofList]
  refine .append (.append (.append (.append (.append ?_ hpoint) ?_) ?_) hsign) hdigits
  · exact .digits fun c hc => h c (List.mem_of_mem_take hc)
  · exact .digits fun c hc => h c (List.mem_of_mem_drop hc)
  · exact .of_all rfl

theorem isTight_floatText (x : Binary64) : IsTight (floatText x).toList := by
  have hsign (negative : Bool) : IsTight (signText negative).toList := by
    cases negative <;> exact .of_all rfl
  have hnull : IsTight "null".toList := .of_all rfl
  cases x with
  | nan => exact hnull
  | infinite => exact hnull
  | finite negative significand exponent =>
    rw [floatText]
    split_ifs
    · rw [String.toList_append]
      exact (hsign negative).append (.of_all rfl)
    · rw [String.toList_append]
      refine (hsign negative).append ?_
      split_ifs
      · exact isTight_positional fun _ => isDigit_of_mem_shortest
      · exact isTight_scientific fun _ => isDigit_of_mem_shortest

theorem isTight_number (n : Number) : IsTight n.text.toList := by
  cases n with
  | float x => exact isTight_floatText x
  | integer n =>
    rw [Number.text, Int.toString_eq_repr, Int.repr_eq_if]
    split_ifs
    · rw [Nat.toList_repr]
      exact .toDigits _
    · rw [String.toList_append, Nat.toList_repr]
      exact .append (.of_all rfl) (.toDigits _)

mutual

/-- The text of a value is one line without a blank that could be left out. -/
theorem isTight_compact : ∀ v : Json, IsTight (compact v).toList
  | .null => .of_all rfl
  | .boolean true => .of_all rfl
  | .boolean false => .of_all rfl
  | .number n => isTight_number n
  | .text s => .quoted s
  | .array items => by
    rw [compact, String.toList_append, String.toList_append]
    exact .append (.append (.of_all rfl) (.intercalate (isTight_compactItems items)))
      (.of_all rfl)
  | .object members => by
    rw [compact, String.toList_append, String.toList_append]
    exact .append (.append (.of_all rfl) (.intercalate (isTight_compactMembers members)))
      (.of_all rfl)

theorem isTight_compactItems : ∀ items : List Json, ∀ x ∈ compactItems items, IsTight x.toList
  | [] => nofun
  | v :: items =>
    List.forall_mem_cons.mpr ⟨isTight_compact v, isTight_compactItems items⟩

theorem isTight_compactMembers :
    ∀ members : Entries Json, ∀ x ∈ compactMembers members, IsTight x.toList
  | [] => nofun
  | (key, v) :: members => by
    refine List.forall_mem_cons.mpr ⟨?_, isTight_compactMembers members⟩
    rw [String.toList_append, String.toList_append]
    exact .append (.append (.quoted key) (.of_all rfl)) (isTight_compact v)

end

end FieldRules.Json
