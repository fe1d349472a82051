import FieldRules.Json.Stream
import FieldRules.Proofs.Binary64.Canonical

/-!
# Values in form

The reader lists the members of every object in key order, with no key twice, and its floats are in
canonical form. So whatever the text was, a value that is read can be compared member by member.
-/

namespace FieldRules.Json

def Number.IsCanonical : Number → Prop
  | .integer _ => True
  | .float x => x.IsCanonical

inductive WellFormed : Json → Prop
  | null : WellFormed .null
  | boolean (value : Bool) : WellFormed (.boolean value)
  | number {value : Number} (h : value.IsCanonical) : WellFormed (.number value)
  | text (value : String) : WellFormed (.text value)
  | array {items : List Json} (h : ∀ x ∈ items, WellFormed x) : WellFormed (.array items)
  | object {members : Entries Json} (hsorted : members.names.Pairwise (· < ·))
    (h : ∀ e ∈ members, WellFormed e.2) : WellFormed (.object members)

theorem wellFormed_ofTable {t : SortedTable Json} (h : ∀ e ∈ t.entries, WellFormed e.2) :
    WellFormed (.ofTable t) :=
  .object t.sorted h

namespace Numeral

theorem powerOfTen_isZero : ∀ n < 309, (powerOfTen n).isZero = false := by decide +kernel

theorem isCanonical_scaleDownBy {x : Binary64} (hx : x.IsCanonical) (power : ℕ) :
    (scaleDownBy x power).IsCanonical := by
  fun_induction scaleDownBy x power with
  | case1 x power hpower =>
    exact Binary64.isCanonical_scaleDown x (powerOfTen_isZero power (by omega))
  | case2 x power _ _ => exact hx
  | case3 x power _ _ ih =>
    exact ih (Binary64.isCanonical_scaleDown x (powerOfTen_isZero 308 (by decide)))

theorem isCanonical_of_scale {s : Scaled} {x : Binary64} (h : scale s = some x) :
    x.IsCanonical := by
  have hstart := Binary64.isCanonical_ofRatio false s.significand one_ne_zero
  rw [scale] at h
  dsimp only at h
  split_ifs at h
  all_goals obtain rfl := Option.some.inj h
  · exact isCanonical_scaleDownBy hstart _
  · exact Binary64.isCanonical_scaleUp _ _
  · exact hstart

theorem isCanonical_of_applyExponent {s : Scaled} {exponent : Option (Bool × List ℕ)}
    {x : Binary64} (h : applyExponent s exponent = some x) : x.IsCanonical := by
  unfold applyExponent at h
  split at h
  · exact isCanonical_of_scale h
  · dsimp only at h
    split_ifs at h
    · obtain rfl := Option.some.inj h
      exact Binary64.isCanonical_zero false
    all_goals exact isCanonical_of_scale h

theorem isCanonical_signed {x : Binary64} (negative : Bool) (h : x.IsCanonical) :
    (signed negative x).IsCanonical := by
  cases negative with
  | false => exact h
  | true => exact h.negate

theorem isCanonical_of_value {n : Numeral} {x : Number} (h : n.value = some x) :
    x.IsCanonical := by
  unfold value at h
  dsimp only at h
  split at h
  · split_ifs at h
    · obtain ⟨y, hy, rfl⟩ := Option.map_eq_some_iff.mp h
      exact isCanonical_signed _ (isCanonical_of_scale hy)
    · obtain rfl := Option.some.inj h
      trivial
    · obtain rfl := Option.some.inj h
      exact isCanonical_signed _ (Binary64.isCanonical_ofRatio _ _ one_ne_zero)
    · obtain rfl := Option.some.inj h
      trivial
  all_goals
    obtain ⟨y, hy, rfl⟩ := Option.map_eq_some_iff.mp h
    exact isCanonical_signed _ (isCanonical_of_applyExponent hy)

end Numeral

theorem isCanonical_of_readNumber {cs rest : List Char} {n : Number}
    (h : readNumber cs = some (n, rest)) : n.IsCanonical := by
  unfold readNumber at h
  split at h
  all_goals
    obtain ⟨⟨numeral, _⟩, -, hvalue⟩ := Option.bind_eq_some_iff.mp h
    obtain ⟨x, hx, heq⟩ := Option.bind_eq_some_iff.mp hvalue
    cases heq
    exact Numeral.isCanonical_of_value hx

mutual

theorem wellFormed_of_readValue : ∀ {fuel depth : ℕ} {cs rest : List Char} {v : Json},
    readValue fuel depth cs = some (v, rest) → WellFormed v
  | 0, _, _, _, _, h => by cases h
  | fuel + 1, depth, cs, rest, v, h => by
    unfold readValue at h
    split at h
    · cases h
      exact .null
    · cases h
      exact .boolean true
    · cases h
      exact .boolean false
    · obtain ⟨⟨s, _⟩, -, heq⟩ := Option.map_eq_some_iff.mp h
      cases heq
      exact .text s
    · split at h
      · cases h
      · split at h
        · cases h
          exact .array nofun
        · obtain ⟨⟨items, _⟩, hitems, heq⟩ := Option.map_eq_some_iff.mp h
          cases heq
          exact .array (wellFormed_of_readItems hitems nofun)
    · split at h
      · cases h
      · split at h
        · cases h
          exact .object List.Pairwise.nil nofun
        · obtain ⟨⟨members, _⟩, hmembers, heq⟩ := Option.map_eq_some_iff.mp h
          cases heq
          exact wellFormed_ofTable fun e he =>
            wellFormed_of_readMembers hmembers nofun e (SortedTable.mem_of_mem_ofList he)
    · obtain ⟨⟨n, _⟩, hn, heq⟩ := Option.map_eq_some_iff.mp h
      cases heq
      exact .number (isCanonical_of_readNumber hn)

theorem wellFormed_of_readItems : ∀ {fuel depth : ℕ} {done items : List Json} {cs rest : List Char},
    readItems fuel depth done cs = some (items, rest) → (∀ x ∈ done, WellFormed x) →
    ∀ x ∈ items, WellFormed x
  | 0, _, _, _, _, _, h, _ => by cases h
  | fuel + 1, depth, done, items, cs, rest, h, hdone => by
    unfold readItems at h
    split at h
    · cases h
    next x _ hx =>
      have hall : ∀ y ∈ x :: done, WellFormed y :=
        List.forall_mem_cons.mpr ⟨wellFormed_of_readValue hx, hdone⟩
      split at h
      · exact wellFormed_of_readItems h hall
      · cases h
        intro y hy
        exact hall y (List.mem_reverse.mp hy)
      · cases h

theorem wellFormed_of_readMembers : ∀ {fuel depth : ℕ} {done members : Entries Json}
    {cs rest : List Char}, readMembers fuel depth done cs = some (members, rest) →
    (∀ e ∈ done, WellFormed e.2) → ∀ e ∈ members, WellFormed e.2
  | 0, _, _, _, _, _, h, _ => by cases h
  | fuel + 1, depth, done, members, cs, rest, h, hdone => by
    unfold readMembers at h
    split at h
    · split at h
      · cases h
      next key _ _ =>
        split at h
        · split at h
          · cases h
          next x _ hx =>
            have hall : ∀ e ∈ (key, x) :: done, WellFormed e.2 :=
              List.forall_mem_cons.mpr ⟨wellFormed_of_readValue hx, hdone⟩
            split at h
            · exact wellFormed_of_readMembers h hall
            · cases h
              intro e he
              exact hall e (List.mem_reverse.mp he)
            · cases h
        · cases h
    · cases h

end

theorem wellFormed_of_read? {text : String} {v : Json} (h : read? text = some v) :
    WellFormed v := by
  unfold read? at h
  split at h
  next hfront =>
    split_ifs at h
    obtain rfl := Option.some.inj h
    exact wellFormed_of_readValue hfront
  · cases h

namespace Stream

inductive WellFormed : Stream → Prop
  | finished : WellFormed .finished
  | broken : WellFormed .broken
  | value {head : Json} {rest : Stream} (hhead : head.WellFormed) (hrest : WellFormed rest) :
    WellFormed (.value head rest)

theorem wellFormed_readFrom (fuel : ℕ) (cs : List Char) : WellFormed (readFrom fuel cs) := by
  induction fuel generalizing cs with
  | zero => exact .broken
  | succ fuel ih =>
    unfold readFrom
    split
    · exact .finished
    · split
      · exact .broken
      next head rest hfront =>
        split_ifs
        · exact .value (wellFormed_of_readValue hfront) (ih rest)
        · exact .broken

theorem wellFormed_read (text : String) : WellFormed (read text) := wellFormed_readFrom _ _

end Stream

end FieldRules.Json
