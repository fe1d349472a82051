import FieldRules.Proofs.Binary64.OfInt
import FieldRules.Proofs.Toml.WrittenForm
import FieldRules.Rule.Builtin

/-!
# Lists of allowed values

A list of allowed values always makes a rule. Its values are compared in their written form, in
which a stand-in takes the place of what JSON cannot write. Only where the listed value is a number
itself, not a part of an array or a table, do numbers agree by what they become as double precision
numbers.
-/

namespace FieldRules

theorem Json.Number.same_toBinary64 {m n : Json.Number} (h : m.same n = true) :
    m.toBinary64.same n.toBinary64 = true := by
  cases m with
  | integer m =>
    cases n with
    | integer n =>
      obtain rfl : m = n := by simpa [same] using h
      exact Binary64.same_self (Binary64.ofInt_ne_nan m)
    | float y => simp [same] at h
  | float x =>
    cases n with
    | integer n => simp [same] at h
    | float y => exact h

namespace Builtin

open Binary64 (IsWord Coincide)

variable {items : List Toml} {x : Toml} {value : Json}

/-- A listed number and a value are one double precision number. -/
def SameNumber (x : Toml) (value : Json) : Prop :=
  ∃ m n, x.toJson = .number m ∧ value = .number n ∧ m.toBinary64.same n.toBinary64 = true

theorem sameValue_toJson_iff :
    sameValue x.toJson value = true ↔ x.WrittenAs value ∨ SameNumber x value := by
  rw [← Toml.same_toJson_iff]
  generalize hx : x.toJson = a
  by_cases hnumbers : ∃ m n, a = .number m ∧ value = .number n
  · obtain ⟨m, n, rfl, rfl⟩ := hnumbers
    constructor
    · intro h
      exact .inr ⟨m, n, hx, rfl, h⟩
    · rintro (h | ⟨m', n', hm, hn, h⟩)
      · rw [Json.same] at h
        exact Json.Number.same_toBinary64 h
      · obtain ⟨rfl⟩ := hx.symm.trans hm
        obtain ⟨rfl⟩ := hn
        exact h
  · have hplain : sameValue a value = a.same value := by
      cases a with
      | number m =>
        cases value with
        | number n => exact absurd ⟨m, n, rfl, rfl⟩ hnumbers
        | _ => rfl
      | _ => rfl
    have hnot : ¬ SameNumber x value := by
      rintro ⟨m, n, hm, hn, -⟩
      exact hnumbers ⟨m, n, hx.symm.trans hm, hn⟩
    rw [hplain, or_iff_left hnot]

/-- Whatever the array holds, the rule is a test of the value. -/
theorem exists_test_oneOf (items : List Toml) :
    ∃ test : Json → Bool,
      Registry.builtin.build "one_of" (some (.array items)) = .ok (.ofValue test) ∧
      ∀ value, test value = true ↔ ∃ x ∈ items, x.WrittenAs value ∨ SameNumber x value := by
  refine ⟨fun value => (Toml.itemsToJson items).any fun allowed => sameValue allowed value,
    rfl, fun value => ?_⟩
  induction items with
  | nil => simp [Toml.itemsToJson]
  | cons x items ih =>
    simp only [Toml.itemsToJson, List.any_cons, Bool.or_eq_true, ih, sameValue_toJson_iff,
      List.mem_cons, exists_eq_or_imp]

theorem writtenAs_or_sameNumber_integer_iff {p n : Int} (hp : IsWord p) (hn : IsWord n) :
    (Toml.integer p).WrittenAs (.number (.integer n)) ∨
      SameNumber (.integer p) (.number (.integer n)) ↔ p = n ∨ Coincide p n := by
  have hwritten : (Toml.integer p).WrittenAs (.number (.integer n)) ↔ p = n := by
    rw [Toml.writtenAs_integer_iff]
    simp [eq_comm]
  have hnumber : SameNumber (.integer p) (.number (.integer n)) ↔ p = n ∨ Coincide p n := by
    rw [← Binary64.same_ofInt_iff hp hn]
    simp [SameNumber, Toml.toJson, Json.Number.toBinary64]
  rw [hwritten, hnumber, ← or_assoc, or_self]

/-- Of integers a list of integers accepts those that it has and those that coincide with one that
it has. -/
theorem oneOf_integers {listed : List Int} (hlisted : ∀ p ∈ listed, IsWord p) :
    ∃ test : Json → Bool,
      Registry.builtin.build "one_of" (some (.array (listed.map .integer))) = .ok (.ofValue test) ∧
      ∀ n, IsWord n → (test (.number (.integer n)) = true ↔
        n ∈ listed ∨ ∃ p ∈ listed, Coincide p n) := by
  obtain ⟨test, hbuild, htest⟩ := exists_test_oneOf (listed.map .integer)
  refine ⟨test, hbuild, fun n hn => ?_⟩
  rw [htest]
  constructor
  · rintro ⟨x, hx, hsame⟩
    obtain ⟨p, hp, rfl⟩ := List.mem_map.mp hx
    rcases (writtenAs_or_sameNumber_integer_iff (hlisted p hp) hn).mp hsame with rfl | hcoincide
    · exact .inl hp
    · exact .inr ⟨p, hp, hcoincide⟩
  · rintro (hmem | ⟨p, hp, hcoincide⟩)
    · exact ⟨.integer n, List.mem_map_of_mem hmem, .inl (.integer n)⟩
    · exact ⟨.integer p, List.mem_map_of_mem hp,
        (writtenAs_or_sameNumber_integer_iff (hlisted p hp) hn).mpr (.inr hcoincide)⟩

/-- Below `2 ^ 53` nothing passes for a listed integer of 54 bits. -/
theorem oneOf_integers_54bits :
    (∀ p ∈ [7, 9007199254740993], IsWord p) ∧ IsWord 7 ∧ IsWord 9007199254740991 ∧
    ∃ test : Json → Bool,
      Registry.builtin.build "one_of" (some (.array [.integer 7, .integer 9007199254740993])) =
        .ok (.ofValue test) ∧
      test (.number (.integer 7)) = true ∧ test (.number (.integer 9007199254740991)) = false := by
  have hlisted : ∀ p ∈ [7, 9007199254740993], IsWord p := by decide
  have hseven : IsWord 7 := by decide
  have hn : IsWord 9007199254740991 := by decide
  obtain ⟨test, hbuild, htest⟩ := oneOf_integers hlisted
  refine ⟨hlisted, hseven, hn, test, hbuild, (htest 7 hseven).mpr (.inl (by decide)), ?_⟩
  rw [← Bool.not_eq_true, htest _ hn]
  rintro (hmem | ⟨p, -, hcoincide⟩)
  · exact absurd hmem (by decide)
  · exact absurd hcoincide.right (by decide)

/-- `2 ^ 53` passes for the listed `2 ^ 53 + 1`. -/
theorem oneOf_integers_not_exact :
    ∃ test : Json → Bool,
      Registry.builtin.build "one_of" (some (.array [.integer 9007199254740993])) =
        .ok (.ofValue test) ∧
      test (.number (.integer 9007199254740992)) = true ∧
      (9007199254740992 : Int) ∉ [9007199254740993] :=
  ⟨_, rfl, by decide, by decide⟩

theorem not_sameNumber_of_encloses {inner outer : Toml × Json} (h : Toml.Encloses inner outer) :
    ¬ SameNumber outer.1 outer.2 := by
  rintro ⟨m, n, -, hvalue, -⟩
  cases h with
  | array hbefore hafter => cases hvalue
  | table hbefore hafter => cases hvalue

/-- Inside arrays and tables a value passes for a listed one if it writes it, and only outside also
if both are one double precision number. -/
theorem oneOf_enclosed {a a' : Toml} {b b' : Json}
    (h : Relation.TransGen Toml.Encloses (a, b) (a', b')) :
    ∃ test test' : Json → Bool,
      Registry.builtin.build "one_of" (some (.array [a])) = .ok (.ofValue test) ∧
      Registry.builtin.build "one_of" (some (.array [a'])) = .ok (.ofValue test') ∧
      (test b = true ↔ a.WrittenAs b ∨ SameNumber a b) ∧
      (test' b' = true ↔ a.WrittenAs b) := by
  obtain ⟨test, hbuild, htest⟩ := exists_test_oneOf [a]
  obtain ⟨test', hbuild', htest'⟩ := exists_test_oneOf [a']
  have hwritten : a'.WrittenAs b' ↔ a.WrittenAs b :=
    Toml.writtenAs_iff_of_encloses h.to_reflTransGen
  obtain ⟨middle, -, hlast⟩ := Relation.TransGen.tail'_iff.mp h
  refine ⟨test, test', hbuild, hbuild', by simpa using htest b, ?_⟩
  rw [htest', ← hwritten]
  simp [not_sameNumber_of_encloses hlast]

/-- What is accepted outside is accepted inside, if it is a number that is written as the listed one
is. -/
theorem oneOf_enclosed_one :
    Relation.TransGen Toml.Encloses (.integer 1, .number (.integer 1))
      (.array [.table [("x", .integer 1)]], .array [.object [("x", .number (.integer 1))]]) ∧
    ∃ test test' : Json → Bool,
      Registry.builtin.build "one_of" (some (.array [.integer 1])) = .ok (.ofValue test) ∧
      Registry.builtin.build "one_of" (some (.array [.array [.table [("x", .integer 1)]]])) =
        .ok (.ofValue test') ∧
      test (.number (.integer 1)) = true ∧
      test' (.array [.object [("x", .number (.integer 1))]]) = true := by
  have hnoEntries : (Toml.table []).WrittenAs (.object []) := .table rfl .nil
  have hnoItems : (Toml.array []).WrittenAs (.array []) := .array .nil
  have henclosed : Relation.TransGen Toml.Encloses (.integer 1, .number (.integer 1))
      (.array [.table [("x", .integer 1)]], .array [.object [("x", .number (.integer 1))]]) :=
    .tail (.single (.table hnoEntries hnoEntries)) (.array hnoItems hnoItems)
  obtain ⟨test, test', hbuild, hbuild', htest, htest'⟩ := oneOf_enclosed henclosed
  exact ⟨henclosed, test, test', hbuild, hbuild', htest.mpr (.inl (.integer 1)),
    htest'.mpr (.integer 1)⟩

/-- `1.0` passes for the listed `1`, and `[1.0]` does not pass for the listed `[1]`. -/
theorem oneOf_enclosed_float :
    ∃ test test' : Json → Bool,
      Registry.builtin.build "one_of" (some (.array [.integer 1])) = .ok (.ofValue test) ∧
      Registry.builtin.build "one_of" (some (.array [.array [.integer 1]])) = .ok (.ofValue test') ∧
      test (.number (.float (.ofInt 1))) = true ∧
      test' (.array [.number (.float (.ofInt 1))]) = false :=
  ⟨_, _, rfl, rfl, by decide, by decide⟩

/-- An array always makes a rule. Wherever it holds something that JSON cannot write, the rule
accepts the stand-in there. -/
theorem oneOf_standIn (items : List Toml) :
    ∃ test : Json → Bool,
      Registry.builtin.build "one_of" (some (.array items)) = .ok (.ofValue test) ∧
      (∀ value, test value = true ↔ ∃ x ∈ items, x.WrittenAs value ∨ SameNumber x value) ∧
      ∀ x ∈ items, ∀ a b value, Relation.ReflTransGen Toml.Encloses (a, b) (x, value) →
        Toml.StandIn a b → test value = true := by
  obtain ⟨test, hbuild, htest⟩ := exists_test_oneOf items
  refine ⟨test, hbuild, htest, fun x hx a b value henclosed hstandIn => ?_⟩
  have hwritten : x.WrittenAs value :=
    (Toml.writtenAs_iff_of_encloses henclosed).mpr hstandIn.writtenAs
  exact (htest value).mpr ⟨x, hx, .inl hwritten⟩

/-- Null passes where a listed array has no number. -/
theorem oneOf_standIn_nan :
    Relation.ReflTransGen Toml.Encloses (.float .nan, .null)
      (.array [.integer 1, .float .nan], .array [.number (.integer 1), .null]) ∧
    Toml.StandIn (.float .nan) .null ∧
    ∃ test : Json → Bool,
      Registry.builtin.build "one_of" (some (.array [.array [.integer 1, .float .nan]])) =
        .ok (.ofValue test) ∧
      test (.array [.number (.integer 1), .null]) = true ∧
      test (.array [.null, .null]) = false := by
  have hbefore : (Toml.array [.integer 1]).WrittenAs (.array [.number (.integer 1)]) :=
    .array (.cons (.integer 1) .nil)
  have henclosed : Relation.ReflTransGen Toml.Encloses (.float .nan, .null)
      (.array [.integer 1, .float .nan], .array [.number (.integer 1), .null]) :=
    .single (.array hbefore (.array .nil))
  have hstandIn : Toml.StandIn (.float .nan) .null := .float rfl
  obtain ⟨test, hbuild, htest, hstands⟩ := oneOf_standIn [.array [.integer 1, .float .nan]]
  refine ⟨henclosed, hstandIn, test, hbuild,
    hstands _ List.mem_cons_self _ _ _ henclosed hstandIn, ?_⟩
  rw [← Bool.not_eq_true, htest]
  rintro ⟨x, hx, h⟩
  obtain rfl := List.mem_singleton.mp hx
  rw [← sameValue_toJson_iff] at h
  exact absurd h (by decide)

/-- Three values that JSON cannot write make a rule, and three stand-ins pass. -/
theorem oneOf_standIn_not_refused :
    ∃ test : Json → Bool,
      Registry.builtin.build "one_of" (some (.array [.float .nan,
        .array [.float (.infinite true)], .datetime (.dateOnly ⟨1979, 5, 27⟩)])) =
          .ok (.ofValue test) ∧
      test .null = true ∧ test (.array [.null]) = true ∧
      test (.object [("$__toml_private_datetime", .text "1979-05-27")]) = true :=
  ⟨_, rfl, by decide, by decide, by decide⟩

end Builtin

end FieldRules
