import FieldRules.Toml.Value
import Mathlib.Data.List.Forall2
import Mathlib.Logic.Relation

/-!
# The written form of TOML values

A JSON value writes a TOML value if the two agree part by part. What JSON cannot write has a
stand-in, which a value in that place has to be. Values that agree everywhere but in one place agree
if they do there, however deep that place is.
-/

namespace FieldRules

variable {value : Json}

namespace Json

theorem same_text_iff {s : String} : (text s).same value = true ↔ value = .text s := by
  cases value <;> simp [same, eq_comm]

theorem same_singleton_iff {key s : String} :
    (object [(key, .text s)]).same value = true ↔ value = .object [(key, .text s)] := by
  cases value with
  | object members =>
    rcases members with _ | ⟨⟨l, x⟩, _ | ⟨m, members⟩⟩
    · simp [same, sameMembers]
    · rw [same, sameMembers, sameMembers, Bool.and_true, Bool.and_eq_true, same_text_iff]
      simp [eq_comm]
    · have hlonger : sameMembers [] (m :: members) = false := by simp [sameMembers]
      rw [same, sameMembers, hlonger, Bool.and_false]
      simp
  | _ => simp [same]

end Json

namespace Toml

/-- Agreement part by part. An integer agrees with the same integer and with no float. -/
inductive WrittenAs : Toml → Json → Prop
  | text (s : String) : WrittenAs (.text s) (.text s)
  | integer (n : Int) : WrittenAs (.integer n) (.number (.integer n))
  | float {x y : Binary64} (hfinite : x.isFinite = true) (hsame : x.same y = true) :
    WrittenAs (.float x) (.number (.float y))
  | unwritable {x : Binary64} (hfinite : x.isFinite = false) : WrittenAs (.float x) .null
  | boolean (b : Bool) : WrittenAs (.boolean b) (.boolean b)
  | datetime (d : Datetime) : WrittenAs (.datetime d) (.object [(datetimeKey, .text d.text)])
  | array {items : List Toml} {values : List Json} (h : List.Forall₂ WrittenAs items values) :
    WrittenAs (.array items) (.array values)
  | table {entries : Entries Toml} {members : Entries Json}
    (hnames : Entries.names entries = Entries.names members)
    (h : List.Forall₂ WrittenAs (entries.map Prod.snd) (members.map Prod.snd)) :
    WrittenAs (.table entries) (.object members)

theorem writtenAs_text_iff {s : String} : WrittenAs (.text s) value ↔ value = .text s :=
  ⟨fun | .text _ => rfl, fun h => h ▸ .text s⟩

theorem writtenAs_integer_iff {n : Int} :
    WrittenAs (.integer n) value ↔ value = .number (.integer n) :=
  ⟨fun | .integer _ => rfl, fun h => h ▸ .integer n⟩

theorem writtenAs_float_iff {x : Binary64} (hx : x.isFinite = true) :
    WrittenAs (.float x) value ↔ ∃ y, value = .number (.float y) ∧ x.same y = true := by
  constructor
  · intro h
    cases h with
    | float _ hsame => exact ⟨_, rfl, hsame⟩
    | unwritable hnot => simp [hx] at hnot
  · rintro ⟨y, rfl, hsame⟩
    exact .float hx hsame

theorem writtenAs_unwritable_iff {x : Binary64} (hx : x.isFinite = false) :
    WrittenAs (.float x) value ↔ value = .null := by
  constructor
  · intro h
    cases h with
    | float hnot _ => simp [hx] at hnot
    | unwritable _ => rfl
  · rintro rfl
    exact .unwritable hx

theorem writtenAs_boolean_iff {b : Bool} : WrittenAs (.boolean b) value ↔ value = .boolean b :=
  ⟨fun | .boolean _ => rfl, fun h => h ▸ .boolean b⟩

theorem writtenAs_datetime_iff {d : Datetime} :
    WrittenAs (.datetime d) value ↔ value = .object [(datetimeKey, .text d.text)] :=
  ⟨fun | .datetime _ => rfl, fun h => h ▸ .datetime d⟩

theorem writtenAs_array_iff {items : List Toml} :
    WrittenAs (.array items) value ↔
      ∃ values, value = .array values ∧ List.Forall₂ WrittenAs items values :=
  ⟨fun | .array h => ⟨_, rfl, h⟩, fun ⟨_, hvalue, h⟩ => hvalue ▸ .array h⟩

theorem writtenAs_table_iff {entries : Entries Toml} :
    WrittenAs (.table entries) value ↔
      ∃ members, value = .object members ∧ entries.names = Entries.names members ∧
        List.Forall₂ WrittenAs (entries.map Prod.snd) (members.map Prod.snd) :=
  ⟨fun | .table hnames h => ⟨_, rfl, hnames, h⟩,
    fun ⟨_, hvalue, hnames, h⟩ => hvalue ▸ .table hnames h⟩

mutual

/-- The JSON form of a value is the same as a value exactly if that value writes it. -/
theorem same_toJson_iff : ∀ (x : Toml) (value : Json),
    x.toJson.same value = true ↔ WrittenAs x value
  | .text s, value => by
    rw [writtenAs_text_iff, toJson, Json.same_text_iff]
  | .integer n, value => by
    rw [writtenAs_integer_iff, toJson]
    cases value with
    | number m => cases m <;> simp [Json.same, Json.Number.same, eq_comm]
    | _ => simp [Json.same]
  | .float x, value => by
    cases hx : x.isFinite with
    | true =>
      rw [writtenAs_float_iff hx, toJson, if_pos hx]
      cases value with
      | number m => cases m <;> simp [Json.same, Json.Number.same]
      | _ => simp [Json.same]
    | false =>
      rw [writtenAs_unwritable_iff hx, toJson, hx]
      cases value <;> simp [Json.same]
  | .boolean b, value => by
    rw [writtenAs_boolean_iff, toJson]
    cases value <;> simp [Json.same, eq_comm]
  | .datetime d, value => by
    rw [writtenAs_datetime_iff, toJson, Json.same_singleton_iff]
  | .array items, value => by
    have hitems := sameItems_iff items
    rw [writtenAs_array_iff, toJson]
    cases value <;> simp [Json.same, hitems]
  | .table entries, value => by
    have hentries := sameMembers_iff entries
    rw [writtenAs_table_iff, toJson]
    cases value with
    | object members => simp only [Json.same, hentries, Json.object.injEq, exists_eq_left']
    | _ => simp [Json.same]

theorem sameItems_iff : ∀ (items : List Toml) (values : List Json),
    Json.sameItems (itemsToJson items) values = true ↔ List.Forall₂ WrittenAs items values
  | [], values => by cases values <;> simp [itemsToJson, Json.sameItems]
  | x :: items, values => by
    cases values with
    | nil => simp [itemsToJson, Json.sameItems]
    | cons value values =>
      rw [itemsToJson, Json.sameItems, Bool.and_eq_true, same_toJson_iff x value,
        sameItems_iff items values, List.forall₂_cons]

theorem sameMembers_iff : ∀ (entries : Entries Toml) (members : Entries Json),
    Json.sameMembers (entriesToJson entries) members = true ↔
      entries.names = Entries.names members ∧
        List.Forall₂ WrittenAs (entries.map Prod.snd) (members.map Prod.snd)
  | [], members => by cases members <;> simp [entriesToJson, Json.sameMembers, Entries.names]
  | (key, x) :: entries, members => by
    cases members with
    | nil => simp [entriesToJson, Json.sameMembers, Entries.names]
    | cons m members =>
      obtain ⟨l, value⟩ := m
      have hhead := same_toJson_iff x value
      have htail := sameMembers_iff entries members
      simp only [entriesToJson, Json.sameMembers, Bool.and_eq_true, decide_eq_true_eq, hhead, htail,
        Entries.names, List.map_cons, List.cons.injEq, List.forall₂_cons]
      tauto

end

/-- What stands in JSON for a float that is no number or infinite, or for a date or time. -/
inductive StandIn : Toml → Json → Prop
  | float {x : Binary64} (hfinite : x.isFinite = false) : StandIn (.float x) .null
  | datetime (d : Datetime) : StandIn (.datetime d) (.object [(datetimeKey, .text d.text)])

theorem StandIn.writtenAs {x : Toml} (h : StandIn x value) : WrittenAs x value := by
  cases h with
  | float hfinite => exact .unwritable hfinite
  | datetime d => exact .datetime d

/-- The second value and what it is compared with have the first two in one place of an array or
a table, and agree everywhere else. -/
inductive Encloses : Toml × Json → Toml × Json → Prop
  | array {x : Toml} {value : Json} {before after : List Toml} {before' after' : List Json}
    (hbefore : WrittenAs (.array before) (.array before'))
    (hafter : WrittenAs (.array after) (.array after')) :
    Encloses (x, value) (.array (before ++ x :: after), .array (before' ++ value :: after'))
  | table {key : String} {x : Toml} {value : Json} {before after : Entries Toml}
    {before' after' : Entries Json} (hbefore : WrittenAs (.table before) (.object before'))
    (hafter : WrittenAs (.table after) (.object after')) :
    Encloses (x, value)
      (.table (before ++ (key, x) :: after), .object (before' ++ (key, value) :: after'))

variable {inner outer : Toml × Json}

theorem forall₂_append_cons_iff {α β : Type} {r : α → β → Prop} {before after : List α}
    {before' after' : List β} {a : α} {b : β} (hbefore : List.Forall₂ r before before')
    (hafter : List.Forall₂ r after after') :
    List.Forall₂ r (before ++ a :: after) (before' ++ b :: after') ↔ r a b := by
  induction hbefore with
  | nil => simp [hafter]
  | cons h _ ih => simpa [h] using ih

/-- One array or table around two values leaves it to them whether they agree. -/
theorem Encloses.writtenAs_iff (h : Encloses inner outer) :
    WrittenAs outer.1 outer.2 ↔ WrittenAs inner.1 inner.2 := by
  cases h with
  | array hbefore hafter =>
    obtain ⟨_, ⟨rfl⟩, hbefore⟩ := writtenAs_array_iff.mp hbefore
    obtain ⟨_, ⟨rfl⟩, hafter⟩ := writtenAs_array_iff.mp hafter
    simp [writtenAs_array_iff, forall₂_append_cons_iff hbefore hafter]
  | table hbefore hafter =>
    obtain ⟨_, ⟨rfl⟩, hnames, hbefore⟩ := writtenAs_table_iff.mp hbefore
    obtain ⟨_, ⟨rfl⟩, hnames', hafter⟩ := writtenAs_table_iff.mp hafter
    simp only [writtenAs_table_iff, Json.object.injEq, exists_eq_left', Entries.names,
      List.map_append, List.map_cons, forall₂_append_cons_iff hbefore hafter]
    simp only [Entries.names] at hnames hnames'
    simp [hnames, hnames']

/-- However many arrays and tables are around them. -/
theorem writtenAs_iff_of_encloses (h : Relation.ReflTransGen Encloses inner outer) :
    WrittenAs outer.1 outer.2 ↔ WrittenAs inner.1 inner.2 := by
  induction h with
  | refl => exact Iff.rfl
  | tail _ hlast ih => exact hlast.writtenAs_iff.trans ih

end Toml

end FieldRules
