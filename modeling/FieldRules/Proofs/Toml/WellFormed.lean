import FieldRules.Proofs.Json.WellFormed
import FieldRules.Toml.Reader

/-!
# TOML values in form

The entries of every table of a document stand in key order, with no key twice, and its floats are
in canonical form. While a document is built its tables keep the order of its statements and hold
values in form only; they are put in order when it is done. The JSON form of a value in form is in
form, too.
-/

namespace FieldRules

theorem Entries.mem_of_mem_put {α : Type} {name : String} {a : α} {es : Entries α}
    {e : String × α} (h : e ∈ es.put name a) : e = (name, a) ∨ e ∈ es := by
  induction es with
  | nil => exact .inl (List.mem_singleton.mp h)
  | cons x es ih =>
    rw [put] at h
    split_ifs at h
    · rcases List.mem_cons.mp h with rfl | hrest
      · exact .inl rfl
      · exact .inr (List.mem_cons_of_mem _ hrest)
    · rcases List.mem_cons.mp h with rfl | hrest
      · exact .inr List.mem_cons_self
      · exact (ih hrest).imp_right (List.mem_cons_of_mem _)

namespace Toml

inductive WellFormed : Toml → Prop
  | text (value : String) : WellFormed (.text value)
  | integer (value : Int) : WellFormed (.integer value)
  | float {value : Binary64} (h : value.IsCanonical) : WellFormed (.float value)
  | boolean (value : Bool) : WellFormed (.boolean value)
  | datetime (value : Datetime) : WellFormed (.datetime value)
  | array {items : List Toml} (h : ∀ x ∈ items, WellFormed x) : WellFormed (.array items)
  | table {entries : Entries Toml} (hsorted : entries.names.Pairwise (· < ·))
    (h : ∀ e ∈ entries, WellFormed e.2) : WellFormed (.table entries)

namespace Node

inductive WellFormed : Node → Prop
  | sealed {value : Toml} (h : value.WellFormed) : WellFormed (.sealed value)
  | table {origin : Origin} {entries : Entries Node} (h : ∀ e ∈ entries, WellFormed e.2) :
    WellFormed (.table origin entries)
  | series {elements : List (Entries Node)} (h : ∀ es ∈ elements, ∀ e ∈ es, WellFormed e.2) :
    WellFormed (.series elements)

def AllWellFormed (es : Entries Node) : Prop := ∀ e ∈ es, WellFormed e.2

variable {es es' : Entries Node} {path : List String} {key : String}

theorem allWellFormed_nil : AllWellFormed [] := nofun

theorem AllWellFormed.put (h : AllWellFormed es) {n : Node} (hn : n.WellFormed) :
    AllWellFormed (es.put key n) := by
  intro e he
  rcases Entries.mem_of_mem_put he with rfl | hold
  · exact hn
  · exact h e hold

theorem AllWellFormed.look (h : AllWellFormed es) {n : Node} (hn : es.look key = some n) :
    n.WellFormed :=
  h (key, n) (Entries.mem_of_look_eq_some hn)

def Keeps (f : Entries Node → Option (Entries Node)) : Prop :=
  ∀ es es', AllWellFormed es → f es = some es' → AllWellFormed es'

theorem keeps_edit {dotted : Bool} {f : Origin → Entries Node → Option (Entries Node)}
    (hf : ∀ origin, Keeps (f origin)) (path : List String) (origin : Origin) :
    Keeps (edit dotted f path origin) := by
  induction path generalizing origin with
  | nil => exact hf origin
  | cons key path ih =>
    intro es es' hes h
    rw [edit] at h
    split at h
    · obtain ⟨inner, hinner, rfl⟩ := Option.map_eq_some_iff.mp h
      exact hes.put (.table (ih _ [] inner nofun hinner))
    next old deeper hlook =>
      split_ifs at h
      obtain ⟨inner, hinner, rfl⟩ := Option.map_eq_some_iff.mp h
      cases hes.look hlook with
      | table hdeeper => exact hes.put (.table (ih _ deeper inner hdeeper hinner))
    next last others hlook =>
      obtain ⟨inner, hinner, rfl⟩ := Option.map_eq_some_iff.mp h
      cases hes.look hlook with
      | series hall =>
        obtain ⟨hlast, hothers⟩ := List.forall_mem_cons.mp hall
        exact hes.put (.series (List.forall_mem_cons.mpr
          ⟨ih _ last inner hlast hinner, hothers⟩))
    · cases h
    · cases h

theorem keeps_putValue (path : List String) (key : String) {value : Toml}
    (hvalue : value.WellFormed) : Keeps (putValue path key value) := by
  refine keeps_edit (fun origin es es' hes h => ?_) path .header
  split_ifs at h
  obtain rfl := Option.some.inj h
  exact hes.put (.sealed hvalue)

theorem keeps_openTable (path : List String) (key : String) : Keeps (openTable path key) := by
  refine keeps_edit (fun origin es es' hes h => ?_) path .header
  split at h
  · obtain rfl := Option.some.inj h
    exact hes.put (.table nofun)
  next deeper hlook =>
    obtain rfl := Option.some.inj h
    cases hes.look hlook with
    | table hdeeper => exact hes.put (.table hdeeper)
  · cases h

theorem keeps_openElement (path : List String) (key : String) :
    Keeps (openElement path key) := by
  refine keeps_edit (fun origin es es' hes h => ?_) path .header
  split at h
  · obtain rfl := Option.some.inj h
    exact hes.put (.series (List.forall_mem_singleton.mpr nofun))
  next elements hlook =>
    obtain rfl := Option.some.inj h
    cases hes.look hlook with
    | series hall => exact hes.put (.series (List.forall_mem_cons.mpr ⟨nofun, hall⟩))
  · cases h

theorem keeps_putBelow (header path : List String) (key : String) {value : Toml}
    (hvalue : value.WellFormed) : Keeps (putBelow header path key value) :=
  keeps_edit (fun _ => keeps_putValue path key hvalue) header .header

theorem wellFormed_sortEntries {es : Entries Toml} (h : ∀ e ∈ es, e.2.WellFormed) :
    Toml.WellFormed (.table (sortEntries es)) :=
  .table (SortedTable.ofList es).sorted fun e he => h e (SortedTable.mem_of_mem_ofList he)

mutual

theorem wellFormed_value : ∀ n : Node, n.WellFormed → n.value.WellFormed
  | .sealed _, .sealed h => h
  | .table _ entries, .table h => wellFormed_sortEntries (wellFormed_values entries h)
  | .series elements, .series h =>
    .array fun x hx => wellFormed_tables elements h x (List.mem_reverse.mp hx)

theorem wellFormed_values :
    ∀ es : Entries Node, AllWellFormed es → ∀ e ∈ values es, e.2.WellFormed
  | [], _ => nofun
  | (key, n) :: es, h => by
    obtain ⟨hn, hes⟩ := List.forall_mem_cons.mp h
    exact List.forall_mem_cons.mpr ⟨wellFormed_value n hn, wellFormed_values es hes⟩

theorem wellFormed_tables : ∀ elements : List (Entries Node),
    (∀ es ∈ elements, AllWellFormed es) → ∀ x ∈ tables elements, x.WellFormed
  | [], _ => nofun
  | es :: rest, h => by
    obtain ⟨hes, hrest⟩ := List.forall_mem_cons.mp h
    exact List.forall_mem_cons.mpr
      ⟨wellFormed_sortEntries (wellFormed_values es hes), wellFormed_tables rest hrest⟩

end

end Node

inductive Statement.WellFormed : Statement → Prop
  | pair {key : Key} {value : Toml} (h : value.WellFormed) : WellFormed (.pair key value)
  | table (key : Key) : WellFormed (.table key)
  | element (key : Key) : WellFormed (.element key)

namespace Draft
open Node (AllWellFormed)

theorem allWellFormed_of_add {d d' : Draft} {s : Statement} (hs : s.WellFormed)
    (hd : AllWellFormed d.entries) (h : d.add s = some d') : AllWellFormed d'.entries := by
  cases hs with
  | pair hvalue =>
    obtain ⟨entries, hentries, rfl⟩ := Option.map_eq_some_iff.mp h
    exact Node.keeps_putBelow _ _ _ hvalue _ _ hd hentries
  | table key =>
    obtain ⟨entries, hentries, rfl⟩ := Option.map_eq_some_iff.mp h
    exact Node.keeps_openTable _ _ _ _ hd hentries
  | element key =>
    obtain ⟨entries, hentries, rfl⟩ := Option.map_eq_some_iff.mp h
    exact Node.keeps_openElement _ _ _ _ hd hentries

theorem allWellFormed_of_foldlM {statements : List Statement} {d d' : Draft}
    (hstatements : ∀ s ∈ statements, s.WellFormed) (hd : AllWellFormed d.entries)
    (h : statements.foldlM add d = some d') : AllWellFormed d'.entries := by
  induction statements generalizing d with
  | nil =>
    obtain rfl := Option.some.inj h
    exact hd
  | cons s rest ih =>
    obtain ⟨hs, hrest⟩ := List.forall_mem_cons.mp hstatements
    rw [List.foldlM_cons] at h
    obtain ⟨next, hnext, hlater⟩ := Option.bind_eq_some_iff.mp h
    exact ih hrest (allWellFormed_of_add hs hd hnext) hlater

theorem wellFormed_of_table? {statements : List Statement} {v : Toml}
    (hstatements : ∀ s ∈ statements, s.WellFormed) (h : table? statements = some v) :
    v.WellFormed := by
  obtain ⟨d, hd, rfl⟩ := Option.map_eq_some_iff.mp h
  have hentries := allWellFormed_of_foldlM hstatements Node.allWellFormed_nil hd
  exact Node.wellFormed_value _ (.table hentries)

end Draft

theorem wellFormed_of_integer? {n : Int} {v : Toml} (h : integer? n = some v) :
    v.WellFormed := by
  unfold integer? at h
  split_ifs at h
  obtain rfl := Option.some.inj h
  exact .integer n

theorem wellFormed_of_decimal? {negative : Bool} {cs : List Char} {v : Toml}
    (h : decimal? negative cs = some v) : v.WellFormed := by
  have hfloat {m : ℕ} {e : Int} (h : (if (Binary64.ofDecimal negative m e).isInfinite then none
      else some (Toml.float (.ofDecimal negative m e))) = some v) : v.WellFormed := by
    split_ifs at h
    obtain rfl := Option.some.inj h
    exact .float (Binary64.isCanonical_ofDecimal _ _ _)
  unfold decimal? at h
  dsimp only at h
  obtain ⟨whole, -, h⟩ := Option.bind_eq_some_iff.mp h
  split at h
  · exact wellFormed_of_integer? h
  · split at h
    all_goals
      obtain ⟨fraction, -, h⟩ := Option.bind_eq_some_iff.mp h
      split at h
      all_goals
        obtain ⟨power, -, h⟩ := Option.bind_eq_some_iff.mp h
        exact hfloat h

theorem wellFormed_of_signed? {negative : Bool} {cs : List Char} {v : Toml}
    (h : signed? negative cs = some v) : v.WellFormed := by
  unfold signed? at h
  split at h
  · obtain rfl := Option.some.inj h
    exact .float trivial
  · obtain rfl := Option.some.inj h
    exact .float trivial
  · exact wellFormed_of_decimal? h

theorem wellFormed_of_scalar? {cs : List Char} {v : Toml} (h : scalar? cs = some v) :
    v.WellFormed := by
  have hradix {base : ℕ} {isDigit : Char → Bool} {cs : List Char}
      (h : radix? base isDigit cs = some v) : v.WellFormed := by
    obtain ⟨digits, -, h⟩ := Option.bind_eq_some_iff.mp h
    exact wellFormed_of_integer? h
  have hplain {cs : List Char}
      (h : ((Datetime.read? cs).map .datetime <|> signed? false cs) = some v) : v.WellFormed := by
    cases hdate : Datetime.read? cs with
    | some d =>
      rw [hdate] at h
      obtain rfl := Option.some.inj h
      exact .datetime d
    | none =>
      rw [hdate] at h
      exact wellFormed_of_signed? h
  unfold scalar? at h
  split at h
  · obtain rfl := Option.some.inj h
    exact .boolean true
  · obtain rfl := Option.some.inj h
    exact .boolean false
  · exact wellFormed_of_signed? h
  · exact wellFormed_of_signed? h
  · exact hradix h
  · exact hradix h
  · exact hradix h
  · exact hplain h

theorem wellFormed_of_readScalar {cs rest : List Char} {v : Toml}
    (h : readScalar cs = some (v, rest)) : v.WellFormed := by
  have hword {word rest : List Char} {x : Toml × List Char}
      (h : (scalar? word).map (·, rest) = some x) : x.1.WellFormed := by
    obtain ⟨y, hy, rfl⟩ := Option.map_eq_some_iff.mp h
    exact wellFormed_of_scalar? hy
  unfold readScalar at h
  dsimp only at h
  split at h
  · split_ifs at h
    · exact hword h
    · exact hword h
  · exact hword h

mutual

theorem wellFormed_of_readValue : ∀ {fuel depth : ℕ} {cs rest : List Char} {v : Toml},
    readValue fuel depth cs = some (v, rest) → v.WellFormed
  | 0, _, _, _, _, h => by cases h
  | fuel + 1, depth, cs, rest, v, h => by
    unfold readValue at h
    split at h
    · obtain ⟨⟨s, _⟩, -, heq⟩ := Option.map_eq_some_iff.mp h
      cases heq
      exact .text s
    · obtain ⟨⟨s, _⟩, -, heq⟩ := Option.map_eq_some_iff.mp h
      cases heq
      exact .text s
    · split at h
      · cases h
      · obtain ⟨⟨items, _⟩, hitems, heq⟩ := Option.map_eq_some_iff.mp h
        cases heq
        exact .array (wellFormed_of_readItems hitems nofun)
    · split at h
      · cases h
      · obtain ⟨⟨pairs, _⟩, hpairs, h⟩ := Option.bind_eq_some_iff.mp h
        obtain ⟨table, htable, heq⟩ := Option.bind_eq_some_iff.mp h
        cases heq
        exact Draft.wellFormed_of_table? (wellFormed_of_readPairs hpairs nofun) htable
    · exact wellFormed_of_readScalar h

theorem wellFormed_of_readItems : ∀ {fuel depth : ℕ} {done items : List Toml} {cs rest : List Char},
    readItems fuel depth done cs = some (items, rest) → (∀ x ∈ done, x.WellFormed) →
    ∀ x ∈ items, x.WellFormed
  | 0, _, _, _, _, _, h, _ => by cases h
  | fuel + 1, depth, done, items, cs, rest, h, hdone => by
    unfold readItems at h
    split at h
    · cases h
      exact fun x hx => hdone x (List.mem_reverse.mp hx)
    · obtain ⟨⟨x, _⟩, hx, h⟩ := Option.bind_eq_some_iff.mp h
      have hall : ∀ y ∈ x :: done, y.WellFormed :=
        List.forall_mem_cons.mpr ⟨wellFormed_of_readValue hx, hdone⟩
      dsimp only at h
      split at h
      · exact wellFormed_of_readItems h hall
      · cases h
        exact fun y hy => hall y (List.mem_reverse.mp hy)
      · cases h

theorem wellFormed_of_readPairs : ∀ {fuel depth : ℕ} {done pairs : List Statement}
    {cs rest : List Char}, readPairs fuel depth done cs = some (pairs, rest) →
    (∀ s ∈ done, s.WellFormed) → ∀ s ∈ pairs, s.WellFormed
  | 0, _, _, _, _, _, h, _ => by cases h
  | fuel + 1, depth, done, pairs, cs, rest, h, hdone => by
    unfold readPairs at h
    split at h
    · cases h
      exact fun s hs => hdone s (List.mem_reverse.mp hs)
    · obtain ⟨⟨key, _⟩, -, h⟩ := Option.bind_eq_some_iff.mp h
      dsimp only at h
      split at h
      · obtain ⟨⟨x, _⟩, hx, h⟩ := Option.bind_eq_some_iff.mp h
        have hall : ∀ s ∈ .pair key x :: done, s.WellFormed :=
          List.forall_mem_cons.mpr ⟨.pair (wellFormed_of_readValue hx), hdone⟩
        dsimp only at h
        split at h
        · exact wellFormed_of_readPairs h hall
        · cases h
          exact fun s hs => hall s (List.mem_reverse.mp hs)
        · cases h
      · cases h

end

theorem wellFormed_of_readLine {cs rest : List Char} {s : Statement}
    (h : readLine cs = some (some s, rest)) : s.WellFormed := by
  unfold readLine at h
  split at h
  · cases h
  · cases h
  · cases h
  · obtain ⟨_, -, heq⟩ := Option.map_eq_some_iff.mp h
    cases heq
  · obtain ⟨⟨key, _⟩, -, h⟩ := Option.bind_eq_some_iff.mp h
    dsimp only at h
    split at h
    · obtain ⟨_, -, heq⟩ := Option.bind_eq_some_iff.mp h
      cases heq
      exact .element key
    · cases h
  · obtain ⟨⟨key, _⟩, -, h⟩ := Option.bind_eq_some_iff.mp h
    dsimp only at h
    split at h
    · obtain ⟨_, -, heq⟩ := Option.bind_eq_some_iff.mp h
      cases heq
      exact .table key
    · cases h
  · obtain ⟨⟨key, _⟩, -, h⟩ := Option.bind_eq_some_iff.mp h
    dsimp only at h
    split at h
    · obtain ⟨⟨x, _⟩, hx, h⟩ := Option.bind_eq_some_iff.mp h
      obtain ⟨_, -, heq⟩ := Option.bind_eq_some_iff.mp h
      cases heq
      exact .pair (wellFormed_of_readValue hx)
    · cases h

theorem wellFormed_of_readLines {fuel : ℕ} {done statements : List Statement} {cs : List Char}
    (h : readLines fuel done cs = some statements) (hdone : ∀ s ∈ done, s.WellFormed) :
    ∀ s ∈ statements, s.WellFormed := by
  induction fuel generalizing done cs with
  | zero => cases h
  | succ fuel ih =>
    cases cs with
    | nil =>
      obtain rfl := Option.some.inj h
      exact fun s hs => hdone s (List.mem_reverse.mp hs)
    | cons c cs =>
      obtain ⟨⟨statement, rest⟩, hline, hlater⟩ := Option.bind_eq_some_iff.mp h
      refine ih hlater (List.forall_mem_append.mpr ⟨fun s hs => ?_, hdone⟩)
      obtain rfl := Option.mem_toList.mp hs
      exact wellFormed_of_readLine hline

theorem wellFormed_of_read? {text : String} {v : Toml} (h : read? text = some v) :
    v.WellFormed := by
  obtain ⟨statements, hstatements, htable⟩ := Option.bind_eq_some_iff.mp h
  exact Draft.wellFormed_of_table? (wellFormed_of_readLines hstatements nofun) htable

theorem entriesToJson_eq_map (entries : Entries Toml) :
    entriesToJson entries = entries.map fun e => (e.1, e.2.toJson) := by
  induction entries with
  | nil => rfl
  | cons e entries ih => rw [entriesToJson, ih, List.map_cons]

theorem itemsToJson_eq_map (items : List Toml) : itemsToJson items = items.map toJson := by
  induction items with
  | nil => rfl
  | cons x items ih => rw [itemsToJson, ih, List.map_cons]

theorem wellFormed_toJson {v : Toml} (h : v.WellFormed) : v.toJson.WellFormed := by
  induction h with
  | text s => exact .text s
  | integer n => exact .number (show Json.Number.IsCanonical (.integer n) from trivial)
  | @float x h =>
    rw [toJson]
    split_ifs
    · exact .number (show Json.Number.IsCanonical (.float x) from h)
    · exact .null
  | boolean b => exact .boolean b
  | datetime d =>
    rw [toJson]
    exact .object (List.pairwise_singleton _ _) (List.forall_mem_singleton.mpr (.text d.text))
  | array _ ih =>
    rw [toJson, itemsToJson_eq_map]
    exact .array (List.forall_mem_map.mpr ih)
  | table hsorted _ ih =>
    rw [toJson, entriesToJson_eq_map]
    exact .object (Entries.names_map toJson _ ▸ hsorted) (List.forall_mem_map.mpr ih)

end Toml

end FieldRules
