import FieldRules.Proofs.CommandLine.WrittenArguments

/-!
# Lists of fields

The fields to validate are names between commas, in the values of any number of options. However the
names are spread over the options, and whatever empty names stand among them, the fields are these
names in their order. Where no name is left, all fields are meant.
-/

namespace FieldRules.CommandLine
variable {text : String} {names segments : List String}

structure IsCut (text : String) (segments : List String) : Prop where
  nonempty : segments ≠ []
  commaFree : ∀ segment ∈ segments, ',' ∉ segment.toList
  joined : ",".intercalate segments = text

def IsSegment (text segment : String) : Prop :=
  ∃ segments, IsCut text segments ∧ segment ∈ segments

theorem cutAtCommas_eq_splitOn (cs : List Char) : cutAtCommas cs = cs.splitOn ',' := by
  induction cs with
  | nil => rfl
  | cons c cs ih =>
    rw [cutAtCommas, ih, List.splitOn_cons_eq_if_modifyHead]
    cases h : cs.splitOn ',' with
    | nil => exact absurd h (List.splitOn_ne_nil _ _)
    | cons piece pieces => by_cases hc : c = ',' <;> simp [hc]

theorem notMem_of_mem_splitOn {α : Type} [DecidableEq α] {x : α} {xs piece : List α}
    (h : piece ∈ xs.splitOn x) : x ∉ piece := by
  induction xs generalizing piece with
  | nil =>
    obtain rfl := List.mem_singleton.mp h
    exact List.not_mem_nil
  | cons y ys ih =>
    rw [List.splitOn_cons_eq_if_modifyHead] at h
    split_ifs at h with hy
    · rcases List.mem_cons.mp h with rfl | h
      · exact List.not_mem_nil
      · exact ih h
    · cases hys : ys.splitOn x with
      | nil => exact absurd hys (List.splitOn_ne_nil _ _)
      | cons first rest =>
        have hne : x ≠ y := fun heq => hy (beq_iff_eq.mpr heq.symm)
        rw [hys] at h ih
        rcases List.mem_cons.mp h with rfl | h
        · exact List.not_mem_cons_of_ne_of_not_mem hne (ih List.mem_cons_self)
        · exact ih (List.mem_cons_of_mem _ h)

theorem pieces_intercalate (hne : segments ≠ [])
    (hfree : ∀ segment ∈ segments, ',' ∉ segment.toList) :
    pieces (",".intercalate segments) = segments := by
  have hsplit : ([','].intercalate (segments.map String.toList)).splitOn ',' =
      segments.map String.toList :=
    List.splitOn_intercalate ',' (List.forall_mem_map.mpr hfree) (by simpa using hne)
  have hcomma : ",".toList = [','] := rfl
  rw [pieces, cutAtCommas_eq_splitOn, String.toList_intercalate, hcomma, hsplit, List.map_map]
  simp

theorem isCut_pieces (text : String) : IsCut text (pieces text) where
  nonempty := by
    rw [pieces, cutAtCommas_eq_splitOn]
    simp
  commaFree := by
    intro segment h
    obtain ⟨piece, hpiece, rfl⟩ := List.mem_map.mp h
    rw [cutAtCommas_eq_splitOn] at hpiece
    rw [String.toList_ofList]
    exact notMem_of_mem_splitOn hpiece
  joined := by
    have hcomma : ",".toList = [','] := rfl
    refine String.toList_inj.mp ?_
    rw [String.toList_intercalate, pieces, cutAtCommas_eq_splitOn, hcomma, List.map_map]
    simp

/-- There is one way to cut a text. -/
theorem isCut_iff : IsCut text segments ↔ pieces text = segments := by
  constructor
  · rintro ⟨hne, hfree, rfl⟩
    exact pieces_intercalate hne hfree
  · rintro rfl
    exact isCut_pieces text

theorem isSegment_iff {segment : String} : IsSegment text segment ↔ segment ∈ pieces text := by
  simp only [IsSegment, isCut_iff, exists_eq_left']

def IsName (name : String) : Prop := name ≠ "" ∧ ',' ∉ name.toList

/-- The second list is the first with empty texts put anywhere into it. -/
inductive Padded : List String → List String → Prop
  | nil : Padded [] []
  | name (name : String) {names segments : List String} (h : Padded names segments) :
    Padded (name :: names) (name :: segments)
  | blank {names segments : List String} (h : Padded names segments) :
    Padded names ("" :: segments)

theorem Padded.filter_eq (h : Padded names segments) (hnames : ∀ name ∈ names, IsName name) :
    segments.filter (· ≠ "") = names := by
  induction h with
  | nil => rfl
  | name name _ ih =>
    obtain ⟨⟨hname, -⟩, hnames⟩ := List.forall_mem_cons.mp hnames
    rw [List.filter_cons_of_pos (by simpa using hname), ih hnames]
  | blank _ ih => rw [List.filter_cons_of_neg (by simp), ih hnames]

theorem Padded.commaFree (h : Padded names segments) (hnames : ∀ name ∈ names, IsName name) :
    ∀ segment ∈ segments, ',' ∉ segment.toList := by
  induction h with
  | nil => exact fun _ h => absurd h List.not_mem_nil
  | name name _ ih =>
    obtain ⟨⟨-, hname⟩, hnames⟩ := List.forall_mem_cons.mp hnames
    exact List.forall_mem_cons.mpr ⟨hname, ih hnames⟩
  | blank _ ih => exact List.forall_mem_cons.mpr ⟨List.not_mem_nil, ih hnames⟩

theorem Padded.filter_pieces (h : Padded names segments) (hnames : ∀ name ∈ names, IsName name) :
    (pieces (",".intercalate segments)).filter (· ≠ "") = names := by
  cases segments with
  | nil =>
    -- no segment at all and a single empty one make the same text
    cases h
    rfl
  | cons segment segments =>
    rw [pieces_intercalate (List.cons_ne_nil _ _) (h.commaFree hnames), h.filter_eq hnames]

theorem filter_flatMap_pieces {groups segments : List (List String)}
    (h : List.Forall₂ Padded groups segments) (hnames : ∀ name ∈ groups.flatten, IsName name) :
    ((segments.map ",".intercalate).flatMap pieces).filter (· ≠ "") = groups.flatten := by
  induction h with
  | nil => rfl
  | cons hgroup _ ih =>
    rw [List.flatten_cons, List.forall_mem_append] at hnames
    rw [List.map_cons, List.flatMap_cons, List.filter_append, hgroup.filter_pieces hnames.1,
      ih hnames.2, List.flatten_cons]

def Argument.fieldList? : Argument → Option String
  | valued .fields text => some text
  | _ => none

def fieldLists (xs : List Argument) : List String := xs.filterMap Argument.fieldList?

theorem Arguments.fields_add (a : Arguments) (x : Argument) :
    (a.add x).fields.getD [] = a.fields.getD [] ++ x.fieldList?.elim [] pieces := by
  rcases x with ⟨⟨⟩, value⟩ | ⟨⟨⟩⟩ <;> simp [add, Argument.fieldList?]

theorem Arguments.fields_addAll (a : Arguments) (xs : List Argument) :
    (a.addAll xs).fields.getD [] = a.fields.getD [] ++ (fieldLists xs).flatMap pieces := by
  induction xs generalizing a with
  | nil => simp [addAll, fieldLists]
  | cons x xs ih =>
    rw [addAll_cons, ih, fields_add, fieldLists, fieldLists, List.filterMap_cons,
      List.append_assoc]
    cases x.fieldList? <;> rfl

namespace Config
variable {fields : Option (List String)}

theorem fieldNames?_eq_none_iff :
    fieldNames? fields = none ↔ (fields.getD []).filter (· ≠ "") = [] := by
  cases fields with
  | none => simp [fieldNames?]
  | some segments =>
    rw [fieldNames?, Option.map_some, Option.getD_some]
    cases segments.filter (· ≠ "") <;> simp

theorem fieldNames?_eq_some_iff : fieldNames? fields = some names ↔
    names ≠ [] ∧ (fields.getD []).filter (· ≠ "") = names := by
  cases fields with
  | none => simp [fieldNames?]
  | some segments =>
    rw [fieldNames?, Option.map_some, Option.getD_some]
    cases segments.filter (· ≠ "") with
    | nil => simp
    | cons name rest =>
      exact Option.some_inj.trans ⟨fun h => ⟨h ▸ List.cons_ne_nil _ _, h⟩, And.right⟩

end Config

structure Lists (texts : List String) (fields : Option (List String)) : Prop where
  /-- Names in groups, one group to a text and with empty names put in, are listed as they are. -/
  names : ∀ groups segments, List.Forall₂ Padded groups segments →
    texts = segments.map ",".intercalate → (∀ name ∈ groups.flatten, IsName name) →
      groups.flatten ≠ [] → fields = some groups.flatten
  none_iff : fields = none ↔ ∀ text ∈ texts, ∀ segment, IsSegment text segment → segment = ""
  nonempty : ∀ names, fields = some names → names ≠ [] ∧ "" ∉ names

theorem lists_fieldNames? {texts : List String} {fields : Option (List String)}
    (h : fields.getD [] = texts.flatMap pieces) : Lists texts (Config.fieldNames? fields) where
  names := by
    rintro groups segments hpadded rfl hnames hne
    exact Config.fieldNames?_eq_some_iff.mpr ⟨hne, h ▸ filter_flatMap_pieces hpadded hnames⟩
  none_iff := by
    rw [Config.fieldNames?_eq_none_iff, h, List.filter_eq_nil_iff, List.forall_mem_flatMap]
    simp only [isSegment_iff, decide_eq_true_eq, ne_eq, not_not]
  nonempty := by
    intro names hsome
    obtain ⟨hne, rfl⟩ := Config.fieldNames?_eq_some_iff.mp hsome
    exact ⟨hne, by simp⟩

/-- Every writing of proper arguments is taken, and the fields are the ones that its options list.
Nothing else is taken. -/
theorem fields_of_written :
    (∀ xs words, Writes xs words → Proper xs →
      ∃ c, Config.read words = .ok c ∧ Lists (fieldLists xs) c.fields) ∧
    ∀ words c, Config.read words = .ok c → ∃ xs, Writes xs words ∧ Proper xs := by
  constructor
  · intro xs words hxs hproper
    obtain ⟨path, hpath⟩ := Option.isSome_iff_exists.mp
      (Arguments.isSome_schema_addAll.mpr hproper.file)
    refine ⟨_, Config.read_eq_ok_iff.mpr ⟨xs, path, hxs, hproper, hpath, rfl⟩, ?_⟩
    exact lists_fieldNames? (Arguments.fields_addAll {} xs)
  · intro words c hc
    obtain ⟨xs, path, hxs, hproper, -⟩ := Config.read_eq_ok_iff.mp hc
    exact ⟨xs, hxs, hproper⟩

def scatteredArguments : List Argument :=
  [.valued .fields ",foo", .flag .strict, .valued .fields "", .valued .fields "-a,,foo,",
    .valued .schema "--strict"]

def scatteredWords : List String :=
  ["--fields", ",foo", "--strict", "--fields=", "--fields=-a,,foo,", "--", "--strict"]

theorem fields_of_scattered :
    Writes scatteredArguments scatteredWords ∧ Proper scatteredArguments ∧
    List.Forall₂ Padded [["foo"], [], ["-a", "foo"]] [["", "foo"], [""], ["-a", "", "foo", ""]] ∧
    (∀ name ∈ ["foo", "-a", "foo"], IsName name) ∧
    ∃ c, Config.read scatteredWords = .ok c ∧ c.fields = some ["foo", "-a", "foo"] := by
  have hwrites : Writes scatteredArguments scatteredWords := by
    have hfoo : ¬ LooksLikeOption ",foo" := by simp [LooksLikeOption]
    have hwords : scatteredWords = [optionWord "fields" none, ",foo", optionWord "strict" none,
      optionWord "fields" (some ""), optionWord "fields" (some "-a,,foo,"), "--", "--strict"] := rfl
    rw [hwords]
    exact .apart rfl hfoo (.flag rfl (.attached _ rfl (.attached _ rfl (.escapedFile _))))
  have hproper : Proper scatteredArguments :=
    ⟨⟨"--strict", by simp [scatteredArguments]⟩, by decide, by decide⟩
  have hpadded : List.Forall₂ Padded [["foo"], [], ["-a", "foo"]]
      [["", "foo"], [""], ["-a", "", "foo", ""]] :=
    .cons (.blank (.name _ .nil)) (.cons (.blank .nil)
      (.cons (.name _ (.blank (.name _ (.blank .nil)))) .nil))
  have hnames : ∀ name ∈ ["foo", "-a", "foo"], IsName name := by simp [IsName]
  obtain ⟨c, hc, hlists⟩ := fields_of_written.1 _ _ hwrites hproper
  exact ⟨hwrites, hproper, hpadded, hnames, c, hc,
    hlists.names _ _ hpadded rfl hnames (List.cons_ne_nil _ _)⟩

example : (Config.read ["schema.toml", "--fields=,,", "--fields", ""]).map Config.fields =
    .ok none := rfl

end FieldRules.CommandLine
