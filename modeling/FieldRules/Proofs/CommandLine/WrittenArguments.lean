import FieldRules.CommandLine.Config
import FieldRules.Proofs.CommandLine.TakenArguments
import Mathlib.Data.List.TakeDrop
import Mathlib.Data.List.TakeWhile

/-!
# Written arguments

There are several ways to write an argument in words, and `Writes` lists them all. Reading takes
words exactly if they write arguments that are proper. `ReadsAs` says once what a single word can
do: it may leave behind an option whose value is still to come, and a value or file that counts only
when the next thing begins.
-/

namespace FieldRules.CommandLine

/-- A word that is taken for an option where an option may stand. -/
def LooksLikeOption (word : String) : Prop := ∃ c cs, word.toList = '-' :: c :: cs

/-- A long option as a word, with a value after an equals sign or without one. -/
def optionWord (name : String) : Option String → String
  | none => "--" ++ name
  | some value => "--" ++ name ++ "=" ++ value

/-- The ways of writing arguments in words. A value may stand alone only if it does not look like an
option, and after `--` there is place for the schema file and nothing else. -/
inductive Writes : List Argument → List String → Prop
  | nil : Writes [] []
  | escape : Writes [] ["--"]
  | escapedFile (path : String) : Writes [.valued .schema path] ["--", path]
  | file {path : String} {xs : List Argument} {words : List String}
    (hpath : ¬ LooksLikeOption path) (hxs : Writes xs words) :
    Writes (.valued .schema path :: xs) (path :: words)
  | apart {name value : String} {slot : Slot} {xs : List Argument} {words : List String}
    (hname : longOption? name = some (.valued slot)) (hvalue : ¬ LooksLikeOption value)
    (hxs : Writes xs words) :
    Writes (.valued slot value :: xs) (optionWord name none :: value :: words)
  | attached {name : String} {slot : Slot} (value : String) {xs : List Argument}
    {words : List String} (hname : longOption? name = some (.valued slot)) (hxs : Writes xs words) :
    Writes (.valued slot value :: xs) (optionWord name (some value) :: words)
  | flag {name : String} {f : Flag} {xs : List Argument} {words : List String}
    (hname : longOption? name = some (.flag f)) (hxs : Writes xs words) :
    Writes (.flag f :: xs) (optionWord name none :: words)

theorem name_of_longOption? {name : String} {option : LongOption}
    (h : longOption? name = some option) : name ≠ "" ∧ '=' ∉ name.toList := by
  unfold longOption? at h
  split at h
  all_goals first | decide | cases h

section Words
variable {name word : String} {attached : Option String}

theorem toList_optionWord : (optionWord name attached).toList =
    '-' :: '-' :: (name.toList ++ attached.elim [] ('=' :: ·.toList)) := by
  cases attached <;> simp [optionWord, String.toList_append]

theorem optionWord_ne_escape (h : name ≠ "") : optionWord name attached ≠ "--" := by
  intro heq
  have htoList := congrArg String.toList heq
  rw [toList_optionWord] at htoList
  simp_all

theorem span_optionWord (hname : '=' ∉ name.toList) (attached : Option String) :
    (name.toList ++ attached.elim [] ('=' :: ·.toList)).span (· ≠ '=') =
      (name.toList, attached.elim [] ('=' :: ·.toList)) := by
  have h : ∀ c ∈ name.toList, decide (c ≠ '=') = true := by
    intro c hc
    exact decide_eq_true fun heq => hname (heq ▸ hc)
  rw [List.span_eq_takeWhile_dropWhile, List.takeWhile_append_of_pos h,
    List.dropWhile_append_of_pos h]
  cases attached <;> simp

theorem exists_optionWord {cs : List Char} (hword : word.toList = '-' :: '-' :: cs) :
    ∃ name attached, '=' ∉ name.toList ∧ word = optionWord name attached := by
  by_cases heq : '=' ∈ cs
  · obtain ⟨before, after, rfl, hbefore⟩ := List.eq_append_cons_of_mem heq
    refine ⟨String.ofList before, some (String.ofList after), by simpa using hbefore,
      String.toList_inj.mp ?_⟩
    rw [toList_optionWord, hword, String.toList_ofList, Option.elim_some, String.toList_ofList]
  · refine ⟨String.ofList cs, none, by simpa using heq, String.toList_inj.mp ?_⟩
    rw [toList_optionWord, hword, String.toList_ofList, Option.elim_none, List.append_nil]

end Words

namespace Reading
variable {r r' s : Reading} {a b : Arguments} {slot : Slot} {word name : String}
  {attached : Option String} {words : List String}

def SettlesAs (r : Reading) (a : Arguments) : Prop :=
  match r.pending with
  | none => r.arguments = a
  | some (_, none) => False
  | some (slot, some value) => r.arguments.take (.valued slot value) = .ok a

theorem settle_eq_ok_iff : r.settle = .ok s ↔
    ∃ a, r.SettlesAs a ∧ s = { arguments := a, afterEscape := r.afterEscape } := by
  rcases r with ⟨c, _ | ⟨slot, _ | value⟩, escape⟩
  · simp [SettlesAs, settle, eq_comm]
  · simp [SettlesAs, settle]
  · rw [settle, bind_eq_ok_iff]
    simp only [Except.ok.injEq, SettlesAs, Arguments.take, eq_comm]

theorem SettlesAs.settle (h : r.SettlesAs a) :
    r.settle = .ok { arguments := a, afterEscape := r.afterEscape } :=
  settle_eq_ok_iff.mpr ⟨a, h, rfl⟩

structure Waits (r : Reading) (slot : Slot) : Prop where
  pending : r.pending = some (slot, none)
  afterEscape : r.afterEscape = false

theorem SettlesAs.not_waits (h : r.SettlesAs a) : ¬ r.Waits slot := by
  intro hwaits
  rw [SettlesAs, hwaits.pending] at h
  exact h

theorem finish_eq_ok_iff : r.finish = .ok b ↔ r.SettlesAs b ∧ b.schema.isSome = true := by
  rw [finish, bind_eq_ok_iff]
  constructor
  · rintro ⟨s, hs, h⟩
    obtain ⟨a, ha, rfl⟩ := settle_eq_ok_iff.mp hs
    split_ifs at h with hschema
    obtain rfl := Except.ok.inj h
    exact ⟨ha, by simpa [Option.isSome_iff_ne_none] using hschema⟩
  · rintro ⟨hb, hschema⟩
    refine ⟨_, hb.settle, ?_⟩
    simp [Option.isSome_iff_ne_none.mp hschema]

def hasFile (r : Reading) : Bool :=
  r.arguments.schema.isSome || match r.pending with
    | some (slot, _) => slot = .schema
    | none => false

theorem SettlesAs.isSome_schema (h : r.SettlesAs a) : a.schema.isSome = r.hasFile := by
  rcases r with ⟨c, _ | ⟨slot, _ | value⟩, escape⟩
  · cases h
    simp [hasFile]
  · cases h
  · obtain ⟨-, rfl⟩ := Arguments.take_eq_ok_iff.mp h
    cases slot <;> simp [Arguments.add, hasFile]

theorem readPlain_of_waits (h : r.Waits slot) :
    r.readPlain word = .ok ⟨r.arguments, some (slot, some word), false⟩ := by
  rw [readPlain, h.pending, h.afterEscape]

theorem readPlain_of_not_waits (h : ∀ slot, ¬ r.Waits slot) :
    r.readPlain word = if r.hasFile then .error .unknownArgument
      else r.settle >>= fun s => .ok { s with pending := some (.schema, some word) } := by
  rcases r with ⟨c, _ | ⟨slot, _ | value⟩, _ | _⟩
  case some.none.false => exact absurd ⟨rfl, rfl⟩ (h slot)
  all_goals rfl

/-- A word that is no value names the schema file, unless there is one. -/
theorem readPlain_eq_ok_iff (h : ∀ slot, ¬ r.Waits slot) : r.readPlain word = .ok r' ↔
    ∃ a, r.SettlesAs a ∧ a.schema.isSome = false ∧
      r' = ⟨a, some (.schema, some word), r.afterEscape⟩ := by
  rw [readPlain_of_not_waits h]
  constructor
  · intro hr'
    split_ifs at hr' with hfile
    obtain ⟨s, hs, hr'⟩ := bind_eq_ok_iff.mp hr'
    obtain ⟨a, ha, rfl⟩ := settle_eq_ok_iff.mp hs
    exact ⟨a, ha, by simpa [ha.isSome_schema] using hfile, (Except.ok.inj hr').symm⟩
  · rintro ⟨a, ha, hschema, rfl⟩
    rw [← ha.isSome_schema, hschema, if_neg Bool.false_ne_true, ha.settle]
    rfl

theorem readWord_plain (h : r.afterEscape = true ∨ ¬ LooksLikeOption word) :
    r.readWord word = r.readPlain word := by
  rw [readWord]
  split_ifs with hr
  · rfl
  · have hword := h.resolve_left hr
    split
    case h_4 => rfl
    all_goals exact absurd ⟨_, _, ‹_›⟩ hword

theorem readWord_escape (hr : r.afterEscape = false) :
    r.readWord "--" = .ok { r with afterEscape := true } := by
  rw [readWord, if_neg (by simp [hr])]
  rfl

theorem readWord_optionWord (hr : r.afterEscape = false) (hne : optionWord name attached ≠ "--")
    (hname : '=' ∉ name.toList) :
    r.readWord (optionWord name attached) = r.readLong name attached := by
  have hspan := span_optionWord hname attached
  rw [readWord, if_neg (by simp [hr]), toList_optionWord]
  cases hcs : name.toList ++ attached.elim [] ('=' :: ·.toList) with
  | nil => exact absurd (String.toList_inj.mp (by rw [toList_optionWord, hcs]; rfl)) hne
  | cons c cs =>
    rw [hcs] at hspan
    simp only [hspan]
    cases attached <;> simp

theorem readWord_long {option : LongOption} (hr : r.afterEscape = false)
    (hname : longOption? name = some option) :
    r.readWord (optionWord name attached) = r.readLong name attached := by
  obtain ⟨hne, heq⟩ := name_of_longOption? hname
  exact readWord_optionWord hr (optionWord_ne_escape hne) heq

theorem readShort_ne_ok {letter : Char} : r.readShort letter ≠ .ok r' := by
  rw [readShort]
  cases r.settle <;> split_ifs <;> simp [bind, Except.bind]

/-- A word that looks like an option is `--` or a long option, or else it is refused. -/
theorem readWord_eq_ok_of_looksLikeOption (hr : r.afterEscape = false)
    (hword : LooksLikeOption word) (h : r.readWord word = .ok r') :
    (word = "--" ∧ r' = { r with afterEscape := true }) ∨
      ∃ name attached, word = optionWord name attached ∧ r.readLong name attached = .ok r' := by
  obtain ⟨c, cs, hcs⟩ := hword
  by_cases hc : c = '-'
  · subst hc
    by_cases hescape : word = "--"
    · subst hescape
      rw [readWord_escape hr] at h
      exact .inl ⟨rfl, (Except.ok.inj h).symm⟩
    · obtain ⟨name, attached, hname, rfl⟩ := exists_optionWord hcs
      rw [readWord_optionWord hr hescape hname] at h
      exact .inr ⟨name, attached, rfl, h⟩
  · rw [readWord, if_neg (by simp [hr]), hcs] at h
    split at h
    case h_3 => exact absurd h readShort_ne_ok
    all_goals simp_all

inductive ReadsAs (r : Reading) : String → Reading → Prop
  | escape (hr : r.afterEscape = false) : ReadsAs r "--" { r with afterEscape := true }
  | value {slot : Slot} {value : String} (hwaits : r.Waits slot)
    (hvalue : ¬ LooksLikeOption value) :
    ReadsAs r value ⟨r.arguments, some (slot, some value), false⟩
  | file {path : String} {a : Arguments} (hpath : r.afterEscape = true ∨ ¬ LooksLikeOption path)
    (ha : r.SettlesAs a) (hschema : a.schema.isSome = false) :
    ReadsAs r path ⟨a, some (.schema, some path), r.afterEscape⟩
  | apart {name : String} {slot : Slot} {a : Arguments} (hr : r.afterEscape = false)
    (ha : r.SettlesAs a) (hname : longOption? name = some (.valued slot)) :
    ReadsAs r (optionWord name none) ⟨a, some (slot, none), false⟩
  | attached {name value : String} {slot : Slot} {a b : Arguments} (hr : r.afterEscape = false)
    (ha : r.SettlesAs a) (hname : longOption? name = some (.valued slot))
    (hb : a.take (.valued slot value) = .ok b) :
    ReadsAs r (optionWord name (some value)) ⟨b, none, false⟩
  | flag {name : String} {f : Flag} {a b : Arguments} (hr : r.afterEscape = false)
    (ha : r.SettlesAs a) (hname : longOption? name = some (.flag f))
    (hb : a.take (.flag f) = .ok b) :
    ReadsAs r (optionWord name none) ⟨b, none, false⟩

theorem readsAs_of_readPlain (hword : r.afterEscape = true ∨ ¬ LooksLikeOption word)
    (h : r.readPlain word = .ok r') : r.ReadsAs word r' := by
  by_cases hwaits : ∃ slot, r.Waits slot
  · obtain ⟨slot, hwaits⟩ := hwaits
    rw [readPlain_of_waits hwaits] at h
    obtain rfl := Except.ok.inj h
    exact .value hwaits (hword.resolve_left (by simp [hwaits.afterEscape]))
  · obtain ⟨a, ha, hschema, rfl⟩ := (readPlain_eq_ok_iff (not_exists.mp hwaits)).mp h
    exact .file hword ha hschema

theorem readsAs_of_readLong (hr : r.afterEscape = false) (h : r.readLong name attached = .ok r') :
    r.ReadsAs (optionWord name attached) r' := by
  unfold readLong at h
  split at h
  case h_1 => cases h
  case h_2 slot hname =>
    obtain ⟨s, hs, h⟩ := bind_eq_ok_iff.mp h
    obtain ⟨a, ha, rfl⟩ := settle_eq_ok_iff.mp hs
    obtain rfl := Except.ok.inj h
    rw [hr]
    exact .apart hr ha hname
  case h_3 slot value hname =>
    obtain ⟨s, hs, h⟩ := bind_eq_ok_iff.mp h
    obtain ⟨a, ha, rfl⟩ := settle_eq_ok_iff.mp hs
    obtain ⟨b, hb, h⟩ := bind_eq_ok_iff.mp h
    obtain rfl := Except.ok.inj h
    rw [hr]
    exact .attached hr ha hname hb
  case h_4 => cases h
  case h_5 f hname =>
    obtain ⟨s, hs, h⟩ := bind_eq_ok_iff.mp h
    obtain ⟨a, ha, rfl⟩ := settle_eq_ok_iff.mp hs
    obtain ⟨b, hb, h⟩ := bind_eq_ok_iff.mp h
    obtain rfl := Except.ok.inj h
    rw [hr]
    exact .flag hr ha hname hb
  all_goals
    obtain ⟨s, -, h⟩ := bind_eq_ok_iff.mp h
    cases h

theorem ReadsAs.readWord (h : r.ReadsAs word r') : r.readWord word = .ok r' := by
  cases h with
  | escape hr => exact readWord_escape hr
  | value hwaits hvalue => rw [readWord_plain (.inr hvalue), readPlain_of_waits hwaits]
  | file hpath ha hschema =>
    rw [readWord_plain hpath]
    exact (readPlain_eq_ok_iff fun _ => ha.not_waits).mpr ⟨_, ha, hschema, rfl⟩
  | apart hr ha hname =>
    rw [readWord_long hr hname]
    unfold readLong
    rw [hname, ha.settle, hr]
    rfl
  | attached hr ha hname hb =>
    rw [readWord_long hr hname]
    unfold readLong
    rw [hname, ha.settle, hr]
    exact bind_eq_ok_iff.mpr ⟨_, rfl, bind_eq_ok_iff.mpr ⟨_, hb, rfl⟩⟩
  | flag hr ha hname hb =>
    rw [readWord_long hr hname]
    unfold readLong
    rw [hname, ha.settle, hr]
    exact bind_eq_ok_iff.mpr ⟨_, rfl, bind_eq_ok_iff.mpr ⟨_, hb, rfl⟩⟩

theorem readWord_eq_ok_iff : r.readWord word = .ok r' ↔ r.ReadsAs word r' := by
  refine ⟨fun h => ?_, ReadsAs.readWord⟩
  by_cases hplain : r.afterEscape = true ∨ ¬ LooksLikeOption word
  · rw [readWord_plain hplain] at h
    exact readsAs_of_readPlain hplain h
  · push Not at hplain
    obtain ⟨hescape, hword⟩ := hplain
    have hr : r.afterEscape = false := Bool.eq_false_iff.mpr hescape
    rcases readWord_eq_ok_of_looksLikeOption hr hword h with ⟨rfl, rfl⟩ | ⟨_, _, rfl, hlong⟩
    · exact .escape hr
    · exact readsAs_of_readLong hr hlong

def complete (r : Reading) (words : List String) : Except Refusal Arguments := do
  (← words.foldlM readWord r).finish

theorem complete_nil_eq_ok_iff :
    r.complete [] = .ok b ↔ r.SettlesAs b ∧ b.schema.isSome = true :=
  finish_eq_ok_iff

theorem complete_cons_eq_ok_iff : r.complete (word :: words) = .ok b ↔
    ∃ r', r.ReadsAs word r' ∧ r'.complete words = .ok b := by
  simp only [complete, List.foldlM_cons, bind_assoc, bind_eq_ok_iff, readWord_eq_ok_iff]

theorem readsAs_afterEscape (hr : r.afterEscape = true) (h : r.ReadsAs word r') :
    ∃ a, r.SettlesAs a ∧ a.schema.isSome = false ∧ r' = ⟨a, some (.schema, some word), true⟩ := by
  have hwaits (slot : Slot) : ¬ r.Waits slot := by
    intro hwaits
    simp [hwaits.afterEscape] at hr
  have hplain := h.readWord
  rw [readWord_plain (.inl hr), readPlain_eq_ok_iff hwaits, hr] at hplain
  exact hplain

/-- After `--` there is place for the schema file and nothing else. -/
theorem complete_afterEscape (hr : r.afterEscape = true) (h : r.complete words = .ok b) :
    ∃ a, r.SettlesAs a ∧ (words = [] ∧ a = b ∨
      ∃ path, words = [path] ∧ a.take (.valued .schema path) = .ok b) := by
  cases words with
  | nil => exact ⟨b, (complete_nil_eq_ok_iff.mp h).1, .inl ⟨rfl, rfl⟩⟩
  | cons path words =>
    obtain ⟨_, hpath, h⟩ := complete_cons_eq_ok_iff.mp h
    obtain ⟨a, ha, -, rfl⟩ := readsAs_afterEscape hr hpath
    refine ⟨a, ha, .inr ⟨path, ?_⟩⟩
    cases words with
    | nil => exact ⟨rfl, (complete_nil_eq_ok_iff.mp h).1⟩
    | cons word words =>
      obtain ⟨_, hword, -⟩ := complete_cons_eq_ok_iff.mp h
      obtain ⟨a', ha', hschema, -⟩ := readsAs_afterEscape rfl hword
      rw [ha'.isSome_schema] at hschema
      simp [hasFile] at hschema

inductive Continues (b : Arguments) : Reading → List String → Prop
  | settled {r : Reading} {a : Arguments} {xs : List Argument} {words : List String}
    (ha : r.SettlesAs a) (hxs : Writes xs words) (hb : a.takeAll xs = .ok b) :
    Continues b r words
  | waiting {r : Reading} {slot : Slot} {value : String} {xs : List Argument} {words : List String}
    (hwaits : r.Waits slot) (hvalue : ¬ LooksLikeOption value) (hxs : Writes xs words)
    (hb : r.arguments.takeAll (.valued slot value :: xs) = .ok b) :
    Continues b r (value :: words)

/-- What is read to the end has been written: by induction on the words, with one case for each way
of reading the first. -/
theorem continues_of_complete (h : r.complete words = .ok b) (hr : r.afterEscape = false) :
    Continues b r words := by
  induction words generalizing r with
  | nil => exact .settled (complete_nil_eq_ok_iff.mp h).1 .nil rfl
  | cons word words ih =>
    obtain ⟨r', hr', h⟩ := complete_cons_eq_ok_iff.mp h
    cases hr' with
    | escape =>
      obtain ⟨a, ha, ⟨rfl, rfl⟩ | ⟨path, rfl, hpath⟩⟩ := complete_afterEscape rfl h
      · exact .settled ha .escape rfl
      · exact .settled ha (.escapedFile path)
          (Arguments.takeAll_cons_eq_ok_iff.mpr ⟨_, hpath, rfl⟩)
    | value hwaits hvalue =>
      cases ih h rfl with
      | settled ha hxs hb =>
        exact .waiting hwaits hvalue hxs (Arguments.takeAll_cons_eq_ok_iff.mpr ⟨_, ha, hb⟩)
      | waiting hwaits' => cases hwaits'.pending
    | file hpath ha =>
      cases ih h hr with
      | settled ha' hxs hb =>
        exact .settled ha (.file (hpath.resolve_left (by simp [hr])) hxs)
          (Arguments.takeAll_cons_eq_ok_iff.mpr ⟨_, ha', hb⟩)
      | waiting hwaits => cases hwaits.pending
    | apart _ ha hname =>
      cases ih h rfl with
      -- the value is still missing, so the next word must be it
      | settled ha' => cases ha'
      | waiting hwaits hvalue hxs hb =>
        cases hwaits.pending
        exact .settled ha (.apart hname hvalue hxs) hb
    | attached _ ha hname hx =>
      cases ih h rfl with
      | settled ha' hxs hb =>
        cases ha'
        exact .settled ha (.attached _ hname hxs)
          (Arguments.takeAll_cons_eq_ok_iff.mpr ⟨_, hx, hb⟩)
      | waiting hwaits => cases hwaits.pending
    | flag _ ha hname hx =>
      cases ih h rfl with
      | settled ha' hxs hb =>
        cases ha'
        exact .settled ha (.flag hname hxs) (Arguments.takeAll_cons_eq_ok_iff.mpr ⟨_, hx, hb⟩)
      | waiting hwaits => cases hwaits.pending

theorem complete_of_writes {xs : List Argument} (h : Writes xs words) (hr : r.afterEscape = false)
    (ha : r.SettlesAs a) (hxs : a.takeAll xs = .ok b)
    (hb : b.schema.isSome = true) : r.complete words = .ok b := by
  induction h generalizing r a with
  | nil =>
    obtain rfl := Arguments.takeAll_nil_eq_ok_iff.mp hxs
    exact complete_nil_eq_ok_iff.mpr ⟨ha, hb⟩
  | escape =>
    obtain rfl := Arguments.takeAll_nil_eq_ok_iff.mp hxs
    exact complete_cons_eq_ok_iff.mpr ⟨_, .escape hr, complete_nil_eq_ok_iff.mpr ⟨ha, hb⟩⟩
  | escapedFile path =>
    obtain ⟨a', hx, hxs⟩ := Arguments.takeAll_cons_eq_ok_iff.mp hxs
    obtain rfl := Arguments.takeAll_nil_eq_ok_iff.mp hxs
    obtain ⟨⟨hschema, -⟩, -⟩ := Arguments.take_eq_ok_iff.mp hx
    refine complete_cons_eq_ok_iff.mpr ⟨_, .escape hr, ?_⟩
    refine complete_cons_eq_ok_iff.mpr ⟨_, .file (.inl rfl) ha hschema, ?_⟩
    exact complete_nil_eq_ok_iff.mpr ⟨hx, hb⟩
  | file hpath _ ih =>
    obtain ⟨a', hx, hxs⟩ := Arguments.takeAll_cons_eq_ok_iff.mp hxs
    -- a second file would be refused at once, before the first one counts
    obtain ⟨⟨hschema, -⟩, -⟩ := Arguments.take_eq_ok_iff.mp hx
    exact complete_cons_eq_ok_iff.mpr ⟨_, .file (.inr hpath) ha hschema, ih hr hx hxs⟩
  | apart hname hvalue _ ih =>
    obtain ⟨a', hx, hxs⟩ := Arguments.takeAll_cons_eq_ok_iff.mp hxs
    refine complete_cons_eq_ok_iff.mpr ⟨_, .apart hr ha hname, ?_⟩
    exact complete_cons_eq_ok_iff.mpr ⟨_, .value ⟨rfl, rfl⟩ hvalue, ih rfl hx hxs⟩
  | attached value hname _ ih =>
    obtain ⟨a', hx, hxs⟩ := Arguments.takeAll_cons_eq_ok_iff.mp hxs
    exact complete_cons_eq_ok_iff.mpr ⟨_, .attached hr ha hname hx, ih rfl rfl hxs⟩
  | flag hname _ ih =>
    obtain ⟨a', hx, hxs⟩ := Arguments.takeAll_cons_eq_ok_iff.mp hxs
    exact complete_cons_eq_ok_iff.mpr ⟨_, .flag hr ha hname hx, ih rfl rfl hxs⟩

theorem isSome_schema_of_complete (h : r.complete words = .ok b) : b.schema.isSome = true := by
  obtain ⟨r', -, h⟩ := bind_eq_ok_iff.mp h
  exact (finish_eq_ok_iff.mp h).2

end Reading

/-- Reading takes what is a writing of proper arguments, and nothing else. -/
theorem Arguments.read_eq_ok_iff {words : List String} {a : Arguments} :
    read words = .ok a ↔ ∃ xs, Writes xs words ∧ Proper xs ∧ addAll {} xs = a := by
  constructor
  · intro h
    have hfile : a.schema.isSome = true := Reading.isSome_schema_of_complete h
    cases Reading.continues_of_complete h rfl with
    | settled hempty hxs ha =>
      cases hempty
      exact ⟨_, hxs, takeAll_empty_iff.mp ⟨ha, hfile⟩⟩
    | waiting hwaits => cases hwaits.pending
  · rintro ⟨xs, hxs, hproper⟩
    obtain ⟨ha, hfile⟩ := takeAll_empty_iff.mpr hproper
    exact Reading.complete_of_writes hxs rfl rfl ha hfile

theorem Config.read_eq_ok_iff {words : List String} {c : Config} :
    read words = .ok c ↔ ∃ xs path, Writes xs words ∧ Proper xs ∧
      (Arguments.addAll {} xs).schema = some path ∧
      ofArguments path (.addAll {} xs) = c := by
  rw [read, bind_eq_ok_iff]
  constructor
  · rintro ⟨a, ha, h⟩
    obtain ⟨xs, hxs, hproper, rfl⟩ := Arguments.read_eq_ok_iff.mp ha
    cases hpath : (Arguments.addAll {} xs).schema with
    | none => simp [hpath] at h
    | some path =>
      rw [hpath] at h
      exact ⟨xs, path, hxs, hproper, hpath, Except.ok.inj h⟩
  · rintro ⟨xs, path, hxs, hproper, hpath, rfl⟩
    refine ⟨_, Arguments.read_eq_ok_iff.mpr ⟨xs, hxs, hproper, rfl⟩, ?_⟩
    rw [hpath]

end FieldRules.CommandLine
