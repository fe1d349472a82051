import FieldRules.Proofs.Except
import FieldRules.Proofs.Table.Repeats
import FieldRules.SchemaFile.Resolution

/-!
# Resolving schema files

Resolving a file builds its rules in the order of the document, those of replaced fields among them,
and fails with the first that cannot be built. If all of them build, the schema lists the fields in
the order of their first entries, and each declares what its last entry says. Then the messages are
read.
-/

namespace FieldRules

namespace SchemaFile

/-- The rules of some field entries in the order of the document, each with its field's name. -/
def ruleEntries (fields : List FieldEntry) : List (String × RuleEntry) :=
  fields.flatMap fun field => field.rules.map fun rule => (field.name, rule)

theorem ruleEntries_cons (field : FieldEntry) (fields : List FieldEntry) :
    ruleEntries (field :: fields) =
      (field.rules.map fun rule => (field.name, rule)) ++ ruleEntries fields :=
  List.flatMap_cons

def ruleFault? (registry : Registry) : String × RuleEntry → Option ResolveError
  | (field, rule) =>
    match registry.build rule.kindName rule.parameter with
    | .ok _ => none
    | .error cause => some (.rule rule.name field cause)

def Builds (registry : Registry) (rule : RuleEntry) : Prop :=
  ∃ predicate, registry.build rule.kindName rule.parameter = .ok predicate

theorem ruleFault?_eq_none_iff {registry : Registry} {x : String × RuleEntry} :
    ruleFault? registry x = none ↔ Builds registry x.2 := by
  rw [ruleFault?, Builds]
  cases registry.build x.2.kindName x.2.parameter <;> simp

theorem addRules_eq_error_iff {registry : Registry} {field : String} {spec : FieldSpec}
    {rules : List RuleEntry} {e : ResolveError} :
    addRules registry field spec rules = .error e ↔
      rules.findSome? (fun rule => ruleFault? registry (field, rule)) = some e := by
  induction rules generalizing spec with
  | nil => simp [addRules]
  | cons rule rules ih =>
    rw [addRules, List.findSome?_cons, ruleFault?]
    cases registry.build rule.kindName rule.parameter with
    | ok predicate => exact ih
    | error cause => simp

theorem fieldSpec_eq_error_iff {registry : Registry} {entry : FieldEntry} {e : ResolveError} :
    fieldSpec registry entry = .error e ↔
      (entry.rules.map fun rule => (entry.name, rule)).findSome? (ruleFault? registry) =
        some e := by
  rw [fieldSpec, addRules_eq_error_iff, List.findSome?_map]
  rfl

theorem addFields_eq_error_iff {registry : Registry} {schema : Schema} {fields : List FieldEntry}
    {e : ResolveError} :
    addFields registry schema fields = .error e ↔
      (ruleEntries fields).findSome? (ruleFault? registry) = some e := by
  induction fields generalizing schema with
  | nil => simp [addFields, ruleEntries]
  | cons field fields ih =>
    rw [addFields, bind_eq_error_iff, ruleEntries_cons, List.findSome?_append,
      fieldSpec_eq_error_iff]
    cases hspec : fieldSpec registry field with
    | error e' =>
      rw [fieldSpec_eq_error_iff.mp hspec]
      simp
    | ok spec =>
      have hnone : (field.rules.map fun rule => (field.name, rule)).findSome?
          (ruleFault? registry) = none := by
        by_contra hne
        obtain ⟨e', he'⟩ := Option.ne_none_iff_exists'.mp hne
        rw [← fieldSpec_eq_error_iff, hspec] at he'
        cases he'
      rw [hnone]
      simpa using ih

theorem addFields_ok_iff {registry : Registry} {fields : List FieldEntry} (schema : Schema) :
    (∃ schema', addFields registry schema fields = .ok schema') ↔
      ∀ x ∈ ruleEntries fields, Builds registry x.2 := by
  simp only [← ruleFault?_eq_none_iff]
  rw [← List.findSome?_eq_none_iff]
  cases h : addFields registry schema fields with
  | ok schema' =>
    refine ⟨fun _ => ?_, fun _ => ⟨schema', rfl⟩⟩
    by_contra hne
    obtain ⟨e, he⟩ := Option.ne_none_iff_exists'.mp hne
    have hfails : addFields registry schema fields = .error e := addFields_eq_error_iff.mpr he
    rw [h] at hfails
    cases hfails
  | error e => simp [addFields_eq_error_iff.mp h]

def lastNamed? (fields : List FieldEntry) (name : String) : Option FieldEntry :=
  fields.reverse.find? fun entry => entry.name = name

theorem lastNamed?_eq_some_iff {fields : List FieldEntry} {name : String} {entry : FieldEntry} :
    lastNamed? fields name = some entry ↔ LastNamed FieldEntry.name fields name entry :=
  lastNamed_iff_find?.symm

theorem lastNamed?_eq_none_iff {fields : List FieldEntry} {name : String} :
    lastNamed? fields name = none ↔ name ∉ fields.map FieldEntry.name := by
  simp [lastNamed?]

structure Declares (registry : Registry) (fields : List FieldEntry) (schema : Schema) : Prop where
  names : schema.names = (fields.map FieldEntry.name).eraseDups
  spec : ∀ name entry, lastNamed? fields name = some entry →
    ∃ spec, fieldSpec registry entry = .ok spec ∧ schema.get? name = some spec

theorem declares_iff_filled {registry : Registry} {fields : List FieldEntry} {schema : Schema} :
    Declares registry fields schema ↔ OrderedTable.Filled FieldEntry.name
      (fun entry spec => fieldSpec registry entry = .ok spec) fields schema := by
  constructor
  · rintro ⟨hnames, hspec⟩
    exact ⟨hnames, fun name entry hlast => hspec name entry (lastNamed?_eq_some_iff.mpr hlast)⟩
  · rintro ⟨hnames, hvalue⟩
    exact ⟨hnames, fun name entry hlast => hvalue name entry (lastNamed?_eq_some_iff.mp hlast)⟩

theorem declares_nil (registry : Registry) : Declares registry [] ∅ :=
  declares_iff_filled.mpr OrderedTable.filled_nil

/-- One more entry replaces what its name declares or comes at the end. -/
theorem Declares.snoc {registry : Registry} {fields : List FieldEntry} {schema : Schema}
    (h : Declares registry fields schema) {entry : FieldEntry} {spec : FieldSpec}
    (hspec : fieldSpec registry entry = .ok spec) :
    Declares registry (fields ++ [entry]) (schema.insert entry.name spec) :=
  declares_iff_filled.mpr ((declares_iff_filled.mp h).snoc hspec)

theorem Declares.append {registry : Registry} {done rest : List FieldEntry}
    {schema schema' : Schema} (h : Declares registry done schema)
    (hrest : addFields registry schema rest = .ok schema') :
    Declares registry (done ++ rest) schema' := by
  induction rest generalizing done schema with
  | nil =>
    obtain rfl : schema = schema' := by simpa [addFields] using hrest
    simpa using h
  | cons entry rest ih =>
    rw [addFields] at hrest
    obtain ⟨spec, hspec, hrest⟩ := bind_eq_ok_iff.mp hrest
    simpa using ih (h.snoc hspec) hrest

theorem Declares.unique {registry : Registry} {fields : List FieldEntry} {schema schema' : Schema}
    (h : Declares registry fields schema) (h' : Declares registry fields schema') :
    schema = schema' := by
  refine OrderedTable.ext_names (h.names.trans h'.names.symm) fun name => ?_
  cases hlast : lastNamed? fields name with
  | some entry =>
    obtain ⟨spec, hspec, hget⟩ := h.spec name entry hlast
    obtain ⟨spec', hspec', hget'⟩ := h'.spec name entry hlast
    rw [hspec] at hspec'
    rw [hget, hget', Except.ok.inj hspec']
  | none =>
    have hnot : name ∉ (fields.map FieldEntry.name).eraseDups := by
      rw [List.mem_eraseDups]
      exact lastNamed?_eq_none_iff.mp hlast
    rw [OrderedTable.get?_eq_none_iff.mpr (h.names ▸ hnot),
      OrderedTable.get?_eq_none_iff.mpr (h'.names ▸ hnot)]

theorem addFields_eq_ok_iff {registry : Registry} {fields : List FieldEntry} {schema : Schema} :
    addFields registry ∅ fields = .ok schema ↔
      (∀ x ∈ ruleEntries fields, Builds registry x.2) ∧ Declares registry fields schema := by
  constructor
  · intro h
    exact ⟨(addFields_ok_iff ∅).mp ⟨schema, h⟩, (declares_nil registry).append h⟩
  · rintro ⟨hbuilds, hdeclares⟩
    obtain ⟨schema', h⟩ := (addFields_ok_iff ∅).mpr hbuilds
    rw [h, hdeclares.unique ((declares_nil registry).append h)]

def Makes (registry : Registry) (rule : RuleEntry) (predicate : Predicate) : Prop :=
  registry.build rule.kindName rule.parameter = .ok predicate

/-- Adding rules to a field that has got some already leaves the flag as it is. -/
theorem filled_addRules {registry : Registry} {field : String} {spec spec' : FieldSpec}
    {done rules : List RuleEntry}
    (hdone : OrderedTable.Filled RuleEntry.name (Makes registry) done spec.rules)
    (h : addRules registry field spec rules = .ok spec') :
    spec'.required = spec.required ∧
      OrderedTable.Filled RuleEntry.name (Makes registry) (done ++ rules) spec'.rules := by
  induction rules generalizing done spec with
  | nil =>
    obtain rfl := Except.ok.inj h
    rw [List.append_nil]
    exact ⟨rfl, hdone⟩
  | cons rule rules ih =>
    rw [addRules] at h
    split at h
    · rename_i predicate hpredicate
      have hnext : OrderedTable.Filled RuleEntry.name (Makes registry) (done ++ [rule])
          (spec.addRule rule.name predicate).rules := hdone.snoc hpredicate
      obtain ⟨hrequired, hrules⟩ := ih hnext h
      rw [← List.append_cons] at hrules
      exact ⟨hrequired, hrules⟩
    · cases h

theorem filled_fieldSpec {registry : Registry} {entry : FieldEntry} {spec : FieldSpec}
    (h : fieldSpec registry entry = .ok spec) :
    spec.required = entry.required ∧
      OrderedTable.Filled RuleEntry.name (Makes registry) entry.rules spec.rules := by
  have hnone : OrderedTable.Filled RuleEntry.name (Makes registry) [] ∅ := OrderedTable.filled_nil
  rw [fieldSpec] at h
  cases hflag : entry.required with
  | none =>
    rw [hflag] at h
    exact filled_addRules hnone h
  | some flag =>
    rw [hflag] at h
    exact filled_addRules hnone h

/-- What holds of everything that the registry builds holds of the rules of the schema. -/
theorem Declares.rules {registry : Registry} {P : Predicate → Prop}
    (hbuild : ∀ kind parameter predicate,
      registry.build kind parameter = .ok predicate → P predicate)
    {fields : List FieldEntry} {schema : Schema} (h : Declares registry fields schema) :
    ∀ x ∈ schema.entries, ∀ e ∈ x.2.rules.entries, P e.2 := by
  intro x hx e he
  obtain ⟨entry, -, hspec⟩ := (declares_iff_filled.mp h).last_of_mem hx
  obtain ⟨rule, -, hmakes⟩ := (filled_fieldSpec hspec).2.last_of_mem he
  exact hbuild rule.kindName rule.parameter e.2 hmakes

theorem resolve_eq_ok_iff {registry : Registry} {file : SchemaFile} {loaded : LoadedSchema} :
    file.resolve registry = .ok loaded ↔
      (∀ x ∈ ruleEntries file.fields, Builds registry x.2) ∧
      Declares registry file.fields loaded.schema ∧
      readMessages file.messages = .ok loaded.messages ∧ loaded.options = file.options := by
  obtain ⟨schema, messages, options⟩ := loaded
  rw [resolve, bind_eq_ok_iff]
  simp only [addFields_eq_ok_iff, bind_eq_ok_iff, Except.ok.injEq, LoadedSchema.mk.injEq]
  constructor
  · rintro ⟨_, ⟨hbuilds, hdeclares⟩, _, hmessages, rfl, rfl, rfl⟩
    exact ⟨hbuilds, hdeclares, hmessages, rfl⟩
  · rintro ⟨hbuilds, hdeclares, hmessages, rfl⟩
    exact ⟨schema, ⟨hbuilds, hdeclares⟩, messages, hmessages, rfl, rfl, rfl⟩

/-- A file is refused for its first bad rule, or for its messages where there is no bad rule. -/
theorem resolve_eq_error_iff {registry : Registry} {file : SchemaFile} {e : ResolveError} :
    file.resolve registry = .error e ↔
      (ruleEntries file.fields).findSome? (ruleFault? registry) = some e ∨
      (∀ x ∈ ruleEntries file.fields, Builds registry x.2) ∧
        readMessages file.messages = .error e := by
  rw [resolve, bind_eq_error_iff, addFields_eq_error_iff, ← addFields_ok_iff ∅]
  simp [bind_eq_error_iff]

def signupFile (messages : Option Toml) : SchemaFile where
  options := {}
  messages := messages
  fields := [⟨"name", some true, [⟨"min", some "min_length", some (.integer 3)⟩]⟩]

end SchemaFile

end FieldRules
