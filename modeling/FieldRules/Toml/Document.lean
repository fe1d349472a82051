import FieldRules.Toml.Value

/-!
# TOML documents

A document is built statement by statement. A table is open to more statements according to how it
came to be: by a header, as the parent of a header's table, or by a dotted key. A table that a
header named is not named again, a table made by dotted keys is extended by dotted keys and by
headers below it only, and a value, an inline table or a plain array among them, is never extended.
-/

namespace FieldRules.Toml

inductive Origin
  | header
  | parent
  | dotted
deriving DecidableEq

/-- A node of a document under construction. The elements of a series, which headers in double
brackets add, come last first. -/
inductive Node
  | sealed (value : Toml)
  | table (origin : Origin) (entries : List (String × Node))
  | series (elements : List (List (String × Node)))
deriving Inhabited

namespace Node

/-- Applies an edit to the table at a path, through the last element of each series, and makes the
tables that are missing. Under a dotted key no table on the path may be named by a header. -/
def edit (dotted : Bool) (f : Origin → Entries Node → Option (Entries Node)) :
    List String → Origin → Entries Node → Option (Entries Node)
  | [], origin, entries => f origin entries
  | key :: path, _, entries =>
    match entries.look key with
    | none =>
      let origin := if dotted then .dotted else .parent
      (edit dotted f path origin []).map fun inner => entries.put key (.table origin inner)
    | some (.table origin inner) =>
      if dotted && origin = .header then none
      else (edit dotted f path origin inner).map fun inner => entries.put key (.table origin inner)
    | some (.series (last :: others)) =>
      (edit dotted f path .header last).map fun last => entries.put key (.series (last :: others))
    | some (.series []) => none
    | some (.sealed _) => none

/-- Puts a value under a dotted key. A key with dots ends in a table that dotted keys made. -/
def putValue (path : List String) (key : String) (value : Toml) (entries : Entries Node) :
    Option (Entries Node) :=
  edit (!path.isEmpty)
    (fun origin inner =>
      if !path.isEmpty && origin ≠ .dotted then none
      else if (inner.look key).isSome then none
      else some (inner.put key (.sealed value)))
    path .header entries

def openTable (path : List String) (key : String) (entries : Entries Node) :
    Option (Entries Node) :=
  edit false
    (fun _ inner =>
      match inner.look key with
      | none => some (inner.put key (.table .header []))
      | some (.table .parent deeper) => some (inner.put key (.table .header deeper))
      | some _ => none)
    path .header entries

def openElement (path : List String) (key : String) (entries : Entries Node) :
    Option (Entries Node) :=
  edit false
    (fun _ inner =>
      match inner.look key with
      | none => some (inner.put key (.series [[]]))
      | some (.series elements) => some (inner.put key (.series ([] :: elements)))
      | some _ => none)
    path .header entries

/-- Puts a value under a dotted key of the table that a header opened last. -/
def putBelow (header path : List String) (key : String) (value : Toml) (entries : Entries Node) :
    Option (Entries Node) :=
  edit false (fun _ inner => putValue path key value inner) header .header entries

def sortEntries (es : Entries Toml) : Entries Toml := (SortedTable.ofList es).entries

mutual

def value : Node → Toml
  | .sealed v => v
  | .table _ entries => .table (sortEntries (values entries))
  | .series elements => .array (tables elements).reverse

def values : List (String × Node) → Entries Toml
  | [] => []
  | (k, n) :: es => (k, value n) :: values es

def tables : List (List (String × Node)) → List Toml
  | [] => []
  | es :: rest => .table (sortEntries (values es)) :: tables rest

end

end Node

/-- A key with its dots: all but the last part, and the last. -/
abbrev Key := List String × String

inductive Statement
  | pair (key : Key) (value : Toml)
  | table (key : Key)
  | element (key : Key)

/-- A document under construction, and the path of the table to which pairs go. -/
structure Draft where
  entries : Entries Node
  header : List String

namespace Draft

def empty : Draft := ⟨[], []⟩

def add (d : Draft) : Statement → Option Draft
  | .pair (path, key) value =>
    (Node.putBelow d.header path key value d.entries).map fun entries => { d with entries }
  | .table (path, key) =>
    (Node.openTable path key d.entries).map fun entries => ⟨entries, path ++ [key]⟩
  | .element (path, key) =>
    (Node.openElement path key d.entries).map fun entries => ⟨entries, path ++ [key]⟩

def table? (statements : List Statement) : Option Toml :=
  (statements.foldlM add empty).map fun d => (Node.table .header d.entries).value

end Draft

end FieldRules.Toml
