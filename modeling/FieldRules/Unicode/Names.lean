import FieldRules.Unicode.Age
import FieldRules.Unicode.Break

/-!
# Properties by name

Names of properties and of their values are matched loosely: case, blanks, hyphens, underscores and
a leading `is` do not matter. A name alone stands for a binary property, a general category or a
script, in this order; the names of three categories that also abbreviate a property stand for the
category. With a value, a name stands for a category, a script, an age or a kind of boundary.
-/

namespace FieldRules.Unicode

def asciiLower (c : Char) : Char := if 'A' ≤ c ∧ c ≤ 'Z' then Char.ofNat (c.toNat + 32) else c

def loose (name : String) : List Char :=
  let fold (cs : List Char) : List Char :=
    (cs.filter fun c => c.toNat < 128 && c ≠ ' ' && c ≠ '_' && c ≠ '-').map asciiLower
  match name.toList with
  | i :: s :: rest =>
    if asciiLower i = 'i' ∧ asciiLower s = 's' then
      let folded := fold rest
      if folded = ['c'] then ['i', 's', 'c'] else folded
    else fold (i :: s :: rest)
  | cs => fold cs

def isNamed (name : List Char) (names : List String) : Bool := names.any fun n => loose n = name

def listedIn? (table : List (List String × String)) (name : List Char) : Option CharSet :=
  (table.find? fun p => isNamed name p.1).map fun p => .ofText p.2

def derivedIn? (table : List (List String × (Unit → CharSet))) (name : List Char) :
    Option CharSet :=
  (table.find? fun p => isNamed name p.1).map fun p => p.2 ()

def binary? (name : List Char) : Option CharSet := listedIn? listed name <|> derivedIn? derived name

def generalCategory? (name : List Char) : Option CharSet :=
  if isNamed name ["Any"] then some .all
  else if isNamed name ["Assigned"] then some unassigned.complement
  else if isNamed name ["ASCII"] then some (.range 0 0x7F)
  else if isNamed name ["Unassigned", "Cn"] then some unassigned
  else if isNamed name ["Other", "C"] then some ((inAny [.Cc, .Cf, .Co]).union unassigned)
  else
    (categoryGroups.find? fun g => isNamed name g.1).map (fun g => inAny g.2) <|>
      (Category.all.find? fun c => isNamed name c.names).map Category.set

def script? (name : List Char) : Option CharSet := listedIn? scripts name

def scriptExtension? (name : List Char) : Option CharSet := do
  let script ← scripts.find? fun p => isNamed name p.1
  listedIn? scriptExtensions (loose (script.1.headD "")) <|> some (.ofText script.2)

def named? (name : String) : Option CharSet :=
  let name := loose name
  let category := isNamed name ["cf", "sc", "lc"]
  (if category then none else binary? name) <|> generalCategory? name <|> script? name

def valued? (property value : String) : Option CharSet :=
  let property := loose property
  let value := loose value
  if isNamed property ["General_Category", "gc"] then generalCategory? value
  else if isNamed property ["Script", "sc"] then script? value
  else if isNamed property ["Script_Extensions", "scx"] then scriptExtension? value
  else if isNamed property ["Age"] then assignedBy? (isNamed value)
  else if isNamed property ["Grapheme_Cluster_Break", "GCB"] then derivedIn? graphemeBreaks value
  else if isNamed property ["Word_Break", "WB"] then derivedIn? wordBreaks value
  else if isNamed property ["Sentence_Break", "SB"] then derivedIn? sentenceBreaks value
  else none

end FieldRules.Unicode
