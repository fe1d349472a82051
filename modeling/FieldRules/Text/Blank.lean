import FieldRules.Unicode.Property

/-!
# White space around a text
-/

namespace FieldRules.Text

def isBlank (c : Char) : Bool := Unicode.whiteSpace.contains c

def trim (cs : List Char) : List Char :=
  ((cs.dropWhile isBlank).reverse.dropWhile isBlank).reverse

end FieldRules.Text
