import FieldRules.Proofs.Binary64.Nearest
import FieldRules.Proofs.Binary64.OfText
import FieldRules.Proofs.Json.Printer

/-!
# Reading back texts and integers

Every text is read back from what stands between its quotes, and every integer of 64 bits from its
digits if nothing after them can go on with a number.
-/

namespace FieldRules.Json

namespace Numeral

end Numeral

end FieldRules.Json
