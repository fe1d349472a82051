import FieldRules.Messages
import FieldRules.Proofs.Table.Values

/-!
# Blank messages

A blank message is never shown: looking a name up passes over it to the default message, and over a
blank default to the name itself. So a table says the same without its blank messages, and the text
for a name that is not blank is not blank.
-/

namespace FieldRules.Messages

def withoutBlanks (m : Messages) : Messages := m.filterValues fun text => text ≠ ""

theorem ne_empty_of_message?_eq_some {m : Messages} {key text : String}
    (h : m.message? key = some text) : text ≠ "" := by
  have hkept := (Option.filter_eq_some_iff.mp h).2
  simpa using hkept

theorem resolve_ne_empty {m : Messages} {name : String} (h : name ≠ "") : m.resolve name ≠ "" := by
  rw [resolve]
  cases hown : m.message? name with
  | some text => exact ne_empty_of_message?_eq_some hown
  | none =>
    cases hdefault : m.message? defaultKey with
    | some text => exact ne_empty_of_message?_eq_some hdefault
    | none => exact h

theorem message?_withoutBlanks (m : Messages) (key : String) :
    m.withoutBlanks.message? key = m.message? key := by
  rw [message?, message?, withoutBlanks, SortedTable.get?_filterValues, Option.filter_filter]
  simp only [Bool.and_self]

theorem resolve_withoutBlanks (m : Messages) (name : String) :
    m.withoutBlanks.resolve name = m.resolve name := by
  rw [resolve, resolve, message?_withoutBlanks, message?_withoutBlanks]

end FieldRules.Messages
