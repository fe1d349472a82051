import FieldRules.Json.Value

/-!
# Rule predicates

A predicate looks at the value of a field and at the whole record. It may suspend a number of times
before it has a verdict, and it may fail without one.
-/

namespace FieldRules

/-- What a predicate does with one value: it suspends so many times, and then passes, fails the rule
or ends in an error. -/
structure Trial where
  suspensions : Nat
  verdict : Except String Bool

abbrev Predicate := Json → Record → Trial

namespace Predicate

def ofTest (test : Json → Record → Bool) : Predicate := fun value record =>
  ⟨0, .ok (test value record)⟩

def ofAttempt (attempt : Json → Record → Except String Bool) : Predicate := fun value record =>
  ⟨0, attempt value record⟩

/-- A predicate that suspends the same number of times on every value. -/
def ofTask (suspensions : Nat) (attempt : Json → Record → Except String Bool) : Predicate :=
  fun value record => ⟨suspensions, attempt value record⟩

def ofValue (test : Json → Bool) : Predicate := ofTest fun value _ => test value

end Predicate

end FieldRules
