import FieldRules.Proofs.CommandLine.AnswerLine
import FieldRules.Proofs.SchemaFile.BuiltinRules
import FieldRules.Proofs.Validator.Together

/-!
# Checking a stream of records

A run over a stream writes a line for every item that has a result, and the line reports that result
as JSON. It goes through the whole stream if every item has one, and then tells how many of them are
not valid. Otherwise it ends at the first item that has none, tells nothing of the kind, and its
failure names the item or the error.
-/

namespace FieldRules

/-- The values of a stream in order and, if the text ends in a fault, an item for that fault. -/
def Json.Stream.items : Json.Stream → List (Option Json)
  | .finished => []
  | .broken => [none]
  | .value head rest => some head :: items rest

def Event.isSummary : Event → Bool
  | .checked .. => true
  | _ => false

namespace Validator

end Validator

namespace CommandLine

variable {v : Validator} {fields : Option (List String)}

/-- The part of an outcome that the checks of a stream settle: the lines, the summaries among the
events and the result. -/
structure Outcome.Tells (o : Outcome) (output : List String) (summaries : List Event)
    (result : Except Failure Bool) : Prop where
  output : o.output = output
  summaries : o.events.filter Event.isSummary = summaries
  result : o.result = result

theorem Outcome.Tells.after {o : Outcome} {output : List String} {summaries : List Event}
    {result : Except Failure Bool} (h : o.Tells output summaries result) (line : String)
    {events : List Event} (hevents : events.filter Event.isSummary = []) :
    (o.after line events).Tells (line :: output) summaries result where
  output := congrArg (line :: ·) h.output
  summaries := by
    rw [Outcome.after, List.filter_append, hevents, h.summaries]
    rfl
  result := h.result

def failing (answers : List (Option Failures)) : ℕ := answers.countP Option.isSome

open SchemaFile (signupLoaded signupValidator)

end CommandLine

end FieldRules
