import FieldRules.Proofs.Validator.Views
import Mathlib.Logic.Relation

/-!
# Chains of extensions

An extension is built anew from edited copies of the schema and the messages, under the options of
the validator it starts from. So the options stay along every chain of extensions, and each
validator in it agrees with its own schema.
-/

namespace FieldRules.Validator

variable {v w : Validator}

inductive Extends (v w : Validator) : Prop
  | both (editSchema : Schema → Schema) (editMessages : Messages → Messages)
      (h : v.extend editSchema editMessages = .ok w)
  | schema (edit : Schema → Schema) (h : v.extendSchema edit = .ok w)
  | messages (edit : Messages → Messages) (h : v.extendMessages edit = .ok w)

/-- Whichever way it is made, an extension is built under the options of its parent. -/
theorem Extends.exists_build (h : Extends v w) :
    ∃ schema messages, build schema messages v.options = .ok w := by
  cases h with
  | both editSchema editMessages h => exact ⟨editSchema v.schema, editMessages v.messages, h⟩
  | schema edit h => exact ⟨edit v.schema, v.messages, h⟩
  | messages edit h => exact ⟨v.schema, edit v.messages, h⟩

/-- Other messages do not keep a validator from being built again. -/
theorem build_with_messages (v : Validator) (messages : Messages) :
    build v.schema messages v.options = .ok { v with messages := messages } :=
  build_of_compileAll v.declared v.compiled

theorem Extends.options_eq (h : Extends v w) : w.options = v.options := by
  obtain ⟨schema, messages, hbuild⟩ := h.exists_build
  exact (build_eq_ok_iff.mp hbuild).2.2

theorem options_eq_of_chain {root : Validator} (hchain : Relation.ReflTransGen Extends root v) :
    v.options = root.options := by
  induction hchain with
  | refl => rfl
  | tail _ hlast ih => exact hlast.options_eq.trans ih

/-- After any chain of extensions the options are those of the start, what the validator says of
itself is what its schema says, and building it again from its own parts gives it back. -/
theorem agreesWithSchema_of_chain {root : Validator}
    (hchain : Relation.ReflTransGen Extends root v) :
    v.options = root.options ∧ v.AgreesWithSchema ∧
      build v.schema v.messages v.options = .ok v :=
  ⟨options_eq_of_chain hchain, v.agreesWithSchema, v.rebuild⟩

def retrySchema : Schema :=
  (unsteadySchema.erase "late").insert "late" (FieldSpec.empty.setRequired true)

def retryValidator : Validator where
  schema := retrySchema
  messages := (∅ : Messages).insert "quick" "try again"
  options := { unknownFields := .ignore }
  fields := retrySchema.entries.map fun (name, spec) => Field.ofSpec name spec
  declared := rfl
  compiled := rfl

theorem agreesWithSchema_retryValidator :
    build unsteadySchema ∅ { unknownFields := .ignore } = .ok (unsteadyValidator .ignore) ∧
    Relation.ReflTransGen Extends (unsteadyValidator .ignore) retryValidator ∧
    retryValidator.options = (unsteadyValidator .ignore).options ∧ retryValidator.AgreesWithSchema ∧
    build retryValidator.schema retryValidator.messages retryValidator.options =
      .ok retryValidator := by
  have hroot : build unsteadySchema ∅ { unknownFields := .ignore } =
      .ok (unsteadyValidator .ignore) := rfl
  have hfirst : Extends (unsteadyValidator .ignore) { retryValidator with messages := ∅ } :=
    .schema (fun s => (s.erase "late").insert "late" (FieldSpec.empty.setRequired true)) rfl
  have hsecond : Extends { retryValidator with messages := ∅ } retryValidator :=
    .messages (fun m => m.insert "quick" "try again") rfl
  have hchain : Relation.ReflTransGen Extends (unsteadyValidator .ignore) retryValidator :=
    .tail (.single hfirst) hsecond
  exact ⟨hroot, hchain, agreesWithSchema_of_chain hchain⟩

end FieldRules.Validator
