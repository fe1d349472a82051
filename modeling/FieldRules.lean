import FieldRules.Main
import FieldRules.Proofs.CommandLine.FieldList
import FieldRules.Proofs.CommandLine.RecordStream
import FieldRules.Proofs.Messages.History
import FieldRules.Proofs.Messages.Reading
import FieldRules.Proofs.Rule.AllowedValues
import FieldRules.Proofs.Rule.NumberBounds
import FieldRules.Proofs.Rule.NumberTexts
import FieldRules.Proofs.Rule.Registrations
import FieldRules.Proofs.SchemaFile.Faults
import FieldRules.Proofs.SchemaFile.MessageTable
import FieldRules.Proofs.SchemaFile.RepeatedEntries
import FieldRules.Proofs.Validator.Acceptance
import FieldRules.Proofs.Validator.EventLog
import FieldRules.Proofs.Validator.FirstFailure
import FieldRules.Proofs.Validator.SchemaEdits
import FieldRules.Proofs.SchemaFile.FreeValues
import FieldRules.Proofs.Unicode.CharSet
