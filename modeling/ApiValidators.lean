import ApiValidators.Command.Program
import ApiValidators.Main
import ApiValidators.Files.Store
import ApiValidators.Options.Reading
import ApiValidators.Proofs.References.Memory
import ApiValidators.Proofs.References.Documents
import ApiValidators.Proofs.Naming.Claims
import ApiValidators.Proofs.Naming.Kinds
import ApiValidators.Proofs.Module.Expressions
import ApiValidators.Proofs.Module.Sections
import ApiValidators.Proofs.Module.Unambiguous
import ApiValidators.Proofs.Module.Names
import ApiValidators.Proofs.References.Flat
import ApiValidators.Proofs.References.Resolved
import ApiValidators.Proofs.Validator.Building
import ApiValidators.Proofs.Module.Endpoints
import ApiValidators.Proofs.Document.Parameters
import ApiValidators.Proofs.Module.SelfContained
import ApiValidators.Proofs.Module.OwnParameters
import ApiValidators.Proofs.Validator.Phases
import ApiValidators.Proofs.References.Effects
import ApiValidators.Proofs.References.Idempotent
import ApiValidators.Proofs.Module.Warnings
import ApiValidators.Proofs.Validator.Modes
import ApiValidators.Proofs.Module.Modes
import ApiValidators.Proofs.Command.Runs
import ApiValidators.Proofs.References.Errors
import ApiValidators.Proofs.References.Counterparts
import ApiValidators.Proofs.References.Inlining
import ApiValidators.Proofs.Module.Edits
import ApiValidators.Proofs.Module.PathParameters
import ApiValidators.Proofs.Module.Contents
import ApiValidators.Proofs.References.Addresses
import ApiValidators.Proofs.Validator.Merging
import ApiValidators.Proofs.Document.Overrides
import ApiValidators.Proofs.Naming.Renames
import ApiValidators.Proofs.Validator.Bounds
import ApiValidators.Proofs.Validator.Defaults
import ApiValidators.Proofs.Naming.Recasing
import ApiValidators.Proofs.Schema.Fields
import ApiValidators.Proofs.Schema.Members
import ApiValidators.Proofs.Schema.Texts
import ApiValidators.Proofs.Validator.Remarks
import ApiValidators.Proofs.Module.Indentation
import ApiValidators.Proofs.References.Stack
