import DeclSchema.Declared.Integers
import DeclSchema.Declared.Storage
import DeclSchema.Main
import DeclSchema.Proofs.References
import DeclSchema.Proofs.Mapping
import DeclSchema.Proofs.Mappability
import DeclSchema.Proofs.Report
import DeclSchema.Proofs.Outcome
import DeclSchema.Proofs.Strict
import DeclSchema.Proofs.Nesting
import DeclSchema.Proofs.Definitions
import DeclSchema.Proofs.RecordOrder
import DeclSchema.Proofs.Unrelated
import DeclSchema.Proofs.CamelCase
import DeclSchema.Proofs.Checks
import DeclSchema.Proofs.Grammar
import DeclSchema.Proofs.Plan
import DeclSchema.Proofs.Run
import DeclSchema.Proofs.Blame
import DeclSchema.Proofs.OwnName
import DeclSchema.Proofs.Properties
import DeclSchema.Proofs.Expansion
import DeclSchema.Proofs.Substitution
import DeclSchema.Proofs.Spellings
import DeclSchema.Proofs.Recasing
import DeclSchema.Proofs.TypeSpellings
import DeclSchema.Proofs.Payload
import DeclSchema.Proofs.HandleSession
import DeclSchema.Proofs.NamedValueRuns
import DeclSchema.Proofs.WordStarts
import DeclSchema.Proofs.SharedWalk
