import CompactSchema.Main
import CompactSchema.Proofs.Calendar.Exact
import CompactSchema.Proofs.Calendar.Forms
import CompactSchema.Proofs.Command.FileReports
import CompactSchema.Proofs.Command.Response
import CompactSchema.Proofs.Command.SeededValues
import CompactSchema.Proofs.Files.Path
import CompactSchema.Proofs.Format.Languages
import CompactSchema.Proofs.Generation.Candidates
import CompactSchema.Proofs.Generation.Conforming
import CompactSchema.Proofs.Generation.IgnoredFields
import CompactSchema.Proofs.Generation.Raises
import CompactSchema.Proofs.Generation.Requests
import CompactSchema.Proofs.Generation.Unbuildable
import CompactSchema.Proofs.Json.ReadBack
import CompactSchema.Proofs.Json.Spelling
import CompactSchema.Proofs.Json.Unbroken
import CompactSchema.Proofs.Log.Indifferent
import CompactSchema.Proofs.Log.Lines
import CompactSchema.Proofs.Paths
import CompactSchema.Proofs.Random.Choices
import CompactSchema.Proofs.Random.Realistic
import CompactSchema.Proofs.Registry.Directory
import CompactSchema.Proofs.Registry.History
import CompactSchema.Proofs.Registry.Named
import CompactSchema.Proofs.Schema.DepthLimit
import CompactSchema.Proofs.Schema.Edits
import CompactSchema.Proofs.Schema.Places
import CompactSchema.Proofs.Schema.RoundTrip
import CompactSchema.Proofs.Schema.Text
import CompactSchema.Proofs.Schema.TextDepth
import CompactSchema.Proofs.Validation.Encounter
import CompactSchema.Proofs.Validation.FirstViolation
import CompactSchema.Proofs.Validation.Integers
import CompactSchema.Proofs.Validation.Lazy
import CompactSchema.Proofs.Validation.Locations
import CompactSchema.Proofs.Validation.Loosening
import CompactSchema.Proofs.Validation.Undeclared
import CompactSchema.Registry.Operation
import CompactSchema.Schema.Text
import CompactSchema.Validation.Lazy
