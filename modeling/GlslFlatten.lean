import GlslFlatten.Text.Blank
import GlslFlatten.Text.Digit
import GlslFlatten.Path
import GlslFlatten.Text.Utf8
import GlslFlatten.IoError
import GlslFlatten.Tree.Basic
import GlslFlatten.Tree.Change
import GlslFlatten.Directive
import GlslFlatten.Registry
import GlslFlatten.Diagnostic.Basic
import GlslFlatten.Diagnostic.Translation
import GlslFlatten.Failure
import GlslFlatten.Config
import GlslFlatten.Source
import GlslFlatten.Context
import GlslFlatten.Log
import GlslFlatten.Output
import GlslFlatten.Reader
import GlslFlatten.Expansion
import GlslFlatten.Flatten
import GlslFlatten.Validator
import GlslFlatten.Batch
import GlslFlatten.CommandLine
import GlslFlatten.Standin.Host
import GlslFlatten.Main
import GlslFlatten.Proofs.Blanks
import GlslFlatten.Proofs.DirectiveGrammar
import GlslFlatten.Proofs.Locations
import GlslFlatten.Proofs.Reading
import GlslFlatten.Proofs.FileLines
import GlslFlatten.Proofs.Traversal
import GlslFlatten.Proofs.Walking
import GlslFlatten.Proofs.TreeGrowth
import GlslFlatten.Proofs.Effects
import GlslFlatten.Proofs.Running
import GlslFlatten.Proofs.Invariants
import GlslFlatten.Proofs.Utf8
import GlslFlatten.Proofs.OpenFiles
import GlslFlatten.Proofs.Simulation
import GlslFlatten.Proofs.FreshWalk
import GlslFlatten.Proofs.IncludeChain
import GlslFlatten.Proofs.Acceptance
import GlslFlatten.Proofs.Halting
import GlslFlatten.Proofs.Expanded
import GlslFlatten.Proofs.Blame
import GlslFlatten.Proofs.WalkEnd
import GlslFlatten.Proofs.DepthLimit
import GlslFlatten.Proofs.Attribution
import GlslFlatten.Proofs.FileOutput
import GlslFlatten.Proofs.Provenance
import GlslFlatten.Proofs.Encounters
import GlslFlatten.Proofs.Delivery
import GlslFlatten.Proofs.ErrorLines
import GlslFlatten.Proofs.Metering
import GlslFlatten.Proofs.BatchRun
import GlslFlatten.Proofs.ErrorCount
import GlslFlatten.Proofs.Overwriting
import GlslFlatten.Proofs.Discovery
import GlslFlatten.Proofs.Coverage
import GlslFlatten.Proofs.SingleLines
import GlslFlatten.Proofs.TidyTrees
import GlslFlatten.Proofs.TidyRuns
import GlslFlatten.Proofs.Report
import GlslFlatten.Proofs.MadeDirectories
import GlslFlatten.Proofs.Rediscovery
import GlslFlatten.Proofs.Variants
import GlslFlatten.Proofs.Refilling
import GlslFlatten.Proofs.Independence
import GlslFlatten.Proofs.StableNumbers
import GlslFlatten.Proofs.SharedContext
import GlslFlatten.Proofs.ShortReports
import GlslFlatten.Proofs.IndexRewriting
import GlslFlatten.Proofs.ValidatorFormat
import GlslFlatten.Proofs.FixedPoint
import GlslFlatten.Proofs.FullSinks
import GlslFlatten.Proofs.Settings
import GlslFlatten.Proofs.LeadingSlashes
import GlslFlatten.Proofs.DisplayNames
import GlslFlatten.Proofs.Balance
import GlslFlatten.Proofs.Draining
import GlslFlatten.Proofs.ErrorColumns
import GlslFlatten.Proofs.IncluderLinks
