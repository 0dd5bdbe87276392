import Shex.Action
import Shex.Cardinality
import Shex.Expr.Build
import Shex.NodeConstraint.Check
import Shex.Proofs.Adequacy
import Shex.Proofs.Ancestry
import Shex.Proofs.Assumptions
import Shex.Proofs.Attribution
import Shex.Proofs.Batch
import Shex.Proofs.CardinalityAlgebra
import Shex.Proofs.Checks
import Shex.Proofs.Choices
import Shex.Proofs.Combinations
import Shex.Proofs.Components
import Shex.Proofs.Consistency
import Shex.Proofs.Context
import Shex.Proofs.Copying
import Shex.Proofs.Correspondence
import Shex.Proofs.Counting
import Shex.Proofs.Counts
import Shex.Proofs.Courses
import Shex.Proofs.Coverage
import Shex.Proofs.DeadBranches
import Shex.Proofs.Denotation
import Shex.Proofs.Dependencies
import Shex.Proofs.Descents
import Shex.Proofs.Digits
import Shex.Proofs.Erasure
import Shex.Proofs.Excuses
import Shex.Proofs.Expansion
import Shex.Proofs.ExpansionBound
import Shex.Proofs.ExpansionLimit
import Shex.Proofs.Extending
import Shex.Proofs.Extension
import Shex.Proofs.ExtensionPlaces
import Shex.Proofs.Faults
import Shex.Proofs.FirstMatch
import Shex.Proofs.Flattening
import Shex.Proofs.FormRenaming
import Shex.Proofs.GivenComponents
import Shex.Proofs.Hiding
import Shex.Proofs.InStep
import Shex.Proofs.Inside
import Shex.Proofs.IntervalCounts
import Shex.Proofs.Isolation
import Shex.Proofs.Judgements
import Shex.Proofs.KeptContext
import Shex.Proofs.Language
import Shex.Proofs.LanguageTags
import Shex.Proofs.Limits
import Shex.Proofs.Matching
import Shex.Proofs.MatchingFaults
import Shex.Proofs.Neighbourhoods
import Shex.Proofs.NestedChecks
import Shex.Proofs.Nodes
import Shex.Proofs.NormalForm
import Shex.Proofs.Normalization
import Shex.Proofs.Occurrence
import Shex.Proofs.OrderIndependence
import Shex.Proofs.Owners
import Shex.Proofs.Parts
import Shex.Proofs.Plans
import Shex.Proofs.Reachability
import Shex.Proofs.Recall
import Shex.Proofs.Recordings
import Shex.Proofs.Reduction
import Shex.Proofs.Renewal
import Shex.Proofs.Reordering
import Shex.Proofs.Repetitions
import Shex.Proofs.Rules
import Shex.Proofs.RunLogic
import Shex.Proofs.Settled
import Shex.Proofs.Shapes
import Shex.Proofs.Sharing
import Shex.Proofs.SideBySide
import Shex.Proofs.SimpleDescents
import Shex.Proofs.Simulation
import Shex.Proofs.SourceBags
import Shex.Proofs.StockHandlers
import Shex.Proofs.Strata
import Shex.Proofs.Structural
import Shex.Proofs.Structure
import Shex.Proofs.Termination
import Shex.Proofs.Walks
import Shex.Proofs.Wellformed
import Shex.Proofs.WritingOut
import Shex.Sorbe.Normalize
import Shex.Validation
import Shex.Wellformed
