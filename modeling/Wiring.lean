import Wiring.Assembly
import Wiring.Catalog.Ancestor
import Wiring.Catalog.Basic
import Wiring.Container.Basic
import Wiring.Container.Check
import Wiring.Container.Collection
import Wiring.Container.Diagnosis
import Wiring.Container.History
import Wiring.Container.Selection
import Wiring.Container.Specialization
import Wiring.Fault
import Wiring.Findings
import Wiring.Graph.Basic
import Wiring.Graph.Cycle
import Wiring.Graph.Path
import Wiring.Lifetime
import Wiring.Member
import Wiring.Program
import Wiring.Proofs.Assembly.Blame
import Wiring.Proofs.Assembly.Complete
import Wiring.Proofs.Assembly.Depth
import Wiring.Proofs.Assembly.Emission
import Wiring.Proofs.Assembly.Fallback
import Wiring.Proofs.Assembly.Grounded
import Wiring.Proofs.Assembly.Issued
import Wiring.Proofs.Assembly.Membership
import Wiring.Proofs.Assembly.NestedCollection
import Wiring.Proofs.Assembly.Order
import Wiring.Proofs.Assembly.Outcome
import Wiring.Proofs.Assembly.Run
import Wiring.Proofs.Assembly.SharedType
import Wiring.Proofs.Assembly.TypedSelection
import Wiring.Proofs.Catalog.Annotation
import Wiring.Proofs.Catalog.Congruence
import Wiring.Proofs.Catalog.Ending
import Wiring.Proofs.Catalog.FirstVisit
import Wiring.Proofs.Catalog.Instance
import Wiring.Proofs.Catalog.Scope
import Wiring.Proofs.Catalog.Walk
import Wiring.Proofs.Check.Advance
import Wiring.Proofs.Check.Alias
import Wiring.Proofs.Check.Alike
import Wiring.Proofs.Check.Annotation
import Wiring.Proofs.Check.Answer
import Wiring.Proofs.Check.Construction
import Wiring.Proofs.Check.Course
import Wiring.Proofs.Check.Depth
import Wiring.Proofs.Check.Excuse
import Wiring.Proofs.Check.Fallback
import Wiring.Proofs.Check.Family
import Wiring.Proofs.Check.Findings
import Wiring.Proofs.Check.Follow
import Wiring.Proofs.Check.Forecast
import Wiring.Proofs.Check.Frame
import Wiring.Proofs.Check.Growth
import Wiring.Proofs.Check.Index
import Wiring.Proofs.Check.Kept
import Wiring.Proofs.Check.Key
import Wiring.Proofs.Check.Keyed
import Wiring.Proofs.Check.Latest
import Wiring.Proofs.Check.Lifetime
import Wiring.Proofs.Check.Membership
import Wiring.Proofs.Check.Nesting
import Wiring.Proofs.Check.Obtain
import Wiring.Proofs.Check.Orderly
import Wiring.Proofs.Check.Origin
import Wiring.Proofs.Check.Outcome
import Wiring.Proofs.Check.Passed
import Wiring.Proofs.Check.Record
import Wiring.Proofs.Check.Recursion
import Wiring.Proofs.Check.Register
import Wiring.Proofs.Check.Regular
import Wiring.Proofs.Check.Repeat
import Wiring.Proofs.Check.Reuse
import Wiring.Proofs.Check.Scan
import Wiring.Proofs.Check.Sequence
import Wiring.Proofs.Check.Slot
import Wiring.Proofs.Check.Specialized
import Wiring.Proofs.Check.Strict
import Wiring.Proofs.Check.Survey
import Wiring.Proofs.Check.Typed
import Wiring.Proofs.Check.Upkeep
import Wiring.Proofs.Graph.Acyclic
import Wiring.Proofs.Graph.Dependency
import Wiring.Proofs.Graph.Report
import Wiring.Proofs.Graph.Search
import Wiring.Proofs.Provider.Expansion
import Wiring.Proofs.Provider.Reorder
import Wiring.Proofs.Provider.Services
import Wiring.Proofs.Text.Ranking
import Wiring.Proofs.Text.ShortForm
import Wiring.Proofs.Text.Similarity
import Wiring.Proofs.TypeExpr.Annotation
import Wiring.Proofs.TypeExpr.DisplayName
import Wiring.Proofs.TypeExpr.Reading
import Wiring.Proofs.TypeExpr.Substitution
import Wiring.Provider.Basic
import Wiring.Registration
import Wiring.Resolution
import Wiring.Settings.Basic
import Wiring.Settings.Document
import Wiring.Strict
import Wiring.Text.Chain
import Wiring.Text.Lowercase
import Wiring.Text.Quoted
import Wiring.Text.Shorten
import Wiring.Text.Similar
import Wiring.Toml.Document
import Wiring.Toml.Reader
import Wiring.Toml.Scalar
import Wiring.Toml.Text
import Wiring.Toml.Value
import Wiring.TypeExpr.Basic
import Wiring.TypeExpr.Digest
import Wiring.TypeExpr.Identity
import Wiring.TypeExpr.Text
import Wiring.TypeMap
import Wiring.Unicode.Lowercase
import Wiring.Unicode.Properties
