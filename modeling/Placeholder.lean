import Placeholder.Context.Draft
import Placeholder.Decimal.Literal
import Placeholder.Handler.Description
import Placeholder.Json.Writer
import Placeholder.Resolver.Tasks
import Placeholder.Settings.Document
import Placeholder.Proofs.Tokens
import Placeholder.Proofs.Layout
import Placeholder.Proofs.Rendering
import Placeholder.Proofs.Settling
import Placeholder.Proofs.Passes
import Placeholder.Proofs.Caching
import Placeholder.Proofs.Calls
import Placeholder.Proofs.Histories
import Placeholder.Proofs.Freshness
import Placeholder.Proofs.Steadiness
import Placeholder.Proofs.Transparency
import Placeholder.Proofs.Grammar
import Placeholder.Proofs.Keeping
import Placeholder.Proofs.Locality
import Placeholder.Proofs.Interleavings
import Placeholder.Proofs.Overlap
import Placeholder.Proofs.Separation
import Placeholder.Proofs.Moves
import Placeholder.Proofs.Provenance
import Placeholder.Proofs.Presence
import Placeholder.Proofs.Confinement
import Placeholder.Proofs.Families
import Placeholder.Proofs.Registration
import Placeholder.Proofs.Containment
import Placeholder.Proofs.Addressing
import Placeholder.Proofs.Overriding
import Placeholder.Proofs.Precedence
import Placeholder.Proofs.Omission
import Placeholder.Proofs.Gating
import Placeholder.Proofs.Visits
import Placeholder.Proofs.Once
import Placeholder.Proofs.Counting
import Placeholder.Proofs.Breakage
import Placeholder.Proofs.Evictions
import Placeholder.Proofs.Contexts
import Placeholder.Proofs.Durations
