import Segmentation.Database.Pool
import Segmentation.Http.Server
import Segmentation.Json.Reader
import Segmentation.Observability
import Segmentation.Proofs.Rule.Meaning
import Segmentation.Service.World
import Segmentation.Sql.Customers
import Segmentation.Sql.Segments
import Segmentation.Proofs.Rule.Enforcement
import Segmentation.Proofs.Service.Scope
import Segmentation.Proofs.Service.Operations
import Segmentation.Proofs.Http.Isolation
import Segmentation.Proofs.Sql.Token
import Segmentation.Proofs.Decimal.Whole
import Segmentation.Proofs.Sql.Reading
import Segmentation.Proofs.Sql.Selection
import Segmentation.Proofs.Sql.Parameters
import Segmentation.Proofs.Rule.Acceptance
import Segmentation.Proofs.Service.Calls
import Segmentation.Proofs.Service.Interleaving
import Segmentation.Proofs.Service.Saving
import Segmentation.Proofs.Service.Names
import Segmentation.Proofs.Service.Evaluation
import Segmentation.Proofs.Service.Frames
import Segmentation.Proofs.Http.Responses
import Segmentation.Proofs.Http.Effects
import Segmentation.Proofs.Http.History
import Segmentation.Proofs.Instant.Text
import Segmentation.Proofs.Filter.Snapshot
import Segmentation.Proofs.Http.Changes
import Segmentation.Proofs.Service.Traces
import Segmentation.Proofs.Service.Scans
import Segmentation.Proofs.Service.Results
import Segmentation.Proofs.Json.Reading
import Segmentation.Proofs.Rule.Grammar
import Segmentation.Proofs.Rule.Rereading
import Segmentation.Proofs.Rule.Pruning
import Segmentation.Proofs.Service.Agreement
import Segmentation.Proofs.Store.Answers
import Segmentation.Proofs.Rule.Drops
import Segmentation.Proofs.Rule.Locality
import Segmentation.Proofs.Rule.TimeShift
import Segmentation.Proofs.Store.Changes
import Segmentation.Proofs.Service.Batch
import Segmentation.Proofs.Customer.Inactivity
import Segmentation.Proofs.Sql.Repository
import Segmentation.Proofs.Rule.Search
import Segmentation.Proofs.Http.Reconciliation
import Segmentation.Proofs.Configuration.Layers
import Segmentation.Proofs.Database.Address
import Segmentation.Proofs.Instant.Cutoff
