import SiteIndex.CommandLine.Run
import SiteIndex.Files.Memory
import SiteIndex.Main
import SiteIndex.Query.Printer
import SiteIndex.Proofs.Store.Content
import SiteIndex.Proofs.Posting.History
import SiteIndex.Proofs.Posting.Values
import SiteIndex.Proofs.Text.Utf8
import SiteIndex.Proofs.Value.Encoding
import SiteIndex.Proofs.Index.Reference
import SiteIndex.Proofs.Index.Attributes
import SiteIndex.Proofs.Index.Runs
import SiteIndex.Proofs.Query.Evaluation
import SiteIndex.Proofs.Query.Grammar
import SiteIndex.Proofs.Query.Tokens
import SiteIndex.Proofs.Query.Expressions
import SiteIndex.Proofs.Query.Reading
import SiteIndex.Proofs.Query.ContextKeys
import SiteIndex.Proofs.Query.Written
import SiteIndex.Proofs.Query.Rereading
import SiteIndex.Proofs.Store.Buffering
import SiteIndex.Proofs.Store.Durability
import SiteIndex.Proofs.Query.Ranking
import SiteIndex.Proofs.Search.Scoring
import SiteIndex.Proofs.Search.Ranking
import SiteIndex.Proofs.Engine.Indexes
import SiteIndex.Proofs.NameMap
import SiteIndex.Proofs.Site.Rebuild
import SiteIndex.Proofs.Site.InStep
import SiteIndex.Proofs.Site.Freshness
import SiteIndex.Proofs.Site.Faithful
import SiteIndex.Proofs.Site.Rejection
import SiteIndex.Proofs.Index.Register
import SiteIndex.Proofs.Index.Anchored
import SiteIndex.Proofs.Query.Finding
import SiteIndex.Proofs.Engine.Resolution
import SiteIndex.Proofs.Precache
import SiteIndex.Proofs.Posting.Turns
import SiteIndex.Proofs.Query.Projection
import SiteIndex.Proofs.Engine.BuiltIns
import SiteIndex.Proofs.Index.Reordering
import SiteIndex.Proofs.Query.Reordering
import SiteIndex.Proofs.Site.Idempotence
import SiteIndex.Proofs.Posting.StoredForm
import SiteIndex.Proofs.Text.DigitRuns
import SiteIndex.Proofs.Value.Mixed
import SiteIndex.Proofs.Query.FirstSeen
import SiteIndex.Proofs.Store.PrefixScan
import SiteIndex.Proofs.Posting.Frame
import SiteIndex.Proofs.Query.Recency
import SiteIndex.Proofs.Query.Continuing
import SiteIndex.Proofs.Query.Stopping
import SiteIndex.Proofs.Query.Caret
import SiteIndex.Proofs.Index.Survival
import SiteIndex.Proofs.Files.Confinement
import SiteIndex.Proofs.Site.Lookups
import SiteIndex.Proofs.Page.Splitting
import SiteIndex.Proofs.Store.Compaction
import SiteIndex.Proofs.Precache.Lifecycle
