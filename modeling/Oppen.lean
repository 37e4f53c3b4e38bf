import Oppen.Foundation.Framing
import Oppen.Foundation.HashChain
import Oppen.Foundation.Run
import Oppen.Foundation.Fold
import Oppen.Foundation.Pairing
import Oppen.Json.Value
import Oppen.Json.Reader
import Oppen.Ledger.Event
import Oppen.Ledger.Canonical
import Oppen.Ledger.Hash
import Oppen.Ledger.Identity
import Oppen.Guardrail.Clearance
import Oppen.Ledger.Store
import Oppen.Ledger.Verify
import Oppen.Ledger.Tamper
import Oppen.Ledger.Append
import Oppen.Ledger.Operations
import Oppen.Ledger.Transaction
import Oppen.Ledger.Crash
import Oppen.Ledger.Decimal
import Oppen.Ledger.Submission
import Oppen.Ledger.Pilot
import Oppen.Ledger.Consent
import Oppen.Ledger.History
import Oppen.Ledger.Accounting
import Oppen.Ledger.RecordFill
import Oppen.Ledger.Journal
import Oppen.Ledger.System
import Oppen.Ledger.Settlement
import Oppen.Ledger.FillKeys
import Oppen.Ledger.HonestRuns
import Oppen.Ledger.LifecycleRows
import Oppen.Ledger.Reservations
import Oppen.Json.Codec
import Oppen.Guardrail.PolicyState
import Oppen.Ledger.PolicyRecord
import Oppen.Ledger.PolicyJournal
import Oppen.Guardrail.Engine
import Oppen.Ledger.PolicyRelease
import Oppen.Ledger.PolicyReplay
import Oppen.Ledger.PolicyVersions
import Oppen.Ledger.Authority
import Oppen.Ledger.Registry
import Oppen.Ledger.Projection
import Oppen.Ledger.Grants
import Oppen.Ledger.RegistryRuns
import Oppen.Ledger.Metadata
import Oppen.Accounts.Registry
import Oppen.Accounts.Authority
import Oppen.Ledger.Pairing
import Oppen.Mcp.Auth
import Oppen.Mcp.Tokens
import Oppen.Mcp.Listener
import Oppen.Mcp.Drain
import Oppen.Mcp.Supervision
import Oppen.Mcp.Sweep
import Oppen.Signing.ActionHash
import Oppen.Foundation.Cursor
import Oppen.Ledger.Paging
import Oppen.Reconcile.Source
import Oppen.Reconcile.Backfill
import Oppen.Reconcile.Venue
import Oppen.Feed.Event
import Oppen.Feed.Ingress
import Oppen.Ledger.Gaps
import Oppen.Ledger.FillRows
import Oppen.Ledger.GapCalls
import Oppen.Ledger.FillAnchor
import Oppen.Reconcile.Attribution
import Oppen.Reconcile.GapWalk
import Oppen.Reconcile.Recovery
import Oppen.Reconcile.Lossless
import Oppen.Feed.Session
import Oppen.Feed.FillPaths
import Oppen.Feed.Connection
import Oppen.Feed.Outages
import Oppen.Feed.Pump
import Oppen.Feed.Readiness
import Oppen.Guardrail.Evidence
import Oppen.Ledger.Activation
import Oppen.Guardrail.Activation
import Oppen.Guardrail.Acknowledgment
import Oppen.Guardrail.Enabling
import Oppen.Guardrail.Enabled
import Oppen.Mcp.Submission
import Oppen.Mcp.Serial
import Oppen.Mcp.OneOrder
import Oppen.Foundation.Meter
import Oppen.Guardrail.Bucket
import Oppen.Guardrail.BucketRuns
import Oppen.Guardrail.Exactness
import Oppen.Foundation.Rounding
import Oppen.Guardrail.Amounts
import Oppen.Guardrail.Order
import Oppen.Guardrail.Snapshot
import Oppen.Guardrail.Refusal
import Oppen.Guardrail.Checks
import Oppen.Guardrail.Measure
import Oppen.Guardrail.Decide
import Oppen.Guardrail.Cancels
import Oppen.Guardrail.Reserve
import Oppen.Guardrail.Preflight
import Oppen.Guardrail.Costs
import Oppen.Foundation.Holding
import Oppen.Guardrail.Measuring
import Oppen.Guardrail.WorstCase
import Oppen.Guardrail.Leverage
import Oppen.Guardrail.CapRuns
import Oppen.Guardrail.Wire
import Oppen.Foundation.Entries
import Oppen.Keys.Store
import Oppen.Keys.Names
import Oppen.Keys.Calls
import Oppen.Keys.Runs
import Oppen.Mcp.DayLoss
import Oppen.Foundation.Blocks
import Oppen.Candles.Bar
import Oppen.Candles.Resample
import Oppen.Candles.Holes
import Oppen.Candles.Passes
import Oppen.Candles.Aggregator
import Oppen.Candles.AggregatorRuns
import Oppen.Candles.Tallies
import Oppen.Candles.WholeBars
import Oppen.Book.Walk
import Oppen.Book.Band
import Oppen.Guardrail.SlippagePrice
import Oppen.Guardrail.LossGauge
import Oppen.Json.Depth
import Oppen.Json.Alike
import Oppen.Ledger.ReadBack
import Oppen.Guardrail.WireNumber
import Oppen.Foundation.Failures
import Oppen.Guardrail.SlippageRefusals
import Oppen.Guardrail.Overstep
import Oppen.Mcp.OwnPrices
import Oppen.Accounts.Lifecycle
import Oppen.Foundation.Csv
import Oppen.Ledger.Export
import Oppen.Foundation.Samples
import Oppen.Tca.Report
import Oppen.Tca.Execution
import Oppen.Alerts.Store
import Oppen.Alerts.Wakeups
import Oppen.Ledger.OpenGaps
import Oppen.Feed.CatchUp
import Oppen.Feed.Pool
import Oppen.Feed.Carried
import Oppen.Feed.OrderUpdates
import Oppen.Foundation.SortedMap
import Oppen.Chart.LiveChart
import Oppen.Chart.Tape
import Oppen.Chart.Changes
import Oppen.Chart.Projections
import Oppen.Feed.Quarantine
import Oppen.Mcp.Guard
import Oppen.Guardrail.CancelReview
import Oppen.Ledger.GapChain
import Oppen.Ledger.Snapshots
import Oppen.Guardrail.KillCalls
import Oppen.Guardrail.KillPersists
