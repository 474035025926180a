import Outbox.Main
import Outbox.Reference.Shared
import Outbox.Rehearsal.Database
import Outbox.Rehearsal.Memory
import Outbox.Rehearsal.Relay
import Outbox.Proofs.Dispatch.Order
import Outbox.Proofs.Store.Changes
import Outbox.Proofs.Store.Batch
import Outbox.Proofs.Site
import Outbox.Proofs.Cluster.Basic
import Outbox.Proofs.Cluster.Permanence
import Outbox.Proofs.Cluster.Publication
import Outbox.Proofs.Cluster.Transactions
import Outbox.Proofs.Dispatch.Treatment
import Outbox.Proofs.Dispatch.PerRecord
import Outbox.Proofs.Dispatch.Abort
import Outbox.Proofs.Dispatch.Interruption
import Outbox.Proofs.Dispatch.Remaining
import Outbox.Proofs.Station.Once
import Outbox.Proofs.Station.Budget
import Outbox.Proofs.Station.Backoff
import Outbox.Proofs.Cluster.Handover
import Outbox.Proofs.Cluster.Requeue
import Outbox.Proofs.Schedule
import Outbox.Proofs.Aggregate.Agreement
import Outbox.Proofs.Database.Refinement
import Outbox.Proofs.Aggregate.Review
import Outbox.Proofs.Schedule.Stop
import Outbox.Proofs.Calendar.Reach
import Outbox.Proofs.Decimal.Rounding
import Outbox.Proofs.Settings
import Outbox.Proofs.Store.Content
import Outbox.Proofs.Dispatch.Arrival
import Outbox.Proofs.Delays
import Outbox.Proofs.Aggregate.ProductLife
import Outbox.Proofs.Aggregate.AgreementLife
import Outbox.Proofs.Dispatch.Handling
import Outbox.Proofs.Dispatch.Accounting
import Outbox.Proofs.Dispatch.Counters
import Outbox.Proofs.Retention
import Outbox.Proofs.Aggregate.Disclosure
import Outbox.Proofs.Database.Columns
import Outbox.Proofs.Database.Scan
import Outbox.Proofs.Broker.Stream
import Outbox.Proofs.Settings.Acceptance
import Outbox.Proofs.Settings.Window
import Outbox.Proofs.Store.Backlog
import Outbox.Proofs.Cluster.Enqueued
import Outbox.Proofs.Json.RoundTrip
import Outbox.Proofs.Registry
import Outbox.Proofs.Envelope
import Outbox.Proofs.Dispatch.Pushes
import Outbox.Proofs.Reference
