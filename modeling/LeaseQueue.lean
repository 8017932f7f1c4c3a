import LeaseQueue.Json.Codec
import LeaseQueue.Lock.Scenario
import LeaseQueue.Memory.Cluster
import LeaseQueue.Memory.Store
import LeaseQueue.Proofs.Cluster.Assignment
import LeaseQueue.Proofs.Cluster.Bootstrap
import LeaseQueue.Proofs.Cluster.Calls
import LeaseQueue.Proofs.Cluster.Ownership
import LeaseQueue.Proofs.Condition.Agreement
import LeaseQueue.Proofs.Condition.Binding
import LeaseQueue.Proofs.Condition.Built
import LeaseQueue.Proofs.Condition.Chains
import LeaseQueue.Proofs.Condition.Exchange
import LeaseQueue.Proofs.Condition.Membership
import LeaseQueue.Proofs.Condition.Patterns
import LeaseQueue.Proofs.Condition.Recovery
import LeaseQueue.Proofs.Condition.Substitution
import LeaseQueue.Proofs.Identifier.Exhaustion
import LeaseQueue.Proofs.Identifier.Minting
import LeaseQueue.Proofs.Identifier.Order
import LeaseQueue.Proofs.Identifier.TextForm
import LeaseQueue.Proofs.Lock.Accounting
import LeaseQueue.Proofs.Lock.Advisory
import LeaseQueue.Proofs.Lock.Counting
import LeaseQueue.Proofs.Lock.Exclusion
import LeaseQueue.Proofs.Lock.Holds
import LeaseQueue.Proofs.Lock.Interleaving
import LeaseQueue.Proofs.Lock.Neutrality
import LeaseQueue.Proofs.Lock.Separation
import LeaseQueue.Proofs.Memory.Amendments
import LeaseQueue.Proofs.Memory.Attempts
import LeaseQueue.Proofs.Memory.Batch
import LeaseQueue.Proofs.Memory.Bookkeeping
import LeaseQueue.Proofs.Memory.Calls
import LeaseQueue.Proofs.Memory.Convergence
import LeaseQueue.Proofs.Memory.Delivery
import LeaseQueue.Proofs.Memory.Failures
import LeaseQueue.Proofs.Memory.History
import LeaseQueue.Proofs.Memory.Inspection
import LeaseQueue.Proofs.Memory.Leases
import LeaseQueue.Proofs.Memory.Ledger
import LeaseQueue.Proofs.Memory.Receives
import LeaseQueue.Proofs.Memory.Repeats
import LeaseQueue.Proofs.Memory.Rows
import LeaseQueue.Proofs.Memory.Selection
import LeaseQueue.Proofs.Memory.Sends
import LeaseQueue.Proofs.Memory.Sessions
import LeaseQueue.Proofs.Memory.Shards
import LeaseQueue.Proofs.Memory.Values
import LeaseQueue.Proofs.Meta.Order
import LeaseQueue.Proofs.Number.Order
import LeaseQueue.Proofs.Queue.Acceptance
import LeaseQueue.Proofs.Queue.Columns
import LeaseQueue.Proofs.Queue.Report
import LeaseQueue.Proofs.Running
import LeaseQueue.Proofs.Sorting
import LeaseQueue.Proofs.Sql.Apart
import LeaseQueue.Proofs.Sql.Batches
import LeaseQueue.Proofs.Sql.Boundaries
import LeaseQueue.Proofs.Sql.Calls
import LeaseQueue.Proofs.Sql.Effects
import LeaseQueue.Proofs.Sql.Grammar
import LeaseQueue.Proofs.Sql.Identifiers
import LeaseQueue.Proofs.Sql.Inserting
import LeaseQueue.Proofs.Sql.Ledger
import LeaseQueue.Proofs.Sql.Locking
import LeaseQueue.Proofs.Sql.Meaning
import LeaseQueue.Proofs.Sql.Mutating
import LeaseQueue.Proofs.Sql.Outline
import LeaseQueue.Proofs.Sql.Placeholders
import LeaseQueue.Proofs.Sql.Reading
import LeaseQueue.Proofs.Sql.Receiving
import LeaseQueue.Proofs.Sql.Sending
import LeaseQueue.Proofs.Sql.ShardInserts
import LeaseQueue.Proofs.Sql.Sweeping
import LeaseQueue.Proofs.Sql.Talk
import LeaseQueue.Proofs.Sql.Tokens
import LeaseQueue.Proofs.Sql.Vocabulary
import LeaseQueue.Proofs.Sql.Wording
import LeaseQueue.Proofs.Sql.Written
import LeaseQueue.Proofs.Sweep.Composition
import LeaseQueue.Proofs.Sweep.Loop
import LeaseQueue.Proofs.Text.Bytes
import LeaseQueue.Proofs.Transcript
import LeaseQueue.Queue.Client
import LeaseQueue.Sql.Cluster
import LeaseQueue.Sql.Connection
import LeaseQueue.Sql.Store
