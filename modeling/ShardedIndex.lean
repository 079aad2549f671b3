import ShardedIndex.Main
import ShardedIndex.Properties.Document
import ShardedIndex.Work.Document
import ShardedIndex.Index.Sharing
import ShardedIndex.Audit.Sharing
import ShardedIndex.Proofs.Machine
import ShardedIndex.Proofs.Text.Numeral
import ShardedIndex.Proofs.Text.ByteOrder
import ShardedIndex.Proofs.Json.Literal
import ShardedIndex.Proofs.Json.Token
import ShardedIndex.Proofs.Json.Value
import ShardedIndex.Proofs.Json.Number
import ShardedIndex.Proofs.Json.Document
import ShardedIndex.Proofs.Properties.Views
import ShardedIndex.Proofs.Properties.Count
import ShardedIndex.Proofs.Properties.Lift
import ShardedIndex.Proofs.Properties.Shards
import ShardedIndex.Proofs.Properties.Stray
import ShardedIndex.Proofs.Properties.Document
import ShardedIndex.Proofs.Audit.Replay
import ShardedIndex.Proofs.Audit.LostWork
import ShardedIndex.Proofs.Audit.Sharing
import ShardedIndex.Proofs.Index.Contents
import ShardedIndex.Proofs.Index.Registry
import ShardedIndex.Proofs.Index.Sharing
import ShardedIndex.Proofs.Index.Allotment
import ShardedIndex.Proofs.Binding.Bound
import ShardedIndex.Proofs.Binding.Holding
import ShardedIndex.Proofs.Binding.Refinement
import ShardedIndex.Proofs.Binding.Failure
import ShardedIndex.Proofs.Binding.Outcome
import ShardedIndex.Proofs.Binding.Neighbours
import ShardedIndex.Proofs.Binding.Redirection
import ShardedIndex.Proofs.Binding.Memory
import ShardedIndex.Proofs.Binding.Agreement
import ShardedIndex.Proofs.Routing.Range
import ShardedIndex.Proofs.Routing.Separation
import ShardedIndex.Proofs.Workload.Spending
import ShardedIndex.Proofs.Workload.Provenance
import ShardedIndex.Proofs.Workload.FinalSize
import ShardedIndex.Proofs.Workload.Rounding
import ShardedIndex.Proofs.Load.Move
import ShardedIndex.Proofs.Load.Progress
import ShardedIndex.Proofs.Load.Trace
import ShardedIndex.Proofs.Load.Tracking
import ShardedIndex.Proofs.Load.Drift
import ShardedIndex.Proofs.Load.Convergence
import ShardedIndex.Proofs.Load.Interception
import ShardedIndex.Proofs.Load.Sequential
import ShardedIndex.Proofs.Trial.Bind
import ShardedIndex.Proofs.Trial.Ending
import ShardedIndex.Proofs.Work.Record
import ShardedIndex.Proofs.Work.Document
