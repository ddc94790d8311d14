import WorkPool.Client.Link
import WorkPool.Pool
import WorkPool.Settings.Document
import WorkPool.Proofs.Container
import WorkPool.Proofs.IdPartition
import WorkPool.Proofs.MemoryBudget
import WorkPool.Proofs.Result
import WorkPool.Proofs.Shard.Waits
import WorkPool.Proofs.Shard.Fires
import WorkPool.Proofs.Shard.Creation
import WorkPool.Proofs.Shard.Perform
import WorkPool.Proofs.Shard.ExactlyOnce
import WorkPool.Proofs.Shard.Changes
import WorkPool.Proofs.Shard.Memory
import WorkPool.Proofs.Shard.Lifecycle
import WorkPool.Proofs.Shard.TakenBack
import WorkPool.Proofs.Shard.Refusals
import WorkPool.Proofs.Shard.Contents
import WorkPool.Proofs.Backlog
import WorkPool.Proofs.Server.Works
import WorkPool.Proofs.Server.Handles
import WorkPool.Proofs.Server.Steps
import WorkPool.Proofs.Server.Answers
import WorkPool.Proofs.Topology
import WorkPool.Proofs.World
import WorkPool.Proofs.World.Calm
import WorkPool.Proofs.World.Workers
import WorkPool.Proofs.World.Balance
import WorkPool.Proofs.World.Rest
import WorkPool.Proofs.Quiescence
import WorkPool.Proofs.World.Votes
import WorkPool.Proofs.Termination
import WorkPool.Proofs.Server.Units
import WorkPool.Proofs.Conservation
import WorkPool.Proofs.Wire
import WorkPool.Proofs.RoundTrip
import WorkPool.Proofs.RawBytes
import WorkPool.Proofs.Server.Deeds
import WorkPool.Proofs.Server.Matching
import WorkPool.Proofs.World.Counting
import WorkPool.Proofs.Arrivals
import WorkPool.Proofs.Shard.Sealed
import WorkPool.Proofs.Shard.Reservations
import WorkPool.Proofs.Server.Acts
import WorkPool.Proofs.World.History
import WorkPool.Proofs.World.Shutdown
import WorkPool.Proofs.Server.Dispatch
import WorkPool.Proofs.World.Delivery
import WorkPool.Proofs.Server.Stopped
import WorkPool.Proofs.Server.Steals
import WorkPool.Proofs.World.Stealing
import WorkPool.Proofs.Shard.Aside
import WorkPool.Proofs.Shard.Issued
import WorkPool.Proofs.Listing
import WorkPool.Proofs.Shard.Reading
import WorkPool.Proofs.Shard.Scans
import WorkPool.Proofs.Server.Routing
import WorkPool.Proofs.Routing
import WorkPool.Proofs.Shard.Faults
import WorkPool.Proofs.Server.Data
import WorkPool.Proofs.Server.Rounds
import WorkPool.Proofs.Server.Faults
import WorkPool.Proofs.Server.Attendance
import WorkPool.Proofs.Server.Courses
import WorkPool.Proofs.Server.Leaving
import WorkPool.Proofs.Server.Discarded
import WorkPool.Proofs.Verdicts
import WorkPool.Proofs.Shard.Locks
import WorkPool.Proofs.Shard.Spellings
import WorkPool.Proofs.OwnAnswers
import WorkPool.Proofs.OneLine
import WorkPool.Proofs.RoundRobin
import WorkPool.Proofs.PassedOver
import WorkPool.Proofs.Server.Stillness
import WorkPool.Proofs.Shard.Costs
import WorkPool.Proofs.Server.Counters
