import WorkPool.Quiescence
import WorkPool.Shard
import WorkPool.Work.Backlog
import WorkPool.Work.WaitingList

/-!
# Servers: state and sending

A server owns a shard, a backlog and a waiting list, and knows the workers attached
to it. It handles one message at a time, to the end. What it has to send it appends to
its **outbox**, in order, and whoever runs the server passes the outbox on after each
step: a notice therefore leaves before the answer to the request that caused it.

This module holds the state and what every handler uses: sending, answering, and the
report that a server gives in a vote.
-/

namespace WorkPool

/-- What a worker is doing, as its home server sees it. -/
inductive WorkerState where
  /-- working -/
  | busy
  /-- waiting for a unit -/
  | parked
  /-- done -/
  | finalized
  deriving DecidableEq

/-- The two parts of a server's life. -/
inductive Phase where
  /-- serving requests -/
  | running
  /-- waiting for the attached workers to leave -/
  | shuttingDown
  deriving DecidableEq

/-- What a server tells about its life when it is over. The counts are kept as numbers, and each fits
one word in every run that is lighter than a word is large (`Server.counters_fit`). -/
structure ServerStats where
  /-- the server -/
  rank : Rank
  /-- puts accepted -/
  puts : Nat := 0
  /-- gets answered with a unit -/
  getsServed : Nat := 0
  /-- gets that had to wait -/
  requestsParked : Nat := 0
  /-- units passed on to another server -/
  unitsForwarded : Nat := 0
  /-- units received from peers -/
  stolenIn : Nat := 0
  /-- units given to peers -/
  stolenOut : Nat := 0
  /-- notices made -/
  notificationsSent : Nat := 0
  /-- waits dropped at shutdown -/
  subscriptionsInvalidated : Nat := 0
  /-- units dropped at shutdown -/
  unitsDiscarded : Nat := 0
  /-- data that came and went -/
  datums : DatumCounts := {}
  /-- votes opened -/
  voteRounds : Nat := 0
  /-- the most bytes ever in use, within the limit of the settings -/
  peakMemoryBytes : Nat := 0
  deriving DecidableEq

/-- The state of one server. -/
structure Server where
  /-- its rank -/
  rank : Rank
  /-- the ranks of the run -/
  topology : Topology
  /-- the settings of the run -/
  settings : Settings
  /-- its data -/
  shard : Shard
  /-- its queued units -/
  backlog : Backlog
  /-- the requests it has parked -/
  waiting : WaitingList := {}
  /-- the other servers -/
  peers : Peers
  /-- the votes it holds, if it is the master -/
  votes : Quiescence
  /-- the workers attached to it -/
  workers : Table Rank WorkerState
  /-- whether it still serves -/
  phase : Phase := .running
  /-- the tag of its next own request -/
  nextTag : UInt64 := 0
  /-- how many messages that move work it has handled -/
  activity : Nat := 0
  /-- how many of those it has sent to servers -/
  sent : Nat := 0
  /-- how many of those it has received from servers -/
  received : Nat := 0
  /-- what is still to be sent, in order -/
  outbox : List (Rank × Message) := []
  /-- what it will tell at the end -/
  stats : ServerStats

namespace Server

/-- The server with a rank at the start of a run. -/
def new (rank : Rank) (settings : Settings) : Except Fault (Except Error Server) := do
  let topology := settings.topology
  if ← topology.checkedIsServer rank then
    return .ok {
      rank, topology, settings
      shard := .new (topology.serverIndex rank) settings
      backlog := { capacity := settings.maxQueuedUnits.toNat }
      peers := .new rank topology.serverRanks
      votes := { servers := topology.servers }
      workers := .ofList ((topology.attached rank).map fun w => (w, .busy))
      stats := { rank } }
  else return .error (.configuration s!"rank {rank} is not a server rank" none)

variable (s : Server)

/-! ## Reading -/

/-- Whether the server leads the votes. -/
def isMaster : Bool := s.rank == s.topology.master

/-- Whether the server is waiting for its workers to leave. -/
def isShuttingDown : Bool := s.phase == .shuttingDown

/-- The other servers, ascending. -/
def otherServers : List Rank := s.topology.serverRanks.filter (· != s.rank)

/-- Nothing is queued, no attached worker is at work, and no datum is open where that matters. -/
def isIdle : Bool :=
  !s.isShuttingDown && s.backlog.isEmpty && s.workers.values.all (· != .busy)
    && (!s.settings.quiescenceRequiresClosedData || s.shard.openCount == 0)

/-- What the server tells in a vote. -/
def idleReport : IdleReport :=
  ⟨s.isIdle, UInt64.ofNat s.activity, UInt64.ofNat s.sent, UInt64.ofNat s.received⟩

/-- What the server tells about its work. -/
def load : Load := ⟨s.backlog.counts, UInt64.ofNat s.waiting.size⟩

/-! ## Sending -/

/-- Send a message; one that moves work to a server is counted. -/
def send (dest : Rank) (m : Message) : Server :=
  { s with
    sent := if s.topology.isServer dest && m.movesWork then s.sent + 1 else s.sent
    outbox := s.outbox ++ [(dest, m)] }

/-- Send a message to several ranks. -/
def sendAll (dest : List Rank) (m : Message) : Server := dest.foldl (fun s r => s.send r m) s

/-- Answer a request. -/
def respond (dest : Rank) (tag : UInt64) (result : Except Error Reply) : Server :=
  s.send dest (.response tag (.ofResult result))

/-- Take what is to be sent. -/
def takeOutbox : Server × List (Rank × Message) := ({ s with outbox := [] }, s.outbox)

/-- Note what a worker is doing. -/
def setWorker (worker : Rank) (state : WorkerState) : Server :=
  { s with workers := s.workers.insert worker state }

end Server

end WorkPool
