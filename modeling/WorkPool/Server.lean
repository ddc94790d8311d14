import WorkPool.Server.Effects

/-!
# Servers: handling messages and ticks

`Server.step` is everything that can happen to a server: a message arrives, it is time
to look for work, or it is time to consider a vote. The answer says whether the server
goes on, leaves because the shutdown is complete, or breaks off.

A shutdown begins at the master, by a vote or on request, and is passed to every other
server. A server that shuts down answers the requests it has parked, drops its waits
and its backlog, and leaves when all its workers have left.
-/

namespace WorkPool

/-- What becomes of a server after a step. -/
inductive Flow where
  /-- it goes on -/
  | proceed
  /-- the shutdown is complete -/
  | exit
  /-- the run was broken off -/
  | abort (code : Int32)
  deriving DecidableEq

/-- What can happen to a server. -/
inductive Input where
  /-- a message arrives -/
  | message (source : Rank) (m : Message)
  /-- it is time to look for work -/
  | stealTick
  /-- it is time to consider a vote -/
  | idleTick
  deriving DecidableEq

namespace Server

variable (s : Server)

/-! ## Shutdown -/

/-- Stop serving. -/
def beginShutdown : Server :=
  if s.isShuttingDown then s
  else
    let (parked, waiting) := s.waiting.drain
    let s := parked.foldl (fun s p => s.respond p.rank p.tag (.error .shutdown))
      { s with phase := .shuttingDown, waiting }
    let (shard, invalidated) := s.shard.invalidate
    let (discarded, backlog) := s.backlog.drain
    { s with
      shard, backlog
      stats := { s.stats with
        subscriptionsInvalidated := s.stats.subscriptionsInvalidated + invalidated
        unitsDiscarded := s.stats.unitsDiscarded + discarded.length } }

/-- As the master, tell every other server to stop serving, and stop. -/
def initiateShutdown : Server :=
  if s.isShuttingDown then s else (s.sendAll s.otherServers .shutdown).beginShutdown

/-- A server leaves once it shuts down and all its workers are gone. -/
def exitCheck : Flow :=
  if s.isShuttingDown && s.workers.values.all (· == .finalized) then .exit else .proceed

/-! ## Votes -/

/-- Act on the result of a round. -/
def actOn : Option Verdict → Server
  | some .terminate => s.initiateShutdown
  | _ => s

/-- Open a round of votes. -/
def startVote : Except Fault Server := do
  let (votes, round) ← s.votes.openRound s.rank s.idleReport
  let s : Server := { s with votes, stats := { s.stats with voteRounds := s.stats.voteRounds + 1 } }
  if s.topology.servers = 1 then
    let (votes, verdict) ← s.votes.conclude
    return { s with votes }.actOn verdict
  else return s.sendAll s.otherServers (.idleQuery round)

/-- Take up a report, as the master of a run that goes on. -/
def onIdleReply (source : Rank) (round : UInt64) (report : IdleReport) : Except Fault Server :=
  if s.isMaster && !s.isShuttingDown then do
    let (votes, verdict) ← s.votes.record source round report
    return { s with votes }.actOn verdict
  else return s

/-! ## Requests -/

/-- End the run, or ask the master to end it. -/
def onServerShutdown (source : Rank) (tag : UInt64) : Server :=
  let s := if s.isMaster then s.initiateShutdown else s.send s.topology.master .shutdownRequested
  s.respond source tag (.ok .ack)

/-- Carry out a request that this server may carry out. -/
def onOwnRequest (source : Rank) (tag : UInt64) : Request → Except Fault Server
  | .get type => return s.onGet source tag type
  | .put u => return s.onPut source tag u
  | .finalize => return s.onFinalize source tag
  | .serverIdle => return s.respond source tag (.ok (.flag s.isIdle))
  | .serverShutdown => return s.onServerShutdown source tag
  | .data op => s.onData source tag op

/-- A worker that has asked for something, and is not waiting for work, is at work. -/
def noteBusy (source : Rank) : Server :=
  match s.workers.find? source with
  | some .finalized | none => s
  | some _ => if s.waiting.isParked source then s else s.setWorker source .busy

/-- The owner of the datum that a request is about, if that is another server. -/
def wrongOwner? (body : Request) : Option (DatumId × Rank) :=
  match body.subject? with
  | some id => if s.topology.owner id = s.rank then none else some (id, s.topology.owner id)
  | none => none

/-- Carry out a request. In a run that is ending, only leaving is granted; data of other servers
are never touched. -/
def onRequest (source : Rank) (tag : UInt64) (body : Request) : Except Fault Server :=
  if s.isShuttingDown then
    return if body = .finalize then s.onFinalize source tag
      else s.respond source tag (.error .shutdown)
  else
    match s.wrongOwner? body with
    | some (id, owner) =>
      return s.respond source tag (.error (.refused body.name
        s!"datum <{id}> is owned by server {owner}, not {s.rank}"))
    | none => return (← s.onOwnRequest source tag body).noteBusy source

/-! ## Steps -/

/-- Count a message that moves work. -/
def countArrival (source : Rank) (m : Message) : Server :=
  if m.movesWork then
    { s with
      activity := s.activity + 1
      received := if s.topology.isServer source then s.received + 1 else s.received }
  else s

/-- Do what a message asks for. -/
def dispatch (source : Rank) : Message → Except Fault Server
  | .request tag body => s.onRequest source tag body
  | .response .. => return s
  | .forwardPut u => return s.accept u
  | .stealRequest wanted load => return s.onStealRequest source wanted load
  | .stealResponse units load => return s.onStealResponse source units load
  | .idleQuery round => return s.send source (.idleReply round s.idleReport)
  | .idleReply round report => s.onIdleReply source round report
  | .shutdown => return s.beginShutdown
  | .shutdownRequested => return if s.isMaster then s.initiateShutdown else s
  | .abort _ => return s

/-- The counts that a server reports have to fit their words. -/
def checkCounts : Except Fault Server :=
  if s.activity < Checked.wordSize ∧ s.sent < Checked.wordSize ∧ s.received < Checked.wordSize then
    .ok s
  else .error .addOverflow

/-- Handle one message. -/
def handle (source : Rank) (m : Message) : Except Fault (Server × Flow) := do
  let s ← (← (s.countArrival source m).dispatch source m).checkCounts
  match m with
  | .abort code => return (s, .abort code)
  | _ => return (s, s.exitCheck)

/-- Look for work. -/
def onStealTick : Server × Flow :=
  let s := s.trySteal
  (s, s.exitCheck)

/-- Open a round of votes if this is the master, none is open, and there is nothing to do here. -/
def onIdleTick : Except Fault (Server × Flow) := do
  let s ← if s.isMaster && !s.isShuttingDown && !s.votes.isVoting && s.isIdle then s.startVote
    else pure s
  return (s, s.exitCheck)

/-- Everything that can happen to a server. -/
def step : Input → Except Fault (Server × Flow)
  | .message source m => s.handle source m
  | .stealTick => return s.onStealTick
  | .idleTick => s.onIdleTick

/-- What a server tells at the end. -/
def finish : ServerStats :=
  { s.stats with datums := s.shard.counts, peakMemoryBytes := s.shard.memory.peak }

end Server

end WorkPool
