import WorkPool.Server.Basic

/-!
# Servers: work

A unit that reaches a server is **submitted**: it is passed on to the server that must
hold it, or given to a request that waits for it, or queued. A request for work is met
from the backlog or parked, and a server with parked requests asks a peer for units.
-/

namespace WorkPool

namespace Server

variable (s : Server)

/-! ## Units -/

/-- The server that must hold a unit with a target. -/
def holder (target : Rank) : Rank :=
  if s.topology.isServer target then target else s.topology.homeServer target

/-- Give a unit to the request that waits for it, or queue it. -/
def place (u : WorkUnit) : Server × Except Error Unit :=
  match s.waiting.takeMatch u with
  | some (p, waiting) =>
    let s := { s with
      waiting
      stats := { s.stats with getsServed := s.stats.getsServed + 1 } }
    ((s.setWorker p.rank .busy).respond p.rank p.tag (.ok (.work u)), .ok ())
  | none =>
    let (backlog, result) := s.backlog.push u
    ({ s with backlog }, result)

/-- Pass a unit on to the server that must hold it, or place it here. A unit that names this
server is for any worker. -/
def submit (u : WorkUnit) : Server × Except Error Unit :=
  match u.target with
  | none => s.place u
  | some target =>
    if s.holder target ≠ s.rank then
      let s := { s with stats := { s.stats with unitsForwarded := s.stats.unitsForwarded + 1 } }
      (s.send (s.holder target) (.forwardPut u), .ok ())
    else if s.topology.isServer target then s.place { u with target := none }
    else s.place u

/-- Submit a unit for which nobody waits; if there is no room it is lost. -/
def accept (u : WorkUnit) : Server := (s.submit u).1

/-! ## Stealing -/

/-- Ask a peer for the types that are waited for. -/
def trySteal : Server :=
  if s.isShuttingDown || s.topology.servers < 2 || s.waiting.types.isEmpty then s
  else
    match s.peers.choose s.waiting.types with
    | (none, _) => s
    | (some victim, peers) =>
      { s with peers }.send victim (.stealRequest s.waiting.types s.load)

/-- Hand units over to a peer, unless the run is ending. -/
def onStealRequest (source : Rank) (wanted : List WorkType) (load : Load) : Server :=
  let s := { s with peers := s.peers.record source load }
  let (units, backlog) := if s.isShuttingDown then ([], s.backlog) else s.backlog.steal wanted
  let s := { s with
    backlog
    stats := { s.stats with stolenOut := s.stats.stolenOut + units.length } }
  s.send source (.stealResponse units s.load)

/-- Take up the units of a peer. -/
def onStealResponse (source : Rank) (units : List WorkUnit) (load : Load) : Server :=
  let s := { s with
    peers := s.peers.complete source load
    stats := { s.stats with stolenIn := s.stats.stolenIn + units.length } }
  units.foldl accept s

/-! ## Requests for and of work -/

/-- Accept a known type of work. -/
def checkType (type : WorkType) : Except Error Unit :=
  if s.settings.accepts type then .ok () else .error (.invalid s!"unknown work type {type}")

/-- Meet a request for work, or park it. -/
def onGet (source : Rank) (tag : UInt64) (type : WorkType) : Server :=
  match s.checkType type with
  | .error e => s.respond source tag (.error e)
  | .ok () =>
    if ¬ s.workers.contains source then
      s.respond source tag (.error (.refused "get"
        s!"rank {source} must request work from its home server {s.topology.homeServer source}"))
    else
      match s.backlog.popFor source type with
      | (some u, backlog) =>
        let s := { s with
          backlog
          stats := { s.stats with getsServed := s.stats.getsServed + 1 } }
        s.respond source tag (.ok (.work u))
      | (none, _) =>
        let s := { s with
          waiting := s.waiting.park ⟨source, tag, type⟩
          stats := { s.stats with requestsParked := s.stats.requestsParked + 1 } }
        (s.setWorker source .parked).trySteal

/-- Accept a unit with a known type and a target in the run. -/
def checkPut (u : WorkUnit) : Except Error Unit := do
  s.checkType u.type
  match u.target with
  | some target =>
    if s.topology.contains target then return ()
    throw (.refused "put" s!"target rank {target} is outside the run")
  | none => return ()

/-- Take up a unit from a worker. -/
def onPut (source : Rank) (tag : UInt64) (u : WorkUnit) : Server :=
  match s.checkPut u with
  | .error e => s.respond source tag (.error e)
  | .ok () =>
    let s := { s with stats := { s.stats with puts := s.stats.puts + 1 } }
    let (s, result) := s.submit u
    s.respond source tag (result.map fun _ => .ack)

/-- Let a worker go. -/
def onFinalize (source : Rank) (tag : UInt64) : Server :=
  if s.workers.contains source then
    (s.setWorker source .finalized).respond source tag (.ok .ack)
  else
    s.respond source tag (.error (.refused "finalize"
      s!"rank {source} is not attached to server {s.rank}"))

end Server

end WorkPool
