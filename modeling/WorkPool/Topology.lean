import WorkPool.Basic
import WorkPool.Fault

/-!
# Topology: who is who in a run

The first ranks of a run are its workers and the ranks after them its servers. Each
worker has a **home server**, found by the worker's residue modulo the number of
servers; each datum has an **owner**, found by the residue of its id. The first
server is the **master**.

The plain functions wrap around at the end of a word and divide by zero as `UInt64`
does, and are meant for a topology whose size fits a word. The `checked` functions
give the same answers on such a topology, and fault where a word is too small or a
topology without servers is asked for one.
-/

namespace WorkPool

/-- The numbers of workers and servers of a run. -/
structure Topology where
  /-- how many workers there are -/
  workers : UInt64
  /-- how many servers there are -/
  servers : UInt64
  deriving DecidableEq

namespace Topology

variable (t : Topology)

/-! ## Roles -/

/-- The number of ranks. -/
def size : Nat := t.workers.toNat + t.servers.toNat

/-- Whether a rank belongs to the run. -/
def contains (r : Rank) : Bool := r.toNat < t.size

/-- Whether a rank is a worker. -/
def isWorker (r : Rank) : Bool := r < t.workers

/-- Whether a rank is a server. -/
def isServer (r : Rank) : Bool := t.workers ≤ r && t.contains r

/-- The server that leads the votes and the shutdown. -/
def master : Rank := t.workers

/-- The server with a given index. -/
def serverRank (index : UInt64) : Rank := t.workers + index

/-- The index of a server among the servers. -/
def serverIndex (r : Rank) : UInt64 := r - t.workers

/-- All workers, ascending. -/
def workerRanks : List Rank := ranksBelow t.workers

/-- All servers, ascending. -/
def serverRanks : List Rank := (ranksBelow t.servers).map t.serverRank

/-! ## Routing -/

/-- The server that parks the requests of a worker. -/
def homeServer (worker : Rank) : Rank := t.serverRank (worker % t.servers)

/-- The workers whose home is the given server. -/
def attached (server : Rank) : List Rank :=
  t.workerRanks.filter fun w => w % t.servers == t.serverIndex server

/-- The server that holds a datum. The number of servers is read as a signed word, and the
residue lies between zero and its size. -/
def owner (id : DatumId) : Rank :=
  t.serverRank (Int64.ofInt (id.toInt % t.servers.toInt64.toInt)).toUInt64

/-! ## The same with words that may not suffice -/

/-- The number of ranks, as a word. -/
def checkedSize : Except Fault UInt64 := Checked.add t.workers t.servers

/-- All workers, ascending, if there is room to list them. -/
def checkedWorkerRanks : Except Fault (List Rank) := do
  Checked.room t.workers 8
  return t.workerRanks

/-- Whether a rank belongs to the run. -/
def checkedContains (r : Rank) : Except Fault Bool := do
  return r < (← t.checkedSize)

/-- Whether a rank is a server; the size is needed only for ranks past the workers. -/
def checkedIsServer (r : Rank) : Except Fault Bool :=
  if t.workers ≤ r then t.checkedContains r else .ok false

/-- The server with a given index. -/
def checkedServerRank (index : UInt64) : Except Fault Rank := Checked.add t.workers index

/-- The index of a server among the servers. -/
def checkedServerIndex (r : Rank) : Except Fault UInt64 := Checked.sub r t.workers

/-- The server that parks the requests of a worker. -/
def checkedHomeServer (worker : Rank) : Except Fault Rank := do
  t.checkedServerRank (← Checked.rem worker t.servers)

/-- The workers whose home is the given server. -/
def checkedAttached (server : Rank) : Except Fault (List Rank) := do
  let index ← t.checkedServerIndex server
  if t.workers = 0 then return []
  if t.servers = 0 then throw .zeroDivisor
  return t.workerRanks.filter fun w => w % t.servers == index

/-- The server that holds a datum. -/
def checkedOwner (id : DatumId) : Except Fault Rank := do
  let residue ← Checked.residue id t.servers.toInt64
  t.checkedServerRank residue.toUInt64

end Topology

end WorkPool
