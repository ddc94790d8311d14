import WorkPool.Data.Datum
import WorkPool.Data.Notice
import WorkPool.IdSource
import WorkPool.MemoryBudget
import WorkPool.Settings

/-!
# Shards: the data of one server

A shard holds the live data of one server, the ids of those already collected, the
waits of subscribers, advisory locks, and the counts that go with them.

The life of a datum:

* it is **live** from its creation, and **open** while it has writers;
* when the last writer leaves, or on request, it **closes**: it takes no more writes,
  and everybody who waits for it is told;
* when it is closed and has no readers it is **collected**: it is removed, its bytes
  are given back, and its id is retired for good.

An operation answers with an `Outcome`: the next shard, the result, and the `Effects`
that the server has to carry out on behalf of the shard.
-/

namespace WorkPool

/-- What a server has to do after an operation. -/
structure Effects where
  /-- who is to be told what, in order -/
  notices : List (Rank × Notice) := []
  /-- members that are to be stored into other data, in order -/
  references : List (DatumId × Bytes) := []
  deriving DecidableEq

/-- How many data a shard has seen, with the bound of the other counts (`Server.counters_fit`). -/
structure DatumCounts where
  /-- made, and not taken back -/
  created : Nat := 0
  /-- closed -/
  closed : Nat := 0
  /-- collected -/
  collected : Nat := 0
  deriving DecidableEq

/-- The data of one server. -/
structure Shard where
  /-- the live data -/
  data : Table DatumId Datum := {}
  /-- who waits for what -/
  subscriptions : Subscriptions := []
  /-- the ids that are left -/
  ids : IdSource
  /-- who holds which lock -/
  locks : Table DatumId Rank := {}
  /-- the ids of collected data -/
  retired : List DatumId := []
  /-- the bytes in use -/
  memory : MemoryBudget
  /-- whether an insert may replace a member -/
  allowOverwrite : Bool
  /-- what a read of an open container shows -/
  openRead : OpenRead
  /-- how many data came and went -/
  counts : DatumCounts := {}

/-- The result of an operation. -/
structure Outcome (α : Type) where
  /-- the shard afterwards -/
  shard : Shard
  /-- the answer -/
  result : Except Error α
  /-- what is left to do -/
  effects : Effects := {}

/-- Put the answer into another form. -/
def Outcome.map {α β : Type} (f : α → β) (o : Outcome α) : Outcome β :=
  ⟨o.shard, o.result.map f, o.effects⟩

namespace Shard

/-- The empty shard of the server with the given index. -/
def new (index : UInt64) (settings : Settings) : Shard where
  ids := .new index settings.servers settings.idLimit
  memory := { limit := settings.maxMemoryBytes.toNat }
  allowOverwrite := settings.allowOverwrite
  openRead := settings.openRead

variable (s : Shard)

/-! ## Reading -/

/-- The live datum with an id. -/
def live (id : DatumId) : Except Error Datum :=
  match s.data.find? id with
  | some d => .ok d
  | none => .error (.unknownDatum id)

/-- The datum with an id, for a change: a collected datum counts as closed. -/
def changeable (id : DatumId) : Except Error Datum :=
  if s.retired.contains id then .error (.closed id) else s.live id

/-- The number of live data. -/
def size : Nat := s.data.size

/-- The number of open data. -/
def openCount : Nat := s.data.values.countP fun d => !d.closed

/-- The number of waits. -/
def pendingCount : Nat := s.subscriptions.length

/-! ## Answers -/

/-- Refuse, with nothing else changed. -/
def refuse {α : Type} (e : Error) : Outcome α := ⟨s, .error e, {}⟩

/-- Answer, with nothing to do. -/
def answer {α : Type} (a : α) : Outcome α := ⟨s, .ok a, {}⟩

/-- Answer from what the shard holds, without changing it. -/
def inspect {α : Type} (r : Except Error α) : Outcome α := ⟨s, r, {}⟩

/-- Ask for the bytes of a datum whose size changes, and go on if they are granted. -/
def charge {α : Type} (old new : Nat) (act : Shard → Except Fault (Outcome α)) :
    Except Fault (Outcome α) := do
  let (memory, granted) ← s.memory.resize old new
  let s := { s with memory }
  match granted with
  | .error e => return s.refuse e
  | .ok () => act s

/-! ## The end of a datum's life -/

/-- Collect a datum that is closed, has no readers and is not waited for. -/
def collect (id : DatumId) : Shard :=
  match s.data.find? id with
  | some d =>
    if d.closed && d.readers == 0 && !s.subscriptions.hasPending id then
      { s with
        data := s.data.erase id
        memory := s.memory.release d.footprint
        locks := s.locks.erase id
        retired := id :: s.retired
        counts := { s.counts with collected := s.counts.collected + 1 } }
    else s
  | none => s

/-- Close a datum, tell everybody who waits for it, and collect it if nobody reads it. Those who
wait for the closing come first; then those who wait for a subscript that did not come. -/
def closeDatum (id : DatumId) (d : Datum) : Shard × List (Rank × Notice) :=
  let (closers, rest) := s.subscriptions.take (Subscriptions.onClose id)
  let (waiters, rest) :=
    if d.content.kind = .container then Subscriptions.take rest (Subscriptions.onAnySubscript id)
    else ([], rest)
  let notices := closers.map (·.notice .closed)
    ++ (Subscriptions.bySubscript waiters).map (·.notice .missing)
  let s := { s with
    data := s.data.insert id { d with closed := true }
    subscriptions := rest
    counts := { s.counts with closed := s.counts.closed + 1 } }
  (s.collect id, notices)

/-- Give up writers of a datum, which closes when the last one leaves. The datum is looked up
again. -/
def giveUp (id : DatumId) (drops : UInt32) : Except Fault (Outcome Unit) :=
  if drops = 0 then return s.answer ()
  else match s.changeable id with
  | .error e => return s.refuse e
  | .ok d => do
    let writers ← Checked.subCount d.writers drops
    let d := { d with writers }
    if writers = 0 then
      let (s, notices) := s.closeDatum id d
      return ⟨s, .ok (), { notices }⟩
    else return { s with data := s.data.insert id d }.answer ()

/-- Drop all waits, and tell how many there were. -/
def invalidate : Shard × Nat := ({ s with subscriptions := [] }, s.pendingCount)

end Shard

/-! ## Permission to write -/

/-- A datum takes writes while it is open, and gives up only writers it has. -/
def Datum.checkWritable (d : Datum) (id : DatumId) (drops : UInt32) : Except Error Unit :=
  if d.closed then .error (.closed id)
  else if d.writers < drops then .error (.refcount id "write" d.writers drops)
  else .ok ()

/-- The container a datum holds, for the operation `op`. -/
def Datum.container (d : Datum) (id : DatumId) (op : String) : Except Error Container :=
  match d.content.container? with
  | some c => .ok c
  | none => .error (.refused op s!"<{id}> is a {d.content.kind.name}, not a container")

end WorkPool
