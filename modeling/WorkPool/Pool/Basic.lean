import WorkPool.Mailboxes
import WorkPool.Role

/-!
# Pools: a whole run in one place

A `Pool` holds every rank of a run and the mailboxes between them. Time stands still
in it except where it is made to pass: ranks act on what is in their mailboxes until
all of them wait, and servers look for work or open a vote only on a tick.

A fault ends the rank it arises in and nothing else: a server leaves the run, and a
worker **breaks down**, which means that its call never ends.

This module holds the state and the ways in which one rank changes it: sending, ending
a call, and a step of a server.
-/

namespace WorkPool

/-- A server of a pool. -/
inductive ServerRun where
  /-- it serves -/
  | serving (s : Server)
  /-- it has left the run, with this to tell -/
  | ended (result : Except Error ServerStats)

/-- A worker of a pool. -/
inductive WorkerRun where
  /-- no call is under way -/
  | free (c : Client)
  /-- a call waits for an answer -/
  | waiting (c : Client) (x : Exchange)
  /-- a call waits for the other workers -/
  | meeting (c : Client)
  /-- a call broke down and will not end -/
  | stranded
  /-- the worker has left the run -/
  | gone

/-- The state of a whole run. -/
structure Pool where
  /-- the ranks of the run -/
  topology : Topology
  /-- what is on its way -/
  mailboxes : Mailboxes
  /-- the servers -/
  servers : Table Rank ServerRun := {}
  /-- the workers -/
  workers : Table Rank WorkerRun := {}
  /-- the ranks to look into their mailboxes, first come first served -/
  ready : List Rank := []
  /-- the calls that ended and were not yet told of -/
  results : Table Rank (Except Error Returned) := {}
  /-- whether the end of the run was waited for -/
  joined : Bool := false

namespace Pool

/-- Give one rank its role. -/
def place (p : Pool) (r : Rank) : Role → Pool
  | .server s => { p with servers := p.servers.insert r (.serving s) }
  | .worker c => { p with workers := p.workers.insert r (.free c) }

/-- Start a run: every rank is given its role. -/
def launch (settings : Settings) : Except Fault (Except Error Pool) := do
  match settings.validate with
  | .error e => return .error e
  | .ok () =>
    let size ← settings.size
    let empty : Pool := { topology := settings.topology, mailboxes := ← Mailboxes.new size }
    (ranksBelow size).foldlM
      (fun (p : Except Error Pool) r => do
        match p with
        | .error e => return .error e
        | .ok p => return (← Role.assign size r settings).map (p.place r))
      (.ok empty)

variable (p : Pool)

/-! ## Sending -/

/-- Send a message; the receiver will look into its mailbox. -/
def send (source dest : Rank) (m : Message) : Except Error Pool := do
  let mailboxes ← p.mailboxes.send source dest m
  return { p with mailboxes, ready := if p.ready.contains dest then p.ready else p.ready ++ [dest] }

/-- Send messages in order; those that cannot be delivered are lost. -/
def sendAll (source : Rank) (messages : List (Rank × Message)) : Pool :=
  messages.foldl (fun p (dest, m) => (p.send source dest m).toOption.getD p) p

/-! ## Servers -/

/-- A server leaves the run. -/
def endServer (r : Rank) (result : Except Error ServerStats) : Pool :=
  { p with mailboxes := p.mailboxes.depart r, servers := p.servers.insert r (.ended result) }

/-- One step of a server: what it has to send is passed on, and it may leave. -/
def serve (r : Rank) (s : Server) (i : Input) : Pool :=
  match s.step i with
  | .error fault => p.endServer r (.error (.internal s!"server task failed: {fault.message}"))
  | .ok (s, flow) =>
    let (s, messages) := s.takeOutbox
    let p := p.sendAll r messages
    match flow with
    | .proceed => { p with servers := p.servers.insert r (.serving s) }
    | .exit => p.endServer r (.ok s.finish)
    | .abort code => p.endServer r (.error (.aborted code))

/-- What the servers have to tell once all of them have left: the first failure, or everything. -/
def outcome? : Option (Except Error (List ServerStats)) := do
  let results ← p.servers.values.mapM fun
    | .ended result => some result
    | .serving _ => none
  return results.mapM id

/-! ## Workers -/

/-- A call of a worker ends; a worker that has finalized leaves the run. -/
def endCall (w : Rank) (c : Client) (call : Call) (result : Except Error Returned) : Pool :=
  let p := { p with results := p.results.insert w result }
  if call = .finalize then
    { p with mailboxes := p.mailboxes.depart w, workers := p.workers.insert w .gone }
  else { p with workers := p.workers.insert w (.free c) }

/-- A worker breaks down: nothing reaches it any more, and its call does not end. -/
def strand (w : Rank) : Pool :=
  { p with mailboxes := p.mailboxes.depart w, workers := p.workers.insert w .stranded }

/-- What becomes of a pool in which a worker acts, if a fault breaks the worker down. -/
def contain (w : Rank) : Except Fault Pool → Pool
  | .ok p => p
  | .error _ => p.strand w

/-- A worker asks a server and waits, or learns that it cannot. -/
def ask (w : Rank) (c : Client) (call : Call) (dest : Rank) (body : Request)
    (payloads : List Bytes) : Except Fault Pool := do
  let (c, x) ← c.exchange call dest body payloads
  match p.send w dest x.message with
  | .ok p => return { p with workers := p.workers.insert w (.waiting c x) }
  | .error e => return p.endCall w c call (x.failed (← c.sendFailure dest e))

/-- The workers whose call is under way, ascending. -/
def blocked : List Rank :=
  p.workers.entries.filterMap fun
    | (w, .waiting ..) | (w, .meeting _) | (w, .stranded) => some w
    | _ => none

/-- The workers that wait for the others. -/
def meeting : List (Rank × Client) :=
  p.workers.entries.filterMap fun
    | (w, .meeting c) => some (w, c)
    | _ => none

/-- Let all workers go on once all have come together. -/
def release : Pool :=
  if p.meeting.length < max p.topology.workers.toNat 1 then p
  else p.meeting.foldl (fun p (w, c) => p.endCall w c .barrier (.ok (.reply .ack))) p

end Pool

end WorkPool
