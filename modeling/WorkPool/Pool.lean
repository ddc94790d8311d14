import WorkPool.Pool.Basic

/-!
# Pools: running a whole run

`Pool.settle` lets every rank act until all of them wait, without time passing. A rank
whose mailbox received something is **ready**; the rank that has been ready longest acts
on all it has received, and then the next. `Pool.call` starts a call of a worker and
settles; `Pool.wait` lets time pass; `Pool.join` waits for the end of the run.
-/

namespace WorkPool

namespace Pool

/-! ## Settling -/

/-- The most frames that ranks act on before somebody looks at the pool again. -/
def patience : Nat := 10000000

/-- How often a server looks for work between two looks at whether the run is over. -/
def stealsPerInterval : Nat := 20

/-- How many intervals the end of a run is waited for. -/
def joinIntervals : Nat := 10

/-- A rank acts on the oldest frame in its mailbox, if it waits for one and there is one. A
server passes over bytes that are no message. -/
def turn (p : Pool) (r : Rank) : Option Pool :=
  match p.servers.find? r, p.workers.find? r with
  | some (.serving s), _ =>
    match p.mailboxes.receive r with
    | (mailboxes, .frame source (.ok m)) =>
      some ({ p with mailboxes }.serve r s (.message source m))
    | (mailboxes, .frame _ (.error _)) => some { p with mailboxes }
    | _ => none
  | _, some (.waiting c x) =>
    match p.mailboxes.receive r with
    | (mailboxes, .frame _ content) =>
      let p := { p with mailboxes }
      match x.settle content with
      | none => some p
      | some result =>
        match x.conclude result with
        | .inl result => some (p.endCall r c x.call result)
        | .inr payloads => some (p.contain r (p.ask r c x.call x.dest x.body payloads))
    | _ => none
  | _, _ => none

/-- Ranks act until all of them wait, or `fuel` looks have been taken. -/
def settleWithin : Nat → Pool → Pool
  | 0, p => p
  | fuel + 1, p =>
    match p.ready with
    | [] => p
    | r :: rest =>
      match p.turn r with
      | some p => settleWithin fuel p
      | none => settleWithin fuel { p with ready := rest }

/-- Ranks act until all of them wait. -/
def settle (p : Pool) : Pool := settleWithin patience p

/-! ## Calls -/

/-- Whether a worker takes a call. -/
inductive Taken where
  /-- the call is under way or over -/
  | taken
  /-- an earlier call is under way -/
  | busy
  /-- the worker has left the run -/
  | gone
  deriving DecidableEq

/-- Do what a call does first. -/
def start (p : Pool) (w : Rank) (c : Client) (call : Call) : Except Fault Pool := do
  let (c, opening) ← c.opening call
  match opening with
  | .returns result => return p.endCall w c call result
  | .meets => return { p with workers := p.workers.insert w (.meeting c) }.release
  | .breaksOff code =>
    let p := p.sendAll w ((← c.otherRanks).map fun r => (r, .abort code))
    return p.endCall w c call (.error (.aborted code))
  | .asks dest body =>
    let p ← p.ask w c call dest body []
    return { p with ready := w :: p.ready.erase w }

/-- Let a worker do something, if no call of it is under way. -/
def engage (p : Pool) (w : Rank) (act : Client → Pool) : Pool × Taken :=
  match p.workers.find? w with
  | some (.free c) => (act c, .taken)
  | some .gone | none => (p, .gone)
  | some _ => (p, .busy)

/-- Start a call of a worker, and let every rank act. -/
def call (p : Pool) (w : Rank) (call : Call) : Pool × Taken :=
  p.engage w fun c => (p.contain w (p.start w c call)).settle

/-- Let a worker break down before the call it was about to make. -/
def breakDown (p : Pool) (w : Rank) : Pool × Taken := p.engage w fun _ => p.strand w

/-! ## Time -/

/-- A tick reaches a server, and every rank acts. -/
def tick (p : Pool) (r : Rank) (i : Input) : Pool :=
  match p.servers.find? r with
  | some (.serving s) => (p.serve r s i).settle
  | _ => p

/-- A tick reaches every server in turn. -/
def tickAll (p : Pool) (i : Input) : Pool := p.servers.keys.foldl (fun p r => p.tick r i) p

/-- The time between two looks at whether the run is over passes. -/
def interval (p : Pool) : Pool :=
  ((List.range stealsPerInterval).foldl (fun p _ => p.tickAll .stealTick) p).tickAll .idleTick

/-- So many intervals pass. -/
def wait (p : Pool) : Nat → Pool
  | 0 => p
  | n + 1 => p.interval.wait n

/-! ## The end -/

/-- What comes of waiting for the end of a run. -/
inductive Ending where
  /-- all servers have left -/
  | over (result : Except Error (List ServerStats))
  /-- some still serve -/
  | timeout
  /-- the end was waited for before -/
  | gone

/-- Let up to so many intervals pass until all servers have left. -/
def await (p : Pool) (n : Nat) : Pool × Ending :=
  match p.outcome?, n with
  | some result, _ => (p, .over result)
  | none, 0 => (p, .timeout)
  | none, n + 1 => p.interval.await n

/-- Wait for the end of the run, once. -/
def join (p : Pool) : Pool × Ending :=
  if p.joined then (p, .gone) else { p with joined := true }.await joinIntervals

/-- Take the results of the calls that ended, by worker. -/
def takeResults (p : Pool) : Pool × List (Rank × Except Error Returned) :=
  ({ p with results := {} }, p.results.entries)

end Pool

end WorkPool
