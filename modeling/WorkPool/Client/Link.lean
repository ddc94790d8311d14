import WorkPool.Client
import WorkPool.Mailboxes

/-!
# Links: a client on its own

A `Link` is everything a single client sees of the run: the frames that wait for it,
oldest first, and the ranks that cannot be reached. A call over a link runs to its end,
because a link without frames is a closed mailbox.

* `Link.run` — a whole call.
* `Session` — a client and its link, until the client leaves the run.
-/

namespace WorkPool

/-- How a rank fails to be reached. -/
inductive Break where
  /-- nothing can be passed on -/
  | down
  /-- what is passed on makes no sense -/
  | confused
  deriving DecidableEq

/-- What a client sees of the run. -/
structure Link where
  /-- the frames that wait, oldest first -/
  inbox : List (Except Error Message) := []
  /-- the ranks that cannot be reached -/
  broken : Table Rank Break := {}
  /-- what was sent, oldest first -/
  sent : List (Rank × Message) := []

namespace Link

variable (l : Link)

/-- Send a message. -/
def send (dest : Rank) (m : Message) : Except Error Link :=
  match l.broken.find? dest with
  | some .down => .error (.transport s!"link {dest} down")
  | some .confused => .error (.protocol s!"link {dest} confused")
  | none => .ok { l with sent := l.sent ++ [(dest, m)] }

/-- Send a message to all ranks that can be reached. -/
def broadcast (dest : List Rank) (m : Message) : Link :=
  dest.foldl (fun l r => (l.send r m).toOption.getD l) l

/-- Take frames until the call of an exchange is over. Each frame is looked at once, so that the
frames bound the number of exchanges. -/
def await : Link → Client → Exchange → List (Except Error Message) →
    Except Fault (Link × Client × Except Error Returned)
  | l, c, x, [] => return ({ l with inbox := [] }, c, x.failed .mailboxClosed)
  | l, c, x, f :: rest => do
    match x.settle f with
    | none => l.await c x rest
    | some result =>
      match x.conclude result with
      | .inl r => return ({ l with inbox := rest }, c, r)
      | .inr payloads =>
        let (c, x) ← c.exchange x.call x.dest x.body payloads
        match l.send x.dest x.message with
        | .ok l => l.await c x rest
        | .error e =>
          return ({ l with inbox := rest }, c, x.failed (← c.sendFailure x.dest e))

/-- A whole call. -/
def run (c : Client) (call : Call) : Except Fault (Link × Client × Except Error Returned) := do
  let (c, opening) ← c.opening call
  match opening with
  | .returns result => return (l, c, result)
  | .meets => return (l, c, .ok (.reply .ack))
  | .breaksOff code =>
    return (l.broadcast (← c.otherRanks) (.abort code), c, .error (.aborted code))
  | .asks dest body =>
    let (c, x) ← c.exchange call dest body []
    match l.send dest x.message with
    | .ok l => l.await c x l.inbox
    | .error e => return (l, c, x.failed (← c.sendFailure dest e))

end Link

/-- A client and what it sees of the run. -/
structure Session where
  /-- the client, until it leaves the run -/
  client : Option Client
  /-- what it sees of the run -/
  link : Link := {}

namespace Session

/-- The session of a rank at the start of a run, whose size has to fit a word and whose workers
have to fit a list. -/
def new (rank : Rank) (settings : Settings) : Except Fault Session := do
  let _ ← settings.topology.checkedSize
  let _ ← settings.topology.checkedWorkerRanks
  return { client := some (.new rank settings) }

/-- Frames arrive, and the ranks that cannot be reached are now the given ones. -/
def prepare (s : Session) (arrived : List (Except Error Message)) (broken : Table Rank Break) :
    Session :=
  { s with link := { inbox := s.link.inbox ++ arrived, broken } }

/-- A call, if the client has not left the run. -/
def call (s : Session) (call : Call) : Except Fault (Session × Option (Except Error Returned)) := do
  match s.client with
  | none => return (s, none)
  | some c =>
    let (link, c, result) ← s.link.run c call
    return ({ client := if call = .finalize then none else some c, link }, some result)

end Session

end WorkPool
