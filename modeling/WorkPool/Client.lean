import WorkPool.Message
import WorkPool.Reply.Text
import WorkPool.Settings

/-!
# Clients: the calls of a worker

A worker asks for things one at a time. A **call** that needs a server becomes an
`Exchange`: a request with a tag of its own, sent to the server whose business it is.
The call is over with the first frame that settles the exchange, which is the response
with its tag, the end of the run by an abort, or bytes that are no message. Everything
else that comes in meanwhile is dropped, so a late answer to one call is never taken
for the answer to another.

* `Client.opening` — what a call does first.
* `Client.exchange` — give a request the next tag.
* `Exchange.settle` — what a frame means for an exchange.
* `Exchange.conclude` — what the call returns, or which exchange it goes on with.

How frames travel is not said here: a client is run over a scripted link or in a pool.
-/

namespace WorkPool

/-! ## Calls -/

/-- What a worker can ask its client for. -/
inductive Call where
  /-- the rank of the worker -/
  | rank
  /-- the server that parks the worker's requests -/
  | home
  /-- the ranks of the run -/
  | topology
  /-- the release -/
  | version
  /-- queue a payload -/
  | put (payload : Bytes) (type : WorkType) (priority : Int32) (target : Option Rank)
  /-- queue a unit as it is -/
  | putUnit (unit : WorkUnit)
  /-- wait for a unit of a type -/
  | get (type : WorkType)
  /-- wait for units of a type, again and again, until that fails -/
  | drain (type : WorkType)
  /-- wait for a notice -/
  | nextNotice
  /-- do something with data; a subscription is given a token by the client -/
  | data (op : Operation)
  /-- read a datum as raw bytes -/
  | retrieveBytes (id : DatumId)
  /-- ask a server whether it has nothing to do -/
  | serverIdle (server : Rank)
  /-- end the run -/
  | serverShutdown
  /-- wait for all workers -/
  | barrier
  /-- break off the run -/
  | abort (code : Int32)
  /-- leave the run -/
  | finalize
  deriving DecidableEq

/-- What a call returns when it succeeds. -/
inductive Returned where
  /-- the content of the answer -/
  | reply (r : Reply)
  | rank (r : Rank)
  | topology (t : Topology)
  | version (v : Version)
  | notice (n : Notice)
  /-- the token a notice will carry, and whether one will follow -/
  | subscription (token : UInt64) (status : SubscribeStatus)
  /-- a datum as raw bytes -/
  | raw (kind : Kind) (bytes : Bytes)
  /-- the payloads of all units, and what ended the wait for more -/
  | drained (payloads : List Bytes) (reason : Error)
  deriving DecidableEq

/-! ## Replies that fit -/

/-- Whether a reply is of the form that a request asks for. -/
def Reply.suits : Reply → Request → Bool
  | .work _, .get _ => true
  | .id _, .data (.create _) | .id _, .data .unique => true
  | .flag _, .data (.has ..) | .flag _, .data (.reserve ..) | .flag _, .data (.lock _)
  | .flag _, .serverIdle => true
  | .kind _, .data (.kindOf _) | .kind _, .data (.subscriptKindOf _) => true
  | .size _, .data (.sizeOf _) => true
  | .value _, .data (.retrieve ..) => true
  | .ranks _, .data (.close _) => true
  | .member _, .data (.lookup ..) => true
  | .records _, .data (.enumerate ..) => true
  | .subscribed _, .data (.subscribe ..) | .subscribed _, .data (.refer ..) => true
  | .ack, .put _ | .ack, .serverShutdown | .ack, .finalize => true
  | .ack, .data (.store ..) | .ack, .data (.storeBytes ..) | .ack, .data (.addWriters ..)
  | .ack, .data (.dropWriters ..) | .ack, .data (.addReaders ..) | .ack, .data (.dropReaders ..)
  | .ack, .data (.insert ..) | .ack, .data (.unlock _) => true
  | _, _ => false

/-- The reply to a request, if it is of the form that the request asks for. -/
def Reply.expect (r : Reply) (body : Request) : Except Error Reply :=
  if r.suits body then .ok r
  else .error (.protocol s!"unexpected reply to {body.name}: {r.text}")

/-! ## Exchanges -/

/-- A request that waits for its answer. -/
structure Exchange where
  /-- the server asked -/
  dest : Rank
  /-- the tag of the request -/
  tag : UInt64
  /-- what is asked for -/
  body : Request
  /-- the call that asks for it -/
  call : Call
  /-- the payloads that earlier exchanges of the call brought -/
  payloads : List Bytes := []
  deriving DecidableEq

namespace Exchange

/-- What is sent to the server. -/
def message (x : Exchange) : Message := .request x.tag x.body

/-- What a frame means for an exchange: its result, or nothing. -/
def settle (x : Exchange) : Except Error Message → Option (Except Error Reply)
  | .error e => some (.error e)
  | .ok (.response tag body) => if tag = x.tag then some body.toResult else none
  | .ok (.abort code) => some (.error (.aborted code))
  | .ok _ => none

/-- What a call makes of the reply to its request. -/
def returned (x : Exchange) (r : Reply) : Except Error Returned :=
  match x.call, x.body, r with
  | .nextNotice, _, .work unit => (Notice.ofBytes unit.payload).map .notice
  | .retrieveBytes _, _, .value v => .ok (.raw v.kind v.toBytes)
  | _, .data (.subscribe _ _ token), .subscribed status => .ok (.subscription token status)
  | _, .data (.refer _ _ _ token), .subscribed status => .ok (.subscription token status)
  | _, _, _ => .ok (.reply r)

/-- What a call returns when its exchange fails. -/
def failed (x : Exchange) (e : Error) : Except Error Returned :=
  match x.call with
  | .drain _ => .ok (.drained x.payloads e)
  | _ => .error e

/-- What a call does once its exchange has a result: it returns, or it asks for more with the
payloads so far. -/
def conclude (x : Exchange) (result : Except Error Reply) :
    Except Error Returned ⊕ List Bytes :=
  match x.call, result >>= (·.expect x.body) with
  | .drain _, .ok (.work unit) => .inr (x.payloads ++ [unit.payload])
  | _, .ok r => .inl (x.returned r)
  | _, .error e => .inl (x.failed e)

end Exchange

/-! ## Clients -/

/-- What a client keeps from call to call. -/
structure Client where
  /-- the rank of the worker -/
  rank : Rank
  /-- the ranks of the run -/
  topology : Topology
  /-- the type that notices travel under -/
  notificationType : WorkType
  /-- the tag of the next request -/
  nextTag : UInt64 := 0
  /-- the token given last -/
  lastToken : UInt64 := 0
  deriving DecidableEq

/-- What a call does first. -/
inductive Opening where
  /-- it returns at once -/
  | returns (result : Except Error Returned)
  /-- it asks a server -/
  | asks (dest : Rank) (body : Request)
  /-- it waits for all workers -/
  | meets
  /-- it breaks off the run -/
  | breaksOff (code : Int32)

namespace Client

/-- The client of a rank at the start of a run. -/
def new (rank : Rank) (settings : Settings) : Client where
  rank := rank
  topology := settings.topology
  notificationType := settings.notificationType

variable (c : Client)

/-! ## Addresses -/

/-- The server that parks the worker's requests. -/
def homeServer : Except Fault Rank := c.topology.checkedHomeServer c.rank

/-- The server that takes a unit with the given target: the target itself, the home of the
target, or the home of the sender. -/
def holder (target : Option Rank) : Except Fault Rank := do
  match target with
  | some r =>
    if ← c.topology.checkedIsServer r then return r
    else if c.topology.isWorker r then c.topology.checkedHomeServer r
    else c.homeServer
  | none => c.homeServer

/-- The server that is asked to carry out an operation: the owner of the datum, or the home server
for an id that is yet to be given. -/
def keeper : Operation → Except Fault Rank
  | .create spec => if spec.id = nullId then c.homeServer else c.topology.checkedOwner spec.id
  | .has id _ => c.topology.checkedOwner id
  | .store id _ _ => c.topology.checkedOwner id
  | .storeBytes id _ _ => c.topology.checkedOwner id
  | .retrieve id _ => c.topology.checkedOwner id
  | .enumerate id _ _ => c.topology.checkedOwner id
  | .addWriters id _ => c.topology.checkedOwner id
  | .dropWriters id _ => c.topology.checkedOwner id
  | .addReaders id _ => c.topology.checkedOwner id
  | .dropReaders id _ => c.topology.checkedOwner id
  | .insert id _ _ _ => c.topology.checkedOwner id
  | .reserve id _ => c.topology.checkedOwner id
  | .lookup id _ => c.topology.checkedOwner id
  | .subscribe id _ _ => c.topology.checkedOwner id
  | .refer id _ _ _ => c.topology.checkedOwner id
  | .close id => c.topology.checkedOwner id
  | .unique => c.homeServer
  | .kindOf id => c.topology.checkedOwner id
  | .subscriptKindOf id => c.topology.checkedOwner id
  | .sizeOf id => c.topology.checkedOwner id
  | .lock id => c.topology.checkedOwner id
  | .unlock id => c.topology.checkedOwner id

/-- All other ranks, ascending. -/
def otherRanks : Except Fault (List Rank) := do
  return (ranksBelow (← c.topology.checkedSize)).filter (· != c.rank)

/-! ## Requests -/

/-- Give a subscription the next token. -/
def stamp : Operation → Except Fault (Client × Operation)
  | .subscribe id subscript _ => do
    let token ← Checked.add c.lastToken 1
    return ({ c with lastToken := token }, .subscribe id subscript token)
  | .refer id subscript reference _ => do
    let token ← Checked.add c.lastToken 1
    return ({ c with lastToken := token }, .refer id subscript reference token)
  | op => return (c, op)

/-- What a call does first. -/
def opening (call : Call) : Except Fault (Client × Opening) := do
  match call with
  | .rank => return (c, .returns (.ok (.rank c.rank)))
  | .home => return (c, .returns (.ok (.rank (← c.homeServer))))
  | .topology => return (c, .returns (.ok (.topology c.topology)))
  | .version => return (c, .returns (.ok (.version WorkPool.version)))
  | .put payload type priority target =>
    return (c, .asks (← c.holder target) (.put ⟨payload, target, c.rank, type, priority⟩))
  | .putUnit unit => return (c, .asks (← c.holder unit.target) (.put unit))
  | .get type | .drain type => return (c, .asks (← c.homeServer) (.get type))
  | .nextNotice => return (c, .asks (← c.homeServer) (.get c.notificationType))
  | .data op =>
    let (c, op) ← c.stamp op
    return (c, .asks (← c.keeper op) (.data op))
  | .retrieveBytes id =>
    return (c, .asks (← c.topology.checkedOwner id) (.data (.retrieve id false)))
  | .serverIdle server =>
    if ← c.topology.checkedIsServer server then return (c, .asks server .serverIdle)
    else return (c, .returns (.error (.refused "server_idle" s!"rank {server} is not a server")))
  | .serverShutdown => return (c, .asks (← c.homeServer) .serverShutdown)
  | .barrier => return (c, .meets)
  | .abort code => return (c, .breaksOff code)
  | .finalize => return (c, .asks (← c.homeServer) .finalize)

/-- Give a request the next tag. -/
def exchange (call : Call) (dest : Rank) (body : Request) (payloads : List Bytes) :
    Except Fault (Client × Exchange) := do
  return ({ c with nextTag := ← Checked.add c.nextTag 1 },
    { dest, tag := c.nextTag, body, call, payloads })

/-- What a call makes of a request that could not be sent: servers leave only when the run ends. -/
def sendFailure (dest : Rank) (e : Error) : Except Fault Error := do
  match e with
  | .transport _ => return if ← c.topology.checkedIsServer dest then .shutdown else e
  | _ => return e

end Client

/-! ## What settles an exchange -/

/-- **Only the own answer.** A response with another tag means nothing to an exchange. -/
theorem Exchange.settle_response_ne (x : Exchange) {tag : UInt64} (h : tag ≠ x.tag)
    (body : Answer) : x.settle (.ok (.response tag body)) = none := by
  simp [Exchange.settle, h]

/-- **Tags ascend.** A new exchange has the next tag of the client, and the client goes on with a
larger one. -/
theorem Client.exchange_tag {c c' : Client} {call : Call} {dest : Rank} {body : Request}
    {payloads : List Bytes} {x : Exchange} (h : c.exchange call dest body payloads = .ok (c', x)) :
    x.tag = c.nextTag ∧ c'.nextTag.toNat = c.nextTag.toNat + 1 := by
  unfold Client.exchange at h
  cases hadd : Checked.add c.nextTag 1 with
  | error fault => simp [hadd, bind, Except.bind] at h
  | ok next =>
    simp only [hadd, bind, Except.bind, pure, Except.pure, Except.ok.injEq, Prod.mk.injEq] at h
    obtain ⟨rfl, rfl⟩ := h
    exact ⟨rfl, Checked.add_eq_ok hadd⟩

end WorkPool
