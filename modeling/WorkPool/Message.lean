import WorkPool.Reply
import WorkPool.Shard.Operation
import WorkPool.Work.Peers

/-!
# Messages between ranks

Workers send requests and servers answer them; servers pass units on, steal from one
another, vote on the end of the run, and shut one another down. Any rank may abort
the run.
-/

namespace WorkPool

/-! ## Requests -/

/-- What can be asked of a server. -/
inductive Request where
  /-- queue a unit -/
  | put (unit : WorkUnit)
  /-- hand over a unit of a type, now or later -/
  | get (type : WorkType)
  /-- do something with data -/
  | data (op : Operation)
  /-- tell whether the server has nothing to do -/
  | serverIdle
  /-- end the run -/
  | serverShutdown
  /-- the worker is done -/
  | finalize
  deriving DecidableEq

namespace Request

/-- The name of a request in messages about it. -/
def name : Request → String
  | .put _ => "put"
  | .get _ => "get"
  | .data op => op.name
  | .serverIdle => "server_idle"
  | .serverShutdown => "server_shutdown"
  | .finalize => "finalize"

/-- The datum that a request is about. -/
def subject? : Request → Option DatumId
  | .data op => op.subject?
  | _ => none

/-- The wire form of an operation. -/
def putOperation : Operation → Bytes
  | .create spec => Wire.alternative 2 spec
  | .has id subscript => Wire.alternative 3 (id, subscript)
  | .store id value drops => Wire.alternative 4 (id, value, drops)
  | .storeBytes id bytes drops => Wire.alternative 5 (id, bytes, drops)
  | .retrieve id acceptOpen => Wire.alternative 6 (id, acceptOpen)
  | .enumerate id offset count => Wire.alternative 7 (id, offset, count)
  | .addWriters id count => Wire.alternative 8 (id, count)
  | .dropWriters id count => Wire.alternative 9 (id, count)
  | .addReaders id count => Wire.alternative 10 (id, count)
  | .dropReaders id count => Wire.alternative 11 (id, count)
  | .insert id subscript member drops => Wire.alternative 12 (id, subscript, member, drops)
  | .reserve id subscript => Wire.alternative 13 (id, subscript)
  | .lookup id subscript => Wire.alternative 14 (id, subscript)
  | .subscribe id subscript token => Wire.alternative 15 (id, subscript, token)
  | .refer id subscript reference token => Wire.alternative 16 (id, subscript, reference, token)
  | .close id => Wire.alternative 17 id
  | .unique => Wire.alternative 18 ()
  | .kindOf id => Wire.alternative 19 id
  | .subscriptKindOf id => Wire.alternative 20 id
  | .sizeOf id => Wire.alternative 21 id
  | .lock id => Wire.alternative 22 id
  | .unlock id => Wire.alternative 23 id

/-- Read the content of the request with a given number. -/
def getNumbered (number : UInt32) (b : Bytes) : Option (Request × Bytes) :=
  match number with
  | 0 => Wire.content .put b
  | 1 => Wire.content .get b
  | 2 => Wire.content (fun spec => .data (.create spec)) b
  | 3 => Wire.content (fun (id, subscript) => .data (.has id subscript)) b
  | 4 => Wire.content (fun (id, value, drops) => .data (.store id value drops)) b
  | 5 => Wire.content (fun (id, bytes, drops) => .data (.storeBytes id bytes drops)) b
  | 6 => Wire.content (fun (id, acceptOpen) => .data (.retrieve id acceptOpen)) b
  | 7 => Wire.content (fun (id, offset, count) => .data (.enumerate id offset count)) b
  | 8 => Wire.content (fun (id, count) => .data (.addWriters id count)) b
  | 9 => Wire.content (fun (id, count) => .data (.dropWriters id count)) b
  | 10 => Wire.content (fun (id, count) => .data (.addReaders id count)) b
  | 11 => Wire.content (fun (id, count) => .data (.dropReaders id count)) b
  | 12 => Wire.content (fun (id, subscript, member, drops) =>
      .data (.insert id subscript member drops)) b
  | 13 => Wire.content (fun (id, subscript) => .data (.reserve id subscript)) b
  | 14 => Wire.content (fun (id, subscript) => .data (.lookup id subscript)) b
  | 15 => Wire.content (fun (id, subscript, token) => .data (.subscribe id subscript token)) b
  | 16 => Wire.content (fun (id, subscript, reference, token) =>
      .data (.refer id subscript reference token)) b
  | 17 => Wire.content (fun id => .data (.close id)) b
  | 18 => some (.data .unique, b)
  | 19 => Wire.content (fun id => .data (.kindOf id)) b
  | 20 => Wire.content (fun id => .data (.subscriptKindOf id)) b
  | 21 => Wire.content (fun id => .data (.sizeOf id)) b
  | 22 => Wire.content (fun id => .data (.lock id)) b
  | 23 => Wire.content (fun id => .data (.unlock id)) b
  | 24 => some (.serverIdle, b)
  | 25 => some (.serverShutdown, b)
  | 26 => some (.finalize, b)
  | _ => none

instance : Wire Request where
  put
    | .put unit => Wire.alternative 0 unit
    | .get type => Wire.alternative 1 type
    | .data op => putOperation op
    | .serverIdle => Wire.alternative 24 ()
    | .serverShutdown => Wire.alternative 25 ()
    | .finalize => Wire.alternative 26 ()
  get b := do
    let (number, b) ← Wire.getNumber b
    getNumbered number b

end Request

/-! ## Answers -/

instance : Wire Code where
  put
    | .success => Wire.alternative 0 ()
    | .userError => Wire.alternative 1 ()
    | .notFound => Wire.alternative 2 ()
    | .error => Wire.alternative 3 ()
    | .shutdown => Wire.alternative 4 ()
  get b := do
    let (number, b) ← Wire.getNumber b
    match number with
    | 0 => some (.success, b)
    | 1 => some (.userError, b)
    | 2 => some (.notFound, b)
    | 3 => some (.error, b)
    | 4 => some (.shutdown, b)
    | _ => none

instance : Wire Refusal := Wire.via (fun r => (r.code, r.message)) fun p => ⟨p.1, p.2⟩

/-- What a server answers to a request. -/
inductive Answer where
  /-- the request was carried out -/
  | granted (reply : Reply)
  /-- it was not -/
  | refused (refusal : Refusal)
  deriving DecidableEq

namespace Answer

/-- The answer that tells a result. -/
def ofResult : Except Error Reply → Answer
  | .ok reply => .granted reply
  | .error e => .refused e.refusal

/-- The result as the receiver of an answer sees it. -/
def toResult : Answer → Except Error Reply
  | .granted reply => .ok reply
  | .refused refusal => .error refusal.toError

instance : Wire Answer where
  put
    | .granted reply => Wire.alternative 0 reply
    | .refused refusal => Wire.alternative 1 refusal
  get b := do
    let (number, b) ← Wire.getNumber b
    match number with
    | 0 => Wire.content .granted b
    | 1 => Wire.content .refused b
    | _ => none

end Answer

/-! ## Messages -/

/-- What a server tells in a vote on the end of the run. -/
structure IdleReport where
  /-- whether it has nothing to do -/
  idle : Bool
  /-- how many messages that move work it has handled -/
  activity : UInt64
  /-- how many of those it has sent to servers -/
  sent : UInt64
  /-- how many of those it has received from servers -/
  received : UInt64
  deriving DecidableEq

instance : Wire IdleReport :=
  Wire.via (fun r => (r.idle, r.activity, r.sent, r.received))
    fun (idle, activity, sent, received) => ⟨idle, activity, sent, received⟩

/-- What one rank tells another. -/
inductive Message where
  /-- ask a server for something -/
  | request (tag : UInt64) (body : Request)
  /-- answer the request with the same tag -/
  | response (tag : UInt64) (body : Answer)
  /-- pass a unit on to the server that must hold it -/
  | forwardPut (unit : WorkUnit)
  /-- ask for units of some types -/
  | stealRequest (wanted : List WorkType) (load : Load)
  /-- hand over units, perhaps none -/
  | stealResponse (units : List WorkUnit) (load : Load)
  /-- ask for a report in a round of votes -/
  | idleQuery (round : UInt64)
  /-- report in a round of votes -/
  | idleReply (round : UInt64) (report : IdleReport)
  /-- the run is over -/
  | shutdown
  /-- somebody asks for the end of the run -/
  | shutdownRequested
  /-- a rank breaks off the run -/
  | abort (code : Int32)
  deriving DecidableEq

namespace Message

/-- Whether a message moves work or data, and so counts in a vote. -/
def movesWork : Message → Bool
  | .request .. | .response .. | .forwardPut _ => true
  | .stealResponse units _ => !units.isEmpty
  | _ => false

instance : Wire Message where
  put
    | .request tag body => Wire.alternative 0 (tag, body)
    | .response tag body => Wire.alternative 1 (tag, body)
    | .forwardPut unit => Wire.alternative 2 unit
    | .stealRequest wanted load => Wire.alternative 3 (wanted, load)
    | .stealResponse units load => Wire.alternative 4 (units, load)
    | .idleQuery round => Wire.alternative 5 round
    | .idleReply round report => Wire.alternative 6 (round, report)
    | .shutdown => Wire.alternative 7 ()
    | .shutdownRequested => Wire.alternative 8 ()
    | .abort code => Wire.alternative 9 code
  get b := do
    let (number, b) ← Wire.getNumber b
    match number with
    | 0 => Wire.content (fun (tag, body) => .request tag body) b
    | 1 => Wire.content (fun (tag, body) => .response tag body) b
    | 2 => Wire.content .forwardPut b
    | 3 => Wire.content (fun (wanted, load) => .stealRequest wanted load) b
    | 4 => Wire.content (fun (units, load) => .stealResponse units load) b
    | 5 => Wire.content .idleQuery b
    | 6 => Wire.content (fun (round, report) => .idleReply round report) b
    | 7 => some (.shutdown, b)
    | 8 => some (.shutdownRequested, b)
    | 9 => Wire.content .abort b
    | _ => none

/-- The message at the start of some bytes. -/
def ofBytes (b : Bytes) : Except Error Message :=
  match Wire.decode? b with
  | some m => .ok m
  | none => .error .malformed

end Message

/-- The notice at the start of some bytes. -/
def Notice.ofBytes (b : Bytes) : Except Error Notice :=
  match Wire.decode? b with
  | some n => .ok n
  | none => .error .malformed

end WorkPool
