import WorkPool.Data.Notice
import WorkPool.Work.Unit

/-!
# Replies: what a server answers
-/

namespace WorkPool

/-- The content of a successful answer. -/
inductive Reply where
  /-- done, with nothing to tell -/
  | ack
  | work (unit : WorkUnit)
  | id (id : DatumId)
  | flag (b : Bool)
  | kind (k : Kind)
  | value (v : Value)
  /-- the member at a subscript, if it is present -/
  | member (m : Option Bytes)
  | records (entries : List (String × Bytes))
  | size (n : UInt64)
  | subscribed (status : SubscribeStatus)
  | ranks (ranks : List Rank)
  deriving DecidableEq

instance : Wire Reply where
  put
    | .ack => Wire.alternative 0 ()
    | .work unit => Wire.alternative 1 unit
    | .id id => Wire.alternative 2 id
    | .flag b => Wire.alternative 3 b
    | .kind k => Wire.alternative 4 k
    | .value v => Wire.alternative 5 v
    | .member m => Wire.alternative 6 m
    | .records entries => Wire.alternative 7 entries
    | .size n => Wire.alternative 8 n
    | .subscribed status => Wire.alternative 9 status
    | .ranks ranks => Wire.alternative 10 ranks
  get b := do
    let (number, b) ← Wire.getNumber b
    match number with
    | 0 => some (.ack, b)
    | 1 => Wire.content .work b
    | 2 => Wire.content .id b
    | 3 => Wire.content .flag b
    | 4 => Wire.content .kind b
    | 5 => Wire.content .value b
    | 6 => Wire.content .member b
    | 7 => Wire.content .records b
    | 8 => Wire.content .size b
    | 9 => Wire.content .subscribed b
    | 10 => Wire.content .ranks b
    | _ => none

end WorkPool
