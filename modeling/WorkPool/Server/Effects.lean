import WorkPool.Server.Dispatch

/-!
# Servers: data

An operation on data may leave effects: notices to subscribers, and members to be
stored into other data. The server carries them out before it answers.

A notice travels as a unit of work, targeted at the subscriber and more urgent than
any other. A member is stored here if this server owns the datum, and otherwise sent
to its owner. Storing a member sets a scalar, so it can end waits but cannot ask for
another member to be stored: carrying out effects takes two rounds of notices.
-/

namespace WorkPool

namespace Server

variable (s : Server)

/-- The unit that carries a notice. -/
def noticeUnit (rank : Rank) (n : Notice) : WorkUnit where
  payload := Wire.encode n
  target := some rank
  answer := s.rank
  type := s.settings.notificationType
  priority := noticePriority

/-- Send a notice on its way. -/
def notify (rank : Rank) (n : Notice) : Server :=
  let s := { s with stats := { s.stats with notificationsSent := s.stats.notificationsSent + 1 } }
  s.accept (s.noticeUnit rank n)

/-- Send notices on their way, in order. -/
def notifyAll (notices : List (Rank × Notice)) : Server :=
  notices.foldl (fun s n => s.notify n.1 n.2) s

/-- Ask the owner of a datum to store a member. -/
def forwardReference (owner : Rank) (target : DatumId) (member : Bytes) : Server :=
  { s with nextTag := s.nextTag + 1 }.send owner
    (.request s.nextTag (.data (.storeBytes target member 1)))

/-- Store a member into another datum, and return the notices that follow from it. -/
def storeReference (target : DatumId) (member : Bytes) :
    Except Fault (Server × List (Rank × Notice)) :=
  let owner := s.topology.owner target
  if owner = s.rank then do
    let o ← s.shard.storeBytes target member 1
    return ({ s with shard := o.shard }, o.effects.notices)
  else return (s.forwardReference owner target member, [])

/-- Store members into other data, in order, and return the notices that follow. -/
def storeReferences : Server → List (DatumId × Bytes) →
    Except Fault (Server × List (Rank × Notice))
  | s, [] => return (s, [])
  | s, (target, member) :: rest => do
    let (s, first) ← s.storeReference target member
    let (s, later) ← s.storeReferences rest
    return (s, first ++ later)

/-- Carry out the effects of an operation. -/
def applyEffects (e : Effects) : Except Fault Server := do
  let (s, more) ← (s.notifyAll e.notices).storeReferences e.references
  return s.notifyAll more

/-- Carry out an operation on data, with its effects, and answer. -/
def onData (source : Rank) (tag : UInt64) (op : Operation) : Except Fault Server := do
  let o ← s.shard.perform source op
  let s ← { s with shard := o.shard }.applyEffects o.effects
  return s.respond source tag o.result

end Server

end WorkPool
