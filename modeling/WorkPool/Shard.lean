import WorkPool.Reply
import WorkPool.Shard.Entries
import WorkPool.Shard.Operation

/-!
# Shards as state machines

`Shard.perform` carries out one operation on behalf of a rank and puts the answer
into the form of a reply. Everything that a shard does, it does in such a step.
-/

namespace WorkPool

namespace Shard

/-- Carry out an operation on behalf of a rank. -/
def perform (s : Shard) (rank : Rank) : Operation → Except Fault (Outcome Reply)
  | .create spec => return (← s.create spec).map .id
  | .has id subscript => return (s.inspect (s.has id subscript)).map .flag
  | .store id value drops => return (← s.store id value drops).map fun _ => .ack
  | .storeBytes id bytes drops => return (← s.storeBytes id bytes drops).map fun _ => .ack
  | .retrieve id acceptOpen => return (s.inspect (s.retrieve id acceptOpen)).map .value
  | .enumerate id offset count =>
    return (s.inspect (s.containerAt id "enumerate")).map fun c =>
      .records (c.page offset.toNat (count.map UInt64.toNat))
  | .addWriters id count => return (← s.addWriters id count).map fun _ => .ack
  | .dropWriters id count => return (← s.dropWriters id count).map fun _ => .ack
  | .addReaders id count => return (← s.addReaders id count).map fun _ => .ack
  | .dropReaders id count => return (s.dropReaders id count).map fun _ => .ack
  | .insert id subscript member drops =>
    return (← s.insert id subscript member drops).map fun _ => .ack
  | .reserve id subscript => return (← s.reserve id subscript).map .flag
  | .lookup id subscript =>
    return (s.inspect (s.containerAt id "lookup")).map fun c => .member (c.lookup subscript)
  | .subscribe id subscript token =>
    return (s.subscribe id subscript rank token).map .subscribed
  | .refer id subscript reference token =>
    return (s.refer id subscript reference rank token).map .subscribed
  | .close id => return (s.close id).map .ranks
  | .unique => return (← s.unique).map .id
  | .kindOf id => return (s.inspect (s.live id)).map fun d => .kind d.content.kind
  | .subscriptKindOf id =>
    return (s.inspect (s.containerAt id "container_typeof")).map fun c => .kind c.subscriptKind
  | .sizeOf id =>
    return (s.inspect (s.containerAt id "container_size")).map fun c =>
      .size (UInt64.ofNat c.size)
  | .lock id => return (s.lock id rank).map .flag
  | .unlock id => return (s.unlock id rank).map fun _ => .ack

end Shard

end WorkPool
