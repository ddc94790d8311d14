import WorkPool.Shard.Basic

/-!
# Creating data, and writing and reading scalars
-/

namespace WorkPool

namespace Shard

variable (s : Shard)

/-! ## Creation -/

/-- Take up new content under an id, if its bytes fit the budget. -/
def takeUp (id : DatumId) (content : Content) (spec : Spec) : Except Fault (Outcome DatumId) := do
  let (memory, granted) ← s.memory.allocate content.size
  let s := { s with memory }
  match granted with
  | .error e => return s.refuse e
  | .ok () =>
    let d : Datum := ⟨content, spec.writers, spec.readers, false, content.size⟩
    return { s with
      data := s.data.insert id d
      counts := { s.counts with created := s.counts.created + 1 } }.answer id

/-- Make a datum, under a fresh id if it names none. -/
def create (spec : Spec) : Except Fault (Outcome DatumId) :=
  if spec.writers = 0 then
    return s.refuse (.refused "create" "a datum needs at least one writer slot")
  else match Content.ofSpec spec with
  | .error e => return s.refuse e
  | .ok content =>
    if spec.id = nullId then do
      let (ids, fresh) ← s.ids.allocate
      let s := { s with ids }
      match fresh with
      | .error e => return s.refuse e
      | .ok id => s.takeUp id content spec
    else if s.data.contains spec.id then
      return s.refuse (.refused "create" s!"datum <{spec.id}> already exists")
    else if s.retired.contains spec.id then
      return s.refuse (.refused "create" s!"datum <{spec.id}> was already used and collected")
    else do
      let ids ← s.ids.reserve spec.id
      { s with ids }.takeUp spec.id content spec

/-- Hand out a fresh id. -/
def unique : Except Fault (Outcome DatumId) := do
  let (ids, fresh) ← s.ids.allocate
  return { s with ids }.inspect fresh

/-! ## Scalars -/

/-- The datum that a value may be stored into. -/
def checkStore (id : DatumId) (value : Value) (drops : UInt32) : Except Error Datum := do
  let d ← s.changeable id
  d.checkWritable id drops
  let kind := d.content.kind
  if kind = .container then throw (.refused "store" s!"<{id}> is a container; use insert")
  if value.kind ≠ kind then
    throw (.refused "store" s!"cannot store {value.kind.name} into {kind.name} datum <{id}>")
  return d

/-- Set a scalar and give up writers. The datum is looked up again when the bytes are granted. -/
def store (id : DatumId) (value : Value) (drops : UInt32) : Except Fault (Outcome Unit) :=
  match s.checkStore id value drops with
  | .error e => return s.refuse e
  | .ok d => s.charge d.footprint value.size fun s =>
    match (do let d ← s.changeable id; return (d, ← d.content.set value)) with
    | .error e => return s.refuse e
    | .ok (d, content) =>
      let d := { d with content, footprint := value.size }
      { s with data := s.data.insert id d }.giveUp id drops

/-- The value that raw bytes stand for in a scalar. -/
def checkBytes (id : DatumId) (bytes : Bytes) : Except Error Value := do
  let d ← s.live id
  if d.content.kind = .container then throw (.refused "store" s!"<{id}> is a container; use insert")
  Value.ofBytes d.content.kind bytes

/-- Set a scalar from its raw bytes and give up writers. -/
def storeBytes (id : DatumId) (bytes : Bytes) (drops : UInt32) : Except Fault (Outcome Unit) :=
  match s.checkBytes id bytes with
  | .error e => return s.refuse e
  | .ok value => s.store id value drops

/-- Read a whole datum; an open container only if that is accepted. -/
def retrieve (id : DatumId) (acceptOpen : Bool) : Except Error Value := do
  let d ← s.live id
  match d.content with
  | .container c =>
    if d.closed then return .container (c.shown false)
    if ¬ acceptOpen then throw (.refused "retrieve" s!"container <{id}> is still open")
    return .container (c.shown (s.openRead = .live))
  | content =>
    match content.scalar? with
    | some v => return v
    | none => throw (.refused "retrieve" s!"<{id}> has no value yet")

/-! ## References -/

/-- Add writers to an open datum. -/
def addWriters (id : DatumId) (count : UInt32) : Except Fault (Outcome Unit) :=
  match s.changeable id with
  | .error e => return s.refuse e
  | .ok d =>
    if d.closed then return s.refuse (.closed id)
    else do
      let writers ← Checked.addCount d.writers count
      return { s with data := s.data.insert id { d with writers } }.answer ()

/-- Give up writers. -/
def dropWriters (id : DatumId) (count : UInt32) : Except Fault (Outcome Unit) :=
  match (do (← s.changeable id).checkWritable id count) with
  | .error e => return s.refuse e
  | .ok () => s.giveUp id count

/-- Add readers. -/
def addReaders (id : DatumId) (count : UInt32) : Except Fault (Outcome Unit) :=
  match s.changeable id with
  | .error e => return s.refuse e
  | .ok d => do
    let readers ← Checked.addCount d.readers count
    return { s with data := s.data.insert id { d with readers } }.answer ()

/-- Give up readers; a closed datum without any is collected. -/
def dropReaders (id : DatumId) (count : UInt32) : Outcome Unit :=
  match s.changeable id with
  | .error e => s.refuse e
  | .ok d =>
    if d.readers < count then s.refuse (.refcount id "read" d.readers count)
    else
      let s := { s with data := s.data.insert id { d with readers := d.readers - count } }
      (s.collect id).answer ()

/-- Close an open datum, and tell who was waiting for it. -/
def close (id : DatumId) : Outcome (List Rank) :=
  match s.changeable id with
  | .error e => s.refuse e
  | .ok d =>
    if d.closed then s.refuse (.closed id)
    else
      let (s, notices) := s.closeDatum id { d with writers := 0 }
      ⟨s, .ok (Table.distinct (notices.map (·.1))), { notices }⟩

/-! ## Locks -/

/-- Take the lock of a datum if it is free. -/
def lock (id : DatumId) (rank : Rank) : Outcome Bool :=
  match s.live id with
  | .error e => s.refuse e
  | .ok _ =>
    if s.locks.contains id then s.answer false
    else { s with locks := s.locks.insert id rank }.answer true

/-- Give the lock of a datum back. -/
def unlock (id : DatumId) (rank : Rank) : Outcome Unit :=
  match s.live id with
  | .error e => s.refuse e
  | .ok _ =>
    match s.locks.find? id with
    | some holder =>
      if holder = rank then { s with locks := s.locks.erase id }.answer ()
      else s.refuse (.refused "unlock" s!"<{id}> is locked by rank {holder}, not {rank}")
    | none => s.refuse (.refused "unlock" s!"<{id}> is not locked")

end Shard

end WorkPool
