import WorkPool.Shard.Scalar

/-!
# Containers of a shard: members, reservations and waits

A write to an id that no datum has makes a container with one writer and one reader.
If the write is then refused, the container is taken back, as if it had not been made.
-/

namespace WorkPool

namespace Shard

variable (s : Shard)

/-! ## Reading -/

/-- The live container with an id, for the operation `op`. -/
def containerAt (id : DatumId) (op : String) : Except Error Container := do
  (← s.live id).container id op

/-- Whether a datum is live, or a subscript of it present. -/
def has (id : DatumId) (subscript : Option String) : Except Error Bool :=
  match s.data.find? id with
  | none => .ok false
  | some d =>
    match subscript with
    | none => .ok true
    | some sub => do return ((← d.container id "exists").lookup sub).isSome

/-! ## Making containers on demand -/

/-- Make a container unless the id has a datum, and tell whether one was made. -/
def ensureContainer (id : DatumId) : Except Fault (Outcome Bool) :=
  if s.data.contains id then return s.answer false
  else if s.retired.contains id then return s.refuse (.closed id)
  else do return (← s.create (.container id .string)).map fun _ => true

/-- Take a datum back. -/
def discard (id : DatumId) : Except Fault Shard :=
  match s.data.find? id with
  | some d => do
    let created ← Checked.subSize s.counts.created 1
    return { s with
      data := s.data.erase id
      memory := s.memory.release d.footprint
      counts := { s.counts with created } }
  | none => return s

/-- Do something to a container, making it first if need be. -/
def onContainer {α : Type} (id : DatumId) (act : Shard → Except Fault (Outcome α)) :
    Except Fault (Outcome α) := do
  let ready ← s.ensureContainer id
  match ready.result with
  | .error e => return ready.shard.refuse e
  | .ok made =>
    let o ← act ready.shard
    match o.result with
    | .ok _ => return o
    | .error _ =>
      if made then
        let shard ← o.shard.discard id
        return { o with shard }
      else return o

/-! ## Members -/

/-- The datum and the container that a member may be written to. -/
def checkInsert (id : DatumId) (subscript : String) (drops : UInt32) :
    Except Error (Datum × Container) := do
  let d ← s.changeable id
  d.checkWritable id drops
  let c ← d.container id "insert"
  c.checkSubscript subscript
  if ¬ s.allowOverwrite ∧ (c.lookup subscript).isSome then
    throw (.refused "insert" s!"<{id}>[\"{subscript}\"] already present")
  return (d, c)

/-- Write a member into the container of a datum, which is looked up for that, and tell what the
write has done. -/
def putMember (id : DatumId) (subscript : String) (member : Bytes) :
    Except Error (Datum × Inserted × Container) := do
  let d ← s.changeable id
  match d.content with
  | .container c => return (d, ← c.insert subscript member s.allowOverwrite)
  | _ => throw (.internal "container changed kind")

/-- Write a member into a container that is there. The first member of a subscript ends the
waits for it. -/
def insertMember (id : DatumId) (subscript : String) (member : Bytes) (drops : UInt32) :
    Except Fault (Outcome Unit) :=
  match s.checkInsert id subscript drops with
  | .error e => return s.refuse e
  | .ok (d, c) => do
    let key := if c.contains subscript then 0 else subscript.utf8ByteSize
    let others ← Checked.subSize d.footprint (c.memberBytes subscript)
    let footprint := others + (key + member.length)
    s.charge d.footprint footprint fun s =>
      match s.putMember id subscript member with
      | .error e => return s.refuse e
      | .ok (d, how, c) => do
        let (ended, subscriptions) :=
          if how = .replaced then ([], s.subscriptions)
          else s.subscriptions.take (Subscriptions.onSubscript id subscript)
        let d := { d with content := .container c, footprint }
        let o ← { s with data := s.data.insert id d, subscriptions }.giveUp id drops
        return { o with effects := {
          notices := ended.map (·.notice (.inserted member)) ++ o.effects.notices
          references := ended.filterMap fun e => e.reference.map fun target => (target, member) } }

/-- Write a member. -/
def insert (id : DatumId) (subscript : String) (member : Bytes) (drops : UInt32) :
    Except Fault (Outcome Unit) :=
  s.onContainer id fun s => s.insertMember id subscript member drops

/-- The datum and the container in which a subscript may be reserved. -/
def checkReserve (id : DatumId) (subscript : String) : Except Error (Datum × Container) := do
  let d ← s.changeable id
  d.checkWritable id 0
  let c ← d.container id "insert_atomic"
  c.checkSubscript subscript
  return (d, c)

/-- Reserve a subscript of a container that is there. The datum is looked up again when the bytes
are granted. -/
def reserveSubscript (id : DatumId) (subscript : String) : Except Fault (Outcome Bool) :=
  match s.checkReserve id subscript with
  | .error e => return s.refuse e
  | .ok (d, c) =>
    if c.contains subscript then return s.answer false
    else
      let footprint := d.footprint + subscript.utf8ByteSize
      s.charge d.footprint footprint fun s =>
        match s.changeable id with
        | .error e => return s.refuse e
        | .ok d =>
          let content := match d.content with
            | .container c => .container (c.reserve subscript).2
            | content => content
          return { s with data := s.data.insert id { d with content, footprint } }.answer true

/-- Reserve a subscript, and tell whether it was free. -/
def reserve (id : DatumId) (subscript : String) : Except Fault (Outcome Bool) :=
  s.onContainer id fun s => s.reserveSubscript id subscript

/-! ## Waits -/

/-- Wait for a subscript, unless it is present. -/
def awaitSubscript (sub : Subscription) (subscript op : String) : Outcome SubscribeStatus :=
  match (do
    let d ← s.live sub.id
    let c ← d.container sub.id op
    c.checkSubscript subscript
    return (d, c)) with
  | .error e => s.refuse e
  | .ok (d, c) =>
    match c.lookup subscript with
    | some member => s.answer (.satisfied (some member))
    | none =>
      if d.closed then s.refuse (.notFound s!"<{sub.id}>[\"{subscript}\"] in closed container")
      else { s with subscriptions := s.subscriptions ++ [sub] }.answer .pending

/-- Wait for a datum to close, or for a subscript. -/
def subscribe (id : DatumId) (subscript : Option String) (rank : Rank) (token : UInt64) :
    Outcome SubscribeStatus :=
  let sub : Subscription := ⟨id, subscript, rank, token, none⟩
  match subscript with
  | some subscript => s.awaitSubscript sub subscript "subscribe"
  | none =>
    match s.live id with
    | .error e => s.refuse e
    | .ok d =>
      if d.closed then s.answer (.satisfied none)
      else { s with subscriptions := s.subscriptions ++ [sub] }.answer .pending

/-- Wait for a subscript, and copy its member into another datum once it is there. -/
def refer (id : DatumId) (subscript : String) (reference : Option DatumId) (rank : Rank)
    (token : UInt64) : Outcome SubscribeStatus :=
  let o := s.awaitSubscript ⟨id, some subscript, rank, token, reference⟩ subscript
    "container_reference"
  match o.result, reference with
  | .ok (.satisfied (some member)), some target =>
    { o with effects := { references := [(target, member)] } }
  | _, _ => o

end Shard

end WorkPool
