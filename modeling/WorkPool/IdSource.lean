import WorkPool.Error
import WorkPool.Fault

/-!
# Id sources: fresh ids of one server

Server `index` of `n` servers hands out ids of the residue class of `index` modulo
`n`. The next id is kept ready; handing it out moves on by one **stride**, and an
id that a caller chose itself moves the source past that id.

The id space ends at `limit`. When the next id would not fit a word, the limit is
moved below it, so that every later request for an id is refused.
-/

namespace WorkPool

/-- The ids one server has left. -/
structure IdSource where
  /-- the residue the ids should have -/
  index : DatumId
  /-- the id that would be handed out now -/
  next : DatumId
  /-- the distance from an id to the one after it -/
  stride : DatumId
  /-- the largest id that may be handed out -/
  limit : DatumId
  /-- how many ids were handed out, bounded like the counts of a server (`Server.counters_fit`) -/
  issued : Nat
  deriving DecidableEq

namespace IdSource

/-- The ids of the server with the given index; the null id is passed over. -/
def new (index servers : UInt64) (limit : DatumId) : IdSource where
  index := index.toInt64
  next := if index.toInt64 = nullId then servers.toInt64 else index.toInt64
  stride := servers.toInt64
  limit := limit
  issued := 0

/-- The sum of an id and a distance, kept within the word. -/
def advance (id stride : DatumId) : DatumId :=
  let next := id.toInt + stride.toInt
  if next < Int64.minValue.toInt then Int64.minValue
  else if Int64.maxValue.toInt < next then Int64.maxValue
  else Int64.ofInt next

/-- Hand out an id. -/
def allocate (s : IdSource) : Except Fault (IdSource × Except Error DatumId) := do
  if s.limit < s.next then
    return (s, .error (.resource "datum_ids" (s.issued + 1) s.issued))
  let id := s.next
  let next := advance id s.stride
  let limit ← if next = id then Checked.subSigned id 1 else pure s.limit
  return ({ s with next, limit, issued := s.issued + 1 }, .ok id)

/-- The least id above `id` in the residue class of the source, if it fits a word. -/
def following (s : IdSource) (id : DatumId) : Except Fault (Option DatumId) := do
  let residue ← Checked.residue id s.stride
  let base ← Checked.addSigned (← Checked.subSigned id residue) s.index
  if id < base then return some base
  return (Checked.addSigned base s.stride).toOption

/-- Pass over an id that a caller chose. -/
def reserve (s : IdSource) (id : DatumId) : Except Fault IdSource := do
  if id < s.next then return s
  match ← s.following id with
  | some next => return { s with next }
  | none => return { s with limit := ← Checked.subSigned s.next 1 }

end IdSource

end WorkPool
