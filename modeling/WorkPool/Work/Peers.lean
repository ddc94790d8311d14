import WorkPool.Wire

/-!
# Peers: whom to ask for work

A server without work asks one **peer** at a time. It goes round its peers in
ascending order, but prefers the first one, from where it stands, whose last known
`Load` shows work of a wanted type. While an answer is out, nobody else is asked.
-/

namespace WorkPool

/-- What a server tells about its work. -/
structure Load where
  /-- how many untargeted units of each type are queued -/
  counts : Table WorkType UInt64 := {}
  /-- how many requests are parked -/
  parked : UInt64 := 0
  deriving DecidableEq

instance : Wire Load := Wire.via (fun l => (l.counts, l.parked)) fun p => ⟨p.1, p.2⟩

/-- Whether there is work of one of the types. -/
def Load.hasAny (l : Load) (types : List WorkType) : Bool :=
  types.any fun t => 0 < (l.counts.find? t).getD 0

/-- The other servers as one server sees them. -/
structure Peers where
  /-- the other servers, ascending -/
  ranks : List Rank
  /-- the position from which the next choice starts -/
  cursor : Nat := 0
  /-- what each of them last told -/
  loads : Table Rank Load := {}
  /-- who was asked and has not answered -/
  inFlight : Option Rank := none
  deriving DecidableEq

namespace Peers

/-- The peers of a server among all servers. -/
def new (own : Rank) (servers : List Rank) : Peers where
  ranks := (servers.filter (· != own)).mergeSort fun a b => a ≤ b

variable (p : Peers)

/-- Whether a peer is known to have work of one of the types. -/
def offers (types : List WorkType) (peer : Rank) : Bool :=
  match p.loads.find? peer with
  | some load => load.hasAny types
  | none => false

/-- The peers in the order of preference of the round, from the cursor on. -/
def round : List Rank := p.ranks.drop p.cursor ++ p.ranks.take p.cursor

/-- Choose whom to ask, unless an answer is out or there is nobody. -/
def choose (types : List WorkType) : Option Rank × Peers :=
  if p.inFlight.isSome then (none, p)
  else
    let offset := (p.round.findIdx? (p.offers types)).getD 0
    let index := (p.cursor + offset) % p.ranks.length
    match p.ranks[index]? with
    | none => (none, p)
    | some victim =>
      (some victim,
        { p with cursor := (index + 1) % p.ranks.length, inFlight := some victim })

/-- Note what a peer tells. -/
def record (peer : Rank) (load : Load) : Peers := { p with loads := p.loads.insert peer load }

/-- Note the answer of a peer; others may be asked if it is the one that was awaited. -/
def complete (peer : Rank) (load : Load) : Peers :=
  { p with inFlight := if p.inFlight = some peer then none else p.inFlight }.record peer load

end Peers

end WorkPool
