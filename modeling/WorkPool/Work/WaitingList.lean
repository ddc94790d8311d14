import WorkPool.Work.Unit

/-!
# Waiting lists: requests that found no work

A request for work that cannot be met is **parked**. For each work type the parked
requests form a line, and a unit that arrives goes to the first in the line of its
type, or to the first of its target's requests if it has a target. A line is dropped
when it runs empty, so the lines are those somebody stands in.
-/

namespace WorkPool

/-- A request for work that waits for a unit. -/
structure Parked where
  /-- who waits -/
  rank : Rank
  /-- the tag that the answer must carry -/
  tag : UInt64
  /-- what is waited for -/
  type : WorkType
  deriving DecidableEq

/-- Whether a unit may go to a request of its type. -/
def Parked.admits (p : Parked) (u : WorkUnit) : Bool :=
  match u.target with
  | some target => p.rank == target
  | none => true

/-- The parked requests of one server. -/
structure WaitingList where
  /-- the lines by type, first in line first -/
  lines : Table WorkType (List Parked) := {}
  /-- how many requests are parked -/
  size : Nat := 0
  deriving DecidableEq

namespace WaitingList

variable (w : WaitingList)

/-- The line of a type. -/
def line (type : WorkType) : List Parked := (w.lines.find? type).getD []

/-- Park a request at the end of its line. -/
def park (p : Parked) : WaitingList :=
  { lines := w.lines.insert p.type (w.line p.type ++ [p]), size := w.size + 1 }

/-- Remove the first member of a line that passes a test. -/
def extract (p : Parked → Bool) : List Parked → Option (Parked × List Parked)
  | [] => none
  | x :: rest =>
    if p x then some (x, rest) else (extract p rest).map fun (y, rest) => (y, x :: rest)

/-- Take the request that a unit goes to. -/
def takeMatch (u : WorkUnit) : Option (Parked × WaitingList) :=
  (extract (·.admits u) (w.line u.type)).map fun (p, rest) =>
    (p, { lines := if rest.isEmpty then w.lines.erase u.type else w.lines.insert u.type rest
          size := w.size - 1 })

/-- Whether a rank has a parked request. -/
def isParked (rank : Rank) : Bool := w.lines.values.any fun line => line.any fun p => p.rank == rank

/-- The types somebody waits for, ascending. -/
def types : List WorkType := w.lines.keys

/-- Whether nobody waits. -/
def isEmpty : Bool := w.size == 0

/-- Take all requests, by rank and then by type. -/
def drain : List Parked × WaitingList :=
  (w.lines.values.flatten.mergeSort fun a b => a.rank ≤ b.rank, {})

end WaitingList

end WorkPool
