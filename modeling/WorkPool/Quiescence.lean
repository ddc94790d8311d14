import WorkPool.Fault
import WorkPool.Message

/-!
# Quiescence: voting on the end of a run

The master collects one report per server in a **round**. A round is *quiet* if every
server is idle and the servers together have received as many counted messages as
they have sent. The run is over after two quiet rounds in a row with the same
reports: whatever happens between them would change some count.
-/

namespace WorkPool

/-- The result of a round. -/
inductive Verdict where
  /-- the run is over -/
  | terminate
  /-- the run goes on -/
  | goOn
  deriving DecidableEq

/-- A round that is not yet complete. -/
structure Ballot where
  /-- the number of the round -/
  number : UInt64
  /-- the reports so far -/
  reports : Table Rank IdleReport
  deriving DecidableEq

/-- The votes as the master keeps them. -/
structure Quiescence where
  /-- how many reports make a round complete -/
  servers : UInt64
  /-- the number of the next round -/
  nextRound : UInt64 := 1
  /-- the round that is open -/
  current : Option Ballot := none
  /-- the reports of the last round, if it was quiet -/
  previous : Option (List IdleReport) := none
  deriving DecidableEq

namespace Quiescence

variable (q : Quiescence)

/-- Whether a round is open. -/
def isVoting : Bool := q.current.isSome

/-- How many rounds were opened. -/
def rounds : Nat := q.nextRound.toNat - 1

/-- Open a round with the master's own report. -/
def openRound (own : Rank) (report : IdleReport) : Except Fault (Quiescence × UInt64) := do
  let nextRound ← Checked.add q.nextRound 1
  let ballot : Ballot := ⟨q.nextRound, Table.empty.insert own report⟩
  return ({ q with nextRound, current := some ballot }, q.nextRound)

/-- Whether the reports of a round show nothing to do and nothing on its way. -/
def isQuiet (reports : List IdleReport) : Except Fault Bool := do
  let sent ← Checked.sum (reports.map (·.sent))
  let received ← Checked.sum (reports.map (·.received))
  return reports.all (·.idle) && sent == received

/-- Conclude the open round if all servers have reported. -/
def conclude : Except Fault (Quiescence × Option Verdict) :=
  match q.current with
  | none => return (q, none)
  | some ballot =>
    if ballot.reports.size < q.servers.toNat then return (q, none)
    else do
      let reports := ballot.reports.values
      let q := { q with current := none }
      if ← isQuiet reports then
        if q.previous = some reports then return (q, some .terminate)
        else return ({ q with previous := some reports }, some .goOn)
      else return ({ q with previous := none }, some .goOn)

/-- Take up a report; one for a round that is not open is ignored. -/
def record (reporter : Rank) (round : UInt64) (report : IdleReport) :
    Except Fault (Quiescence × Option Verdict) :=
  match q.current with
  | none => return (q, none)
  | some ballot =>
    if ballot.number ≠ round then return (q, none)
    else
      conclude { q with
        current := some { ballot with reports := ballot.reports.insert reporter report } }

end Quiescence

end WorkPool
