import WorkPool.Error
import WorkPool.Fault

/-!
# Memory budgets

A budget counts the bytes of datum content that a shard holds, refuses growth past
its limit, and remembers the largest count and the number of refusals. It also notes
what it could not give back, because it was not in use.
-/

namespace WorkPool

/-- The bytes in use against a limit. -/
structure MemoryBudget where
  /-- the bytes that may be in use -/
  limit : Nat
  /-- the bytes in use -/
  used : Nat := 0
  /-- the most bytes that were ever in use -/
  peak : Nat := 0
  /-- how often growth was refused, bounded like the counts of a server (`Server.counters_fit`) -/
  violations : Nat := 0
  /-- how many bytes were given back that were not in use -/
  overdrawn : Nat := 0
  deriving DecidableEq

namespace MemoryBudget

/-- Use `bytes` more. -/
def allocate (b : MemoryBudget) (bytes : Nat) :
    Except Fault (MemoryBudget × Except Error Unit) := do
  let total ← Checked.addSize b.used bytes
  if b.limit < total then
    return ({ b with violations := b.violations + 1 }, .error (.resource "memory" total b.limit))
  return ({ b with used := total, peak := max b.peak total }, .ok ())

/-- Use `bytes` fewer; the count stops at zero, and what is missing is noted. -/
def release (b : MemoryBudget) (bytes : Nat) : MemoryBudget :=
  { b with used := b.used - bytes, overdrawn := b.overdrawn + (bytes - b.used) }

/-- Replace a use of `old` bytes by one of `new`. -/
def resize (b : MemoryBudget) (old new : Nat) :
    Except Fault (MemoryBudget × Except Error Unit) :=
  if old < new then b.allocate (new - old) else .ok (b.release (old - new), .ok ())

end MemoryBudget

end WorkPool
