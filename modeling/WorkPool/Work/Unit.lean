import WorkPool.Wire

/-!
# Units of work
-/

namespace WorkPool

/-- A payload to be worked on. -/
structure WorkUnit where
  /-- what to work on -/
  payload : Bytes
  /-- the only rank that may receive the unit, if there is one -/
  target : Option Rank
  /-- the rank that a result should go to -/
  answer : Rank
  /-- the label under which it is queued -/
  type : WorkType
  /-- how urgent it is; higher is more urgent -/
  priority : Int32
  deriving DecidableEq

instance : Wire WorkUnit :=
  Wire.via (fun u => (u.payload, u.target, u.answer, u.type, u.priority))
    fun (payload, target, answer, type, priority) => ⟨payload, target, answer, type, priority⟩

/-- The urgency of notices, which overtake all other work. -/
def noticePriority : Int32 := 2147483647

end WorkPool
