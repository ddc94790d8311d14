import WorkPool.Client
import WorkPool.Server

/-!
# Roles: what a rank turns out to be

Every rank is started in the same way, with the settings of the run and the number of
ranks it finds there. `Role.assign` tells whether it serves or works, and refuses
settings that describe another run.
-/

namespace WorkPool

/-- The server with a rank in a run of so many ranks. -/
def Server.enter (size : UInt64) (rank : Rank) (settings : Settings) :
    Except Fault (Except Error Server) := do
  let expected ← settings.size
  if size ≠ expected then
    return .error (.configuration
      s!"transport has {size} ranks but the configuration describes {expected}" none)
  Server.new rank settings

/-- What a rank is in a run. -/
inductive Role where
  | server (s : Server)
  | worker (c : Client)

/-- The role of a rank in a run of so many ranks. -/
def Role.assign (size : UInt64) (rank : Rank) (settings : Settings) :
    Except Fault (Except Error Role) := do
  match settings.validate with
  | .error e => return .error e
  | .ok () =>
    let expected ← settings.size
    if size ≠ expected then
      return .error (.configuration
        s!"transport has {size} ranks, configuration expects {expected}" none)
    else if ← settings.topology.checkedIsServer rank then
      return (← Server.enter size rank settings).map .server
    else return .ok (.worker (.new rank settings))

end WorkPool
