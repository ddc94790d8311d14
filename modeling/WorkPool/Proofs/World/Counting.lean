import Mathlib.Algebra.BigOperators.Ring.Finset
import WorkPool.Proofs.Server.Deeds
import WorkPool.Proofs.World.Balance

/-!
# Counting: the balance of all runs

`World.Balance` keeps the count while the master serves. Here it is kept in all runs: after a
shutdown, in runs that are broken off, and whatever those say that are no servers (`Move`).

What a server does to its counts is the same in every step (`Server.step_counts`): it counts
what arrives by where it comes from, and what it sends by where it goes to. So a world in which
every server has sent what it had to send (`Tallied`) stays one (`Tallied.happens`,
`Tallied.moves`), and the difference of the two sums is what is in flight from server to server
(`messages_counted`).
-/

namespace WorkPool

/-- How much of what arrives at a server counts in a vote. -/
def Input.counted (t : Topology) : Input → Nat
  | .message source m => if t.isServer source && m.movesWork then 1 else 0
  | .stealTick | .idleTick => 0

/-- **A step of a server** counts what arrived, and what it adds to the outbox. -/
theorem Server.step_counts {s s' : Server} {input : Input} {flow : Flow}
    (h : s.step input = .ok (s', flow)) :
    s'.topology = s.topology ∧ s'.received = s.received + input.counted s.topology ∧
      s'.sent + countedIn s.topology s.outbox = s.sent + countedIn s.topology s'.outbox := by
  obtain ⟨ins, refused, does⟩ := step_does h
  have steady := does.steady
  cases input with
  | message source m =>
    have sent := steady.sent
    rw [arrived, topology_countArrival, outbox_countArrival, sent_countArrival] at sent
    exact ⟨steady.topology.trans topology_countArrival,
      steady.received.trans received_countArrival, sent⟩
  | stealTick | idleTick => exact ⟨steady.topology, steady.received, steady.sent⟩

namespace World

variable {w w' : World} {settings : Settings}

/-! ## All runs -/

/-- What can happen in a run that need not keep to the rules for workers. -/
inductive Move where
  /-- an action of the world -/
  | act (a : Action)
  /-- someone who is no server says something, such as that the run is to be broken off -/
  | say (source dest : Rank) (m : Message)
  deriving DecidableEq

/-- What a move makes of a world; none if it cannot happen. -/
def move (w : World) : Move → Option World
  | .act a => w.act a
  | .say source dest m =>
    if w.topology.isServer source then none else some (w.send [⟨source, dest, m⟩])

/-- What a list of moves makes of a world. -/
def moves : World → List Move → Option World
  | w, [] => some w
  | w, next :: rest => (w.move next).bind fun w => w.moves rest

/-! ## What every run keeps -/

/-- The servers have sent all they had to send, and their counts are even with what is in
flight. -/
structure Tallied (w : World) : Prop where
  fits : w.topology.Fits
  topology : ∀ r, w.topology.isServer r = true → (w.servers r).topology = w.topology
  outbox : ∀ r, w.topology.isServer r = true → (w.servers r).outbox = []
  balanced : w.Balanced

theorem Start.tallied (h : Start settings w) : w.Tallied where
  fits := h.fits
  topology r server := by
    rw [h.server server, h.topology]
    rfl
  outbox r server := by
    rw [h.server server]
    rfl
  balanced := h.balanced

/-- What is said by someone who is no server is not counted. -/
theorem Tallied.send (h : w.Tallied) {source dest : Rank} {m : Message}
    (outside : w.topology.isServer source = false) : (w.send [⟨source, dest, m⟩]).Tallied where
  fits := h.fits
  topology := h.topology
  outbox := h.outbox
  balanced := by
    refine h.balanced.send fun e he => ?_
    rw [List.mem_singleton.1 he, counts, outside]
    rfl

theorem Tallied.setWorker (h : w.Tallied) (x : Rank) (o : Occupation) :
    (w.setWorker x o).Tallied :=
  ⟨h.fits, h.topology, h.outbox, h.balanced.setWorker x o⟩

/-- **A server takes a step** on what was in flight, or on a tick; the others are what they were. -/
theorem Tallied.served (h : w.Tallied) {r : Rank} (server : w.topology.isServer r = true)
    (input : Input) {rest : List Envelope} {s : Server} {flow : Flow}
    (taken : w.flight.countP (counts w.topology) =
      rest.countP (counts w.topology) + input.counted w.topology)
    (step : (w.servers r).step input = .ok (s, flow)) :
    ({ w with flight := rest }.served r s).Tallied := by
  obtain ⟨topology, received, sent⟩ := Server.step_counts step
  rw [h.topology r server] at topology received sent
  rw [h.outbox r server] at sent
  have each {x : Rank} {P : Server → Prop} (other : P (w.servers x))
      (self : P { s with outbox := [] }) :
      P (({ w with flight := rest }.served r s).servers x) := by
    by_cases hx : x = r
    · subst hx
      rw [servers_served_self]
      exact self
    · rw [servers_served_ne _ s hx]
      exact other
  exact {
    fits := h.fits
    topology x hx := each (P := (·.topology = w.topology)) (h.topology x hx) topology
    outbox x hx := each (P := (·.outbox = [])) (h.outbox x hx) rfl
    balanced := h.balanced.served h.fits server sent received taken }

/-- **Whatever happens**, the counts stay even with what is in flight. -/
theorem Tallied.happens (h : w.Tallied) {a : Action} (happens : Happens w a w') :
    w'.Tallied := by
  cases happens with
  | @deliver source dest m rest s flow server oldest handled =>
    have taken := countP_taken server (oldest?_perm oldest)
    exact h.served server (.message source m) taken handled
  | stealTick server => exact h.served server .stealTick rfl rfl
  | idleTick server considered => exact h.served server .idleTick rfl considered
  | ask may free =>
    exact (h.setWorker _ _).send (Topology.isServer_of_isWorker (Topology.isWorker_of_mayAsk may))
  | @receive source worker m rest is oldest =>
    have uncounted : counts w.topology ⟨source, worker, m⟩ = false := by
      rw [counts, Topology.isServer_of_isWorker is, Bool.and_false]
      rfl
    have taken : ({ w with flight := rest } : World).Tallied :=
      ⟨h.fits, h.topology, h.outbox, h.balanced.take (oldest?_perm oldest) uncounted⟩
    exact taken.setWorker _ _

theorem Tallied.move (h : w.Tallied) {next : Move} (moved : w.move next = some w') :
    w'.Tallied := by
  cases next with
  | act a => exact h.happens (act_happens moved)
  | say source dest m =>
    simp only [World.move] at moved
    split at moved
    · cases moved
    · cases moved
      exact h.send (Bool.eq_false_iff.2 ‹_›)

theorem Tallied.moves (h : w.Tallied) {ms : List Move} (moved : w.moves ms = some w') :
    w'.Tallied := by
  induction ms generalizing w with
  | nil => cases moved; exact h
  | cons next ms ih =>
    obtain ⟨w₁, first, rest⟩ := Option.bind_eq_some_iff.1 moved
    exact ih (h.move first) rest

/-- **Every message that moves work is counted once**: in every run, what the servers together
have sent, less what they have received, is what is in flight from server to server. -/
theorem messages_counted {w₀ : World} (start : Start settings w₀) {ms : List Move}
    (moved : w₀.moves ms = some w) :
    (w.total fun s => (s.sent : Int)) - (w.total fun s => (s.received : Int)) =
      w.flight.countP (counts w.topology) := by
  have tallied := start.tallied.moves moved
  have total_cast (f : Server → Nat) :
      (w.total fun s => (f s : Int)) = ((w.total f : Nat) : Int) := by
    rw [total, total, Nat.cast_list_sum, List.map_map]
    rfl
  have balanced := tallied.balanced
  rw [Balanced] at balanced
  rw [total_cast, total_cast, balanced, Nat.cast_add, add_sub_cancel_left]

/-- Two servers with a worker each. -/
def twoByTwo : Settings := { workers := 2, servers := 2 }

/-- A worker puts work for a worker of another server, and another breaks the run off. -/
def brokenOff : List Move :=
  [.act (.ask 0 2 1 (.put ⟨[9], some 1, 0, 1, 0⟩)), .act (.deliver 0 2), .say 1 3 (.abort 7),
    .act (.deliver 1 3)]

theorem messages_counted_broken_off :
    ∃ w, (initial twoByTwo).moves brokenOff = some w ∧
      (w.total fun s => (s.sent : Int)) - (w.total fun s => (s.received : Int)) =
        w.flight.countP (counts w.topology) ∧
      w.flight.countP (counts w.topology) = 1 := by
  have start : Start twoByTwo (initial twoByTwo) := start_initial rfl rfl
  have ran : ((initial twoByTwo).moves brokenOff).map
      (fun w => w.flight.countP (counts w.topology)) = some 1 := by decide +kernel
  obtain ⟨w, moved, one⟩ := Option.map_eq_some_iff.1 ran
  exact ⟨w, moved, messages_counted start moved, one⟩

end World

end WorkPool
