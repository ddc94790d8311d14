import Mathlib.Algebra.BigOperators.Group.Multiset.Basic
import Mathlib.Tactic.Abel
import WorkPool.Proofs.World.Calm

/-!
# Balance: what the servers count together

A message that moves work is counted where it is sent and where it is received. So the servers
together have sent as many counted messages as they have received and as are still in flight
from server to server (`Balanced`). If they have received as many as they have sent, none is in
flight (`Balanced.at_rest`).

`total` sums something over all servers, and `total_setServer` is what replacing one of them
does to the sum.
-/

namespace WorkPool

namespace World

variable {w w' : World} {settings : Settings}

section Total

variable {M : Type} [AddCommMonoid M]

/-- The sum of something over all servers. -/
def total (w : World) (f : Server → M) : M :=
  (w.topology.serverRanks.map fun r => f (w.servers r)).sum

/-- Replacing one server changes the sum by what it has of the old and the new one. -/
theorem total_setServer (fits : w.topology.Fits) {r : Rank}
    (server : w.topology.isServer r = true) (s : Server) (f : Server → M) :
    (w.setServer r s).total f + f (w.servers r) = w.total f + f s := by
  have mem : r ∈ w.topology.serverRanks := (Topology.mem_serverRanks fits).2 server
  have once := Topology.nodup_serverRanks fits
  have others : (w.topology.serverRanks.erase r).map (fun y => f ((w.setServer r s).servers y)) =
      (w.topology.serverRanks.erase r).map fun y => f (w.servers y) := by
    refine List.map_congr_left fun y hy => ?_
    rw [servers_setServer_ne w s (once.mem_erase_iff.1 hy).1]
  have after := List.sum_map_erase (fun y => f ((w.setServer r s).servers y)) mem
  have before := List.sum_map_erase (fun y => f (w.servers y)) mem
  rw [others, servers_setServer_self] at after
  rw [total, total, show (w.setServer r s).topology = w.topology from rfl, ← after, ← before]
  abel

end Total

/-- Whether a message in flight counts in a vote. -/
def counts (t : Topology) (e : Envelope) : Bool :=
  t.isServer e.source && t.isServer e.dest && e.message.movesWork

/-- What was sent was received or is in flight. -/
def Balanced (w : World) : Prop :=
  w.total Server.sent = w.total Server.received + w.flight.countP (counts w.topology)

theorem Start.balanced (h : Start settings w) : w.Balanced := by
  have none (f : Server → Nat) (hf : ∀ r, w.topology.isServer r = true → f (w.servers r) = 0) :
      w.total f = 0 := by
    refine List.sum_eq_zero fun n hn => ?_
    obtain ⟨r, hr, rfl⟩ := List.mem_map.1 hn
    exact hf r ((Topology.mem_serverRanks h.fits).1 hr)
  rw [Balanced, h.flight, none, none]
  · rfl
  · intro r server
    rw [h.server server]
    rfl
  · intro r server
    rw [h.server server]
    rfl

/-! ## What is not counted -/

/-- A message that is not counted is taken out of flight. -/
theorem Balanced.take (h : w.Balanced) {e : Envelope} {rest : List Envelope}
    (taken : w.flight.Perm (e :: rest)) (uncounted : counts w.topology e = false) :
    ({ w with flight := rest } : World).Balanced := by
  rw [Balanced, taken.countP_eq, List.countP_cons_of_neg (by simp [uncounted])] at h
  exact h

theorem Balanced.setWorker (h : w.Balanced) (x : Rank) (o : Occupation) :
    (w.setWorker x o).Balanced := h

/-- Messages that are not counted are sent. -/
theorem Balanced.send (h : w.Balanced) {new : List Envelope}
    (uncounted : ∀ e ∈ new, counts w.topology e = false) : (w.send new).Balanced := by
  have none : new.countP (counts w.topology) = 0 :=
    List.countP_eq_zero.2 fun e he => by simp [uncounted e he]
  have flight : (w.flight ++ new).countP (counts w.topology) =
      w.flight.countP (counts w.topology) := by
    rw [List.countP_append, none, Nat.add_zero]
  exact h.trans (congrArg (w.total Server.received + ·) flight.symm)

/-- A server is replaced by one that has counted the same. -/
theorem Balanced.setServer (h : w.Balanced) (hw : w.InService settings) {r : Rank}
    (server : w.topology.isServer r = true) {s : Server} (sent : s.sent = (w.servers r).sent)
    (received : s.received = (w.servers r).received) : (w.setServer r s).Balanced := by
  have sent' := total_setServer hw.proper.fits server s Server.sent
  have received' := total_setServer hw.proper.fits server s Server.received
  rw [sent, Nat.add_right_cancel_iff] at sent'
  rw [received, Nat.add_right_cancel_iff] at received'
  rw [Balanced, sent', received']
  exact h

/-! ## What is counted -/

/-- What a server sends is counted as it counts it. -/
theorem countP_post (t : Topology) {r : Rank} (server : t.isServer r = true)
    (out : List (Rank × Message)) : (post r out).countP (counts t) = countedIn t out := by
  rw [post, List.countP_map]
  refine List.countP_congr fun p _ => ?_
  simp [counts, server]

/-- **A server takes a step**: it counts what it takes out of flight, and what it sends. -/
theorem Balanced.served (h : w.Balanced) (fits : w.topology.Fits) {r : Rank}
    (server : w.topology.isServer r = true) {s : Server} {rest : List Envelope} {n : Nat}
    (sent : s.sent = (w.servers r).sent + countedIn w.topology s.outbox)
    (received : s.received = (w.servers r).received + n)
    (taken : w.flight.countP (counts w.topology) = rest.countP (counts w.topology) + n) :
    ({ w with flight := rest }.served r s).Balanced := by
  have sent' := total_setServer fits server { s with outbox := [] } Server.sent
  have received' := total_setServer fits server { s with outbox := [] } Server.received
  simp only at sent' received'
  show (w.setServer r { s with outbox := [] }).total Server.sent =
    (w.setServer r { s with outbox := [] }).total Server.received +
      (rest ++ post r s.outbox).countP (counts w.topology)
  rw [List.countP_append, countP_post w.topology server]
  rw [Balanced] at h
  omega

/-- What the arrival of a message at a server takes out of flight. -/
theorem countP_taken {source dest : Rank} {m : Message} {flight rest : List Envelope}
    {t : Topology} (server : t.isServer dest = true)
    (taken : flight.Perm (⟨source, dest, m⟩ :: rest)) :
    flight.countP (counts t) =
      rest.countP (counts t) + if t.isServer source && m.movesWork then 1 else 0 := by
  rw [taken.countP_eq, List.countP_cons]
  simp [counts, server]

/-- **A server handles a message**: it counts it, and what it sends. -/
theorem Balanced.handle (h : w.Balanced) (hw : w.InService settings) {source dest : Rank}
    {m : Message} {rest : List Envelope} {s : Server}
    (server : w.topology.isServer dest = true)
    (taken : w.flight.Perm (⟨source, dest, m⟩ :: rest))
    (handled : ((w.servers dest).countArrival source m).Handled source m s) :
    ({ w with flight := rest }.served dest s).Balanced := by
  have inService := hw.servers dest server
  refine h.served hw.proper.fits server ?_ ?_ (countP_taken server taken)
  · have sent := handled.sent
    rwa [Server.topology_countArrival, Server.outbox_countArrival, Server.sent_countArrival,
      inService.topology, inService.outbox] at sent
  · rw [handled.received, Server.received_countArrival, inService.topology]

/-- **What was sent was received or is in flight**, while the master serves. -/
theorem Calm.balanced (h : Calm w w') (hw : w.InService settings) (hb : w.Balanced) :
    w'.Balanced := by
  have master := hw.proper.isServer_master
  cases h with
  | handle server taken kind handled fits still => exact hb.handle hw server taken handled
  | report server taken recorded =>
    exact (hb.take taken (by simp [counts, Message.movesWork])).setServer (hw.take taken) server
      rfl rfl
  | @stealTick r server =>
    obtain ⟨peers, out, eq, kinds⟩ := Server.trySteal_eq (w.servers r)
    have outbox := (hw.servers r server).outbox
    rw [served, eq]
    refine (hb.setServer (s := { w.servers r with peers, outbox := [] }) hw server rfl rfl).send
      fun e he => ?_
    rw [outbox] at he
    obtain ⟨wanted, load, kind⟩ := kinds _ (mem_post he).2
    rw [counts, show e.message = .stealRequest wanted load from kind]
    exact Bool.and_false _
  | @openRound votes round stats voting idle opened =>
    refine (hb.setServer (s := { w.servers w.topology.master with votes, stats, outbox := [] })
      hw master rfl rfl).send fun e he => ?_
    obtain ⟨r, -, eq⟩ := List.mem_map.1 (mem_post he).2
    rw [counts, show e.message = .idleQuery round from (congrArg Prod.snd eq).symm]
    exact Bool.and_false _
  | soleRound idle opened concluded => exact hb.setServer hw master rfl rfl
  | rest => exact hb
  | @ask worker dest tag body may free =>
    have notServer := Topology.isServer_of_isWorker (Topology.isWorker_of_mayAsk may)
    refine (hb.setWorker _ _).send fun e he => ?_
    rw [List.mem_singleton.1 he, counts, show (w.setWorker _ _).topology = w.topology from rfl,
      notServer]
    rfl
  | @receive source worker m rest is taken =>
    refine (hb.take taken ?_).setWorker _ _
    rw [counts, Topology.isServer_of_isWorker is, Bool.and_false]
    rfl

/-- **If as much was received as was sent**, nothing that counts is in flight. -/
theorem Balanced.at_rest (h : w.Balanced)
    (even : w.total Server.sent = w.total Server.received) :
    ∀ e ∈ w.flight, counts w.topology e = false := by
  rw [Balanced, even] at h
  intro e he
  simpa using List.countP_eq_zero.1 (Nat.left_eq_add.1 h) e he

end World

end WorkPool
