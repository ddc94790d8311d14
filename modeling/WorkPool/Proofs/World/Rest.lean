import WorkPool.Proofs.World.Balance
import WorkPool.Proofs.World.Workers

/-!
# Rest: a world with nothing left to do

A world is **idle** if no server has anything to do and the servers together have received as
much as they have sent. These are facts about the servers alone, but nothing is left to do
anywhere then (`Idle.atRest`): no unit is queued or on its way, nobody asks for anything, and
every worker is parked or has left. So nothing that happens in an idle world changes what a
server would report in a vote (`Calm.idleReport_eq`).
-/

namespace WorkPool

namespace World

variable {w w' : World} {settings : Settings}

/-- What is counted, and what is known of the workers. -/
structure Accounted (w : World) : Prop where
  balanced : w.Balanced
  attended : ∀ x, w.topology.isWorker x = true → w.Attended x

theorem Start.accounted (h : Start settings w) (proper : w.topology.Proper) : w.Accounted :=
  ⟨h.balanced, fun _ hx => h.attended proper hx⟩

theorem Calm.accounted (h : Calm w w') (hw : w.InService settings) (ha : w.Accounted) :
    w'.Accounted := by
  refine ⟨h.balanced hw ha.balanced, fun x hx => ?_⟩
  rw [h.topology] at hx
  exact h.attended hw hx (ha.attended x hx)

/-- No server has anything to do, and as much was received as was sent. -/
structure Idle (w : World) : Prop where
  idle : ∀ r, w.topology.isServer r = true → (w.servers r).isIdle = true
  even : w.total Server.sent = w.total Server.received

/-- Nothing is left to do anywhere. -/
structure AtRest (settings : Settings) (w : World) : Prop where
  /-- no unit is queued -/
  units : ∀ r, w.topology.isServer r = true → (w.servers r).backlog.units = []
  /-- no request is in flight -/
  requests : ∀ e ∈ w.flight, e.message.isRequest = false
  /-- no unit is on its way from server to server -/
  carried : ∀ e ∈ w.flight, e.message.carried = []
  /-- or to a worker -/
  work : ∀ e ∈ w.flight, e.message.work? = none
  /-- no server answers a server -/
  responses : ∀ e ∈ w.flight, w.topology.isServer e.source = true →
    w.topology.isServer e.dest = true → e.message.isResponse = false
  /-- every worker is parked at its home, or has left it -/
  workers : ∀ x, w.topology.isWorker x = true →
    (w.home x).workers.find? x = some .parked ∨ (w.home x).workers.find? x = some .finalized
  /-- no datum is open and no wait is pending, where that matters -/
  data : settings.quiescenceRequiresClosedData = true → ∀ r, w.topology.isServer r = true →
    (∀ id d, (w.servers r).shard.data.find? id = some d → d.closed = true) ∧
      (w.servers r).shard.pending = []

/-! ## What an idle world is like -/

section Idle

variable (hw : w.InService settings) (ha : w.Accounted) (h : w.Idle)

include hw ha h

theorem Idle.worker_at_rest {x : Rank} (hx : w.topology.isWorker x = true) :
    ((w.home x).workers.find? x = some .parked ∨ (w.home x).workers.find? x = some .finalized) ∧
      w.workers x ≠ .free ∧ asking w.flight x = 0 ∧
      ∀ e ∈ w.flight, e.dest = x → e.message.work? = none :=
  (ha.attended x hx).at_rest hw
    (h.idle _ (Topology.isServer_homeServer hw.proper.fits hw.proper.served x))

/-- Nobody asks for anything. -/
theorem Idle.isRequest_eq_false {e : Envelope} (he : e ∈ w.flight) :
    e.message.isRequest = false := by
  rcases hw.routed e he with ⟨tag, body, request, may⟩ | ⟨source, dest⟩
  · have asks := (h.worker_at_rest hw ha (Topology.isWorker_of_mayAsk may)).2.2.1
    have some := asking_pos he rfl (by rw [request]; rfl)
    omega
  · cases kind : e.message with
    | request tag body =>
      have uncounted := ha.balanced.at_rest h.even e he
      rw [kind] at dest
      rw [counts, source, dest, kind] at uncounted
      cases uncounted
    | _ => rfl

/-- Nothing that counts is on its way to a server. -/
theorem Idle.movesWork_eq_false {e : Envelope} (he : e ∈ w.flight)
    (server : w.topology.isServer e.dest = true) : e.message.movesWork = false := by
  have source := (hw.routed e he).isServer_source (h.isRequest_eq_false hw ha he)
  have uncounted := ha.balanced.at_rest h.even e he
  rwa [counts, source, server] at uncounted

/-- **An idle world is at rest.** -/
theorem Idle.atRest : w.AtRest settings where
  units r server :=
    (hw.servers r server).counted.units_eq_nil (Server.isIdle_eq_true (h.idle r server)).2.1
  requests _ he := h.isRequest_eq_false hw ha he
  carried e he := by
    by_cases none : e.message.carried = []
    · exact none
    · have still := h.movesWork_eq_false hw ha he ((hw.routed e he).isServer_dest none)
      rw [Message.movesWork_of_carried none] at still
      cases still
  work e he := by
    cases hu : e.message.work? with
    | none => rfl
    | some u =>
      have response := Message.isResponse_of_work? hu
      have known := (hw.routed e he).contains_dest response
      cases server : w.topology.isServer e.dest with
      | true =>
        have still := h.movesWork_eq_false hw ha he server
        rw [Message.movesWork_of_isResponse response] at still
        cases still
      | false =>
        have worker := Topology.isWorker_of_contains known server
        exact hu.symm.trans ((h.worker_at_rest hw ha worker).2.2.2 e he rfl)
  responses e he source dest := by
    have still := h.movesWork_eq_false hw ha he dest
    cases response : e.message.isResponse with
    | false => rfl
    | true =>
      rw [Message.movesWork_of_isResponse response] at still
      cases still
  workers x hx := (h.worker_at_rest hw ha hx).1
  data required r server := by
    have inService := hw.servers r server
    have none := (Server.isIdle_eq_true (h.idle r server)).2.2.2 (inService.settings ▸ required)
    have closed (id : DatumId) (d : Datum) (hd : (w.servers r).shard.data.find? id = some d) :
        d.closed = true := by
      have mem : d ∈ (w.servers r).shard.data.values :=
        (Table.values_of_find? hd).mem_iff.2 List.mem_cons_self
      simpa using List.countP_eq_zero.1 none d mem
    refine ⟨closed, List.map_eq_nil_iff.2 (List.eq_nil_iff_forall_not_mem.2 fun sub hsub => ?_)⟩
    obtain ⟨d, hd, open', -⟩ := inService.sound.waits sub hsub
    rw [closed _ d hd] at open'
    cases open'

end Idle

/-- **Nothing that happens in an idle world** changes what a server would report. -/
theorem Calm.idleReport_eq (h : Calm w w') (hw : w.InService settings) (ha : w.Accounted)
    (idle : w.Idle) (r : Rank) : (w'.servers r).idleReport = (w.servers r).idleReport := by
  rcases h.server_cases r with ⟨votes, peers, stats, outbox, e⟩ |
    ⟨source, m, s, -, he, server, still, e⟩
  · rw [e]
    rfl
  · rw [e]
    exact still (idle.movesWork_eq_false hw ha he server) (idle.idle r server)

end World

end WorkPool
