import Mathlib.Algebra.GroupWithZero.Nat
import WorkPool.Proofs.Server.Answers
import WorkPool.Proofs.Server.Courses
import WorkPool.Proofs.Shard.Costs

/-!
# Counters: how high a server can count

A server counts what it does, for the report at its end, and numbers the units that it queues. Its
counters are numbers of any size here, but each of them has a place in one word, and this module
says how long a run has to be before one outgrows it.

The **level** of a server is the sum of its counters, with what its queued units and its waits can
still add: a unit is counted once more when it leaves the backlog, and a wait is paid in advance at
the level of the shard. Nothing that happens to a server raises its level by more than its
**weight**, which is six, and three more for each unit that a message carries (`level_step`). Over
a run the weights add up, so that the counters of a new server stay below the weight of its run
(`counters_le_weight`), and a run that is light enough overflows none of them (`counters_fit`).
-/

namespace WorkPool

/-- What a server has counted for its report, the data apart. -/
def ServerStats.total (stats : ServerStats) : Nat :=
  stats.puts + stats.getsServed + stats.requestsParked + stats.unitsForwarded + stats.stolenIn +
    stats.stolenOut + stats.notificationsSent + stats.subscriptionsInvalidated +
    stats.unitsDiscarded + stats.voteRounds

/-- What can be added to the counters when something happens. -/
def Input.weight : Input → Nat
  | .message _ m => 6 + 3 * m.carried.length
  | .stealTick | .idleTick => 1

namespace Backlog

variable {b b' : Backlog}

/-- A unit that is queued gets a number. -/
theorem nextSeq_push (b : Backlog) (u : WorkUnit) :
    (b.push u).1.nextSeq + (b.push u).1.units.length ≤ b.nextSeq + b.units.length + 2 := by
  by_cases full : b.capacity ≤ b.size
  · rw [(push_refused full).1]
    exact Nat.le_add_right _ _
  · obtain ⟨-, perm, -⟩ := push_granted (u := u) (Nat.lt_of_not_le full)
    have numbered : (b.push u).1.nextSeq = b.nextSeq + 1 := by
      rw [push, if_neg full]
    rw [numbered, perm.length_eq, List.length_cons]
    omega

/-- What goes out takes its number along. -/
theorem nextSeq_popFor {rank : Rank} {type : WorkType} {u : WorkUnit}
    (h : b.popFor rank type = (some u, b')) : b'.nextSeq = b.nextSeq := by
  unfold popFor takeFirst at h
  split at h <;> cases h
  rfl

theorem nextSeq_steal (b : Backlog) (wanted : List WorkType) :
    (b.steal wanted).2.nextSeq = b.nextSeq := by
  induction wanted generalizing b with
  | nil => rfl
  | cons type wanted ih => exact ih (b.stealType type).2

end Backlog

namespace Server

variable {s s' : Server} {source : Rank} {tag : UInt64}

/-- The counters of a server: those of its report, the number of its next arrival, the ids that it
has handed out and the growth that it has refused. -/
def counters (s : Server) : List Nat :=
  let report := s.finish
  [report.puts, report.getsServed, report.requestsParked, report.unitsForwarded, report.stolenIn,
    report.stolenOut, report.notificationsSent, report.subscriptionsInvalidated,
    report.unitsDiscarded, report.voteRounds, report.datums.created, report.datums.closed,
    report.datums.collected, s.backlog.nextSeq, s.shard.ids.issued, s.shard.memory.violations]

/-- What a server has counted, and what its units and its waits can still add to that. -/
def level (s : Server) : Nat :=
  s.stats.total + s.backlog.nextSeq + s.backlog.units.length + s.shard.level

/-- No counter is above the level. -/
theorem counters_le_level (s : Server) : ∀ n ∈ s.counters, n ≤ s.level := by
  intro n hn
  simp only [counters, finish, List.mem_cons, List.not_mem_nil, or_false] at hn
  simp only [level, ServerStats.total, Shard.level]
  omega

/-- A new server has counted nothing. -/
theorem level_new {rank : Rank} {settings : Settings} (h : Server.new rank settings = .ok (.ok s)) :
    s.level = 0 := by
  obtain ⟨isServer, -, h⟩ := bind_eq_ok h
  split at h
  · cases h
    rfl
  · cases h

/-! ## Units -/

/-- What is sent is not counted here. -/
theorem level_send (s : Server) (dest : Rank) (m : Message) : (s.send dest m).level = s.level := rfl

/-- **A unit that is placed** is handed over, or queued. -/
theorem level_place (s : Server) (u : WorkUnit) : (s.place u).1.level ≤ s.level + 2 := by
  unfold place
  split
  · simp only [respond, send, setWorker, level, ServerStats.total]
    omega
  · have queued := Backlog.nextSeq_push s.backlog u
    simp only [level]
    omega

/-- **A unit that is submitted** adds two at most. -/
theorem level_submit (s : Server) (u : WorkUnit) : (s.submit u).1.level ≤ s.level + 2 := by
  unfold submit
  split
  · exact level_place s u
  split
  · simp only [send, level, ServerStats.total]
    omega
  split
  · exact level_place s _
  · exact level_place s u

/-- Units that are accepted one after the other. -/
theorem level_acceptAll (units : List WorkUnit) (s : Server) :
    (units.foldl accept s).level ≤ s.level + 2 * units.length := by
  induction units generalizing s with
  | nil => exact Nat.le_refl _
  | cons u units ih =>
    have first : (s.accept u).level ≤ s.level + 2 := level_submit s u
    have later := ih (s.accept u)
    rw [List.foldl_cons, List.length_cons]
    omega

/-! ## Data -/

/-- **A notice** is counted, and is a unit. -/
theorem level_notify (s : Server) (rank : Rank) (n : Notice) :
    (s.notify rank n).level ≤ s.level + 3 := by
  have counted : ({ s with
      stats := { s.stats with notificationsSent := s.stats.notificationsSent + 1 } } :
      Server).level = s.level + 1 := by
    simp only [level, ServerStats.total]
    omega
  have submitted := level_submit { s with
    stats := { s.stats with notificationsSent := s.stats.notificationsSent + 1 } }
    (s.noticeUnit rank n)
  rw [counted] at submitted
  exact submitted

theorem level_notifyAll (notices : List (Rank × Notice)) (s : Server) :
    (s.notifyAll notices).level ≤ s.level + 3 * notices.length := by
  induction notices generalizing s with
  | nil => exact Nat.le_refl _
  | cons n notices ih =>
    have first := level_notify s n.1 n.2
    have later := ih (s.notify n.1 n.2)
    rw [List.length_cons]
    exact Nat.le_trans later (by omega)

/-- **A member that is stored** adds three with the notices that follow, and nothing here if it is
stored elsewhere. -/
theorem level_storeReference {target : DatumId} {member : Bytes} {notices : List (Rank × Notice)}
    (h : s.storeReference target member = .ok (s', notices)) :
    s'.level + 3 * notices.length ≤ s.level + 3 := by
  unfold storeReference at h
  simp only at h
  split at h
  · obtain ⟨o, stored, h⟩ := bind_eq_ok h
    cases h
    have costs := Shard.storeBytes_costs stored
    simp only [Shard.Costs, Effects.cost] at costs
    simp only [level]
    omega
  · cases h
    exact Nat.le_add_right s.level 3

theorem level_storeReferences {references : List (DatumId × Bytes)}
    {notices : List (Rank × Notice)} (h : s.storeReferences references = .ok (s', notices)) :
    s'.level + 3 * notices.length ≤ s.level + 3 * references.length := by
  induction references generalizing s notices with
  | nil =>
    cases h
    exact Nat.le_refl _
  | cons r references ih =>
    obtain ⟨⟨s₁, first⟩, h₁, h⟩ := bind_eq_ok h
    obtain ⟨⟨s₂, later⟩, h₂, h⟩ := bind_eq_ok h
    cases h
    have here := level_storeReference h₁
    have rest := ih h₂
    rw [List.length_append, List.length_cons]
    omega

/-- **An operation on data** adds six at most. Its notices and the members that are stored have been
paid for by the operation, and the notices that these lead to by the waits that they end. -/
theorem level_onData {op : Operation} (h : s.onData source tag op = .ok s') :
    s'.level ≤ s.level + 6 := by
  obtain ⟨o, performed, h⟩ := bind_eq_ok h
  obtain ⟨s₁, applied, h⟩ := bind_eq_ok h
  cases h
  obtain ⟨⟨s₂, more⟩, stored, applied⟩ := bind_eq_ok applied
  cases applied
  have costs := Shard.perform_costs performed
  have first := level_notifyAll o.effects.notices { s with shard := o.shard }
  have between := level_storeReferences stored
  have later := level_notifyAll more s₂
  have start : ({ s with shard := o.shard } : Server).level + s.shard.level =
      s.level + o.shard.level := by
    simp only [level]
    omega
  simp only [Shard.Costs, Effects.cost] at costs
  rw [respond, level_send]
  omega

/-! ## Requests for and of work -/

/-- Looking for work counts nothing. -/
theorem level_trySteal (s : Server) : s.trySteal.level = s.level := by
  obtain ⟨peers, out, e, -⟩ := trySteal_eq s
  rw [e]
  rfl

/-- **A request for work** is counted when it is met or parked. -/
theorem level_onGet (s : Server) (source : Rank) (tag : UInt64) (type : WorkType) :
    (s.onGet source tag type).level ≤ s.level + 1 := by
  unfold onGet
  split
  · exact Nat.le_succ s.level
  split
  · exact Nat.le_succ s.level
  split
  · rename_i u backlog popped
    have fewer := (Backlog.popFor_some popped).length_eq
    have numbered : backlog.nextSeq = s.backlog.nextSeq := Backlog.nextSeq_popFor popped
    rw [List.length_cons] at fewer
    simp only [respond, send, level, ServerStats.total]
    omega
  · rw [level_trySteal]
    simp only [setWorker, level, ServerStats.total]
    omega

/-- **A put** is counted, and its unit is submitted. -/
theorem level_onPut (s : Server) (source : Rank) (tag : UInt64) (u : WorkUnit) :
    (s.onPut source tag u).level ≤ s.level + 3 := by
  unfold onPut
  split
  · exact Nat.le_add_right s.level 3
  · have counted : ({ s with stats := { s.stats with puts := s.stats.puts + 1 } } : Server).level =
        s.level + 1 := by
      simp only [level, ServerStats.total]
      omega
    have submitted := level_submit { s with stats := { s.stats with puts := s.stats.puts + 1 } } u
    rw [counted] at submitted
    exact submitted

theorem level_onFinalize (s : Server) (source : Rank) (tag : UInt64) :
    (s.onFinalize source tag).level = s.level := by
  unfold onFinalize
  split <;> rfl

/-- **Units that go to a peer** are counted as such, and are not queued any more. -/
theorem level_onStealRequest (s : Server) (source : Rank) (wanted : List WorkType) (load : Load) :
    (s.onStealRequest source wanted load).level ≤ s.level := by
  have shared := (Backlog.steal_perm s.backlog wanted).length_eq
  have numbered := Backlog.nextSeq_steal s.backlog wanted
  rw [List.length_append] at shared
  unfold onStealRequest
  simp only
  split
  · exact Nat.le_refl s.level
  · simp only [send, level, ServerStats.total]
    omega

/-! ## The end of the run -/

/-- Answers to parked requests are not counted. -/
theorem level_refuseAll (parked : List Parked) (s : Server) :
    (parked.foldl (fun s p => s.respond p.rank p.tag (.error .shutdown)) s).level = s.level := by
  induction parked generalizing s with
  | nil => rfl
  | cons p parked ih => exact ih _

/-- **A server that stops** counts what it drops, and that was counted in advance. -/
theorem level_beginShutdown (s : Server) : s.beginShutdown.level ≤ s.level := by
  by_cases already : s.isShuttingDown
  · exact Nat.le_of_eq (congrArg level (if_pos already))
  · have answered := level_refuseAll s.waiting.drain.1
      { s with phase := .shuttingDown, waiting := s.waiting.drain.2 }
    have before : ({ s with phase := .shuttingDown, waiting := s.waiting.drain.2 } : Server).level =
        s.level := rfl
    rw [beginShutdown, if_neg already]
    dsimp only
    generalize s.waiting.drain.1.foldl (fun s p => s.respond p.rank p.tag (.error .shutdown))
      { s with phase := .shuttingDown, waiting := s.waiting.drain.2 } = s₁ at answered ⊢
    have dropped : s₁.backlog.drain.1.length = s₁.backlog.units.length := length_drain s₁.backlog
    have empty : s₁.backlog.drain.2.units.length = 0 := rfl
    have numbered : s₁.backlog.drain.2.nextSeq = s₁.backlog.nextSeq := rfl
    rw [before] at answered
    simp only [level, ServerStats.total, Shard.level, Shard.invalidate, Shard.pendingCount,
      List.length_nil] at answered ⊢
    omega

theorem level_initiateShutdown (s : Server) : s.initiateShutdown.level ≤ s.level := by
  unfold initiateShutdown
  split
  · exact Nat.le_refl _
  · rw [sendAll_eq rfl]
    exact level_beginShutdown _

theorem level_actOn (s : Server) (verdict : Option Verdict) : (s.actOn verdict).level ≤ s.level := by
  unfold actOn
  split
  · exact level_initiateShutdown s
  · exact Nat.le_refl _

/-- **A vote** is counted when it is opened. -/
theorem level_startVote (h : s.startVote = .ok s') : s'.level ≤ s.level + 1 := by
  obtain ⟨⟨votes, round⟩, -, h⟩ := bind_eq_ok h
  have counted (votes : Quiescence) : ({ s with
      votes, stats := { s.stats with voteRounds := s.stats.voteRounds + 1 } } : Server).level =
      s.level + 1 := by
    simp only [level, ServerStats.total]
    omega
  simp only at h
  split at h
  · obtain ⟨⟨votes', verdict⟩, -, h⟩ := bind_eq_ok h
    cases h
    rw [← counted votes']
    exact level_actOn _ verdict
  · cases h
    rw [sendAll_eq rfl, ← counted votes]
    exact Nat.le_refl _

theorem level_onIdleReply {round : UInt64} {report : IdleReport}
    (h : s.onIdleReply source round report = .ok s') : s'.level ≤ s.level := by
  unfold onIdleReply at h
  split at h
  · obtain ⟨⟨votes, verdict⟩, -, h⟩ := bind_eq_ok h
    cases h
    exact level_actOn { s with votes } verdict
  · cases h
    exact Nat.le_refl _

theorem level_onServerShutdown (s : Server) (source : Rank) (tag : UInt64) :
    (s.onServerShutdown source tag).level ≤ s.level := by
  rw [onServerShutdown, respond, level_send]
  split
  · exact level_initiateShutdown s
  · exact Nat.le_refl _

/-! ## Every step -/

/-- **A request** adds six at most. -/
theorem level_onOwnRequest {body : Request} (h : s.onOwnRequest source tag body = .ok s') :
    s'.level ≤ s.level + 6 := by
  cases body with
  | get type =>
    cases h
    exact Nat.le_trans (level_onGet s source tag type) (Nat.add_le_add_left (by decide) _)
  | put u =>
    cases h
    exact Nat.le_trans (level_onPut s source tag u) (Nat.add_le_add_left (by decide) _)
  | finalize =>
    cases h
    rw [level_onFinalize]
    exact Nat.le_add_right _ _
  | serverIdle =>
    cases h
    exact Nat.le_add_right _ _
  | serverShutdown =>
    cases h
    exact Nat.le_add_right_of_le (level_onServerShutdown s source tag)
  | data op => exact level_onData h

theorem level_onRequest {body : Request} (h : s.onRequest source tag body = .ok s') :
    s'.level ≤ s.level + 6 := by
  unfold onRequest at h
  split at h
  · cases h
    split
    · rw [level_onFinalize]
      exact Nat.le_add_right _ _
    · exact Nat.le_add_right _ _
  split at h
  · cases h
    exact Nat.le_add_right _ _
  · obtain ⟨s₁, carriedOut, h⟩ := bind_eq_ok h
    cases h
    obtain ⟨workers, e⟩ := noteBusy_eq s₁ source
    rw [e]
    show s₁.level ≤ s.level + 6
    exact level_onOwnRequest carriedOut

/-- **Every message** adds its weight at most. -/
theorem level_dispatch {m : Message} (h : s.dispatch source m = .ok s') :
    s'.level ≤ s.level + (6 + 3 * m.carried.length) := by
  cases m with
  | request tag body => exact level_onRequest h
  | forwardPut u =>
    cases h
    exact Nat.le_trans (level_submit s u) (Nat.add_le_add_left (Nat.le_add_right 2 7) _)
  | stealRequest wanted load =>
    cases h
    exact Nat.le_add_right_of_le (level_onStealRequest s source wanted load)
  | stealResponse units load =>
    cases h
    have accepted := level_acceptAll units { s with
      peers := s.peers.complete source load
      stats := { s.stats with stolenIn := s.stats.stolenIn + units.length } }
    refine Nat.le_trans accepted ?_
    simp only [level, ServerStats.total, Message.carried]
    omega
  | idleQuery round =>
    cases h
    exact Nat.le_add_right _ _
  | idleReply round report => exact Nat.le_add_right_of_le (level_onIdleReply h)
  | shutdown =>
    cases h
    exact Nat.le_add_right_of_le (level_beginShutdown s)
  | shutdownRequested =>
    cases h
    split
    · exact Nat.le_add_right_of_le (level_initiateShutdown s)
    · exact Nat.le_add_right _ _
  | response | abort =>
    cases h
    exact Nat.le_add_right _ _

/-- **Everything that happens to a server** adds its weight at most. -/
theorem level_step {input : Input} {flow : Flow} (h : s.step input = .ok (s', flow)) :
    s'.level ≤ s.level + input.weight := by
  cases input with
  | message source m =>
    have counted : (s.countArrival source m).level = s.level := by
      rw [countArrival_eq]
      rfl
    rw [← counted]
    exact level_dispatch (handle_eq_ok h).1
  | stealTick =>
    cases h
    exact Nat.le_succ_of_le (Nat.le_of_eq (level_trySteal s))
  | idleTick =>
    change s.onIdleTick = .ok (s', flow) at h
    unfold onIdleTick at h
    split at h
    · obtain ⟨s₁, started, h⟩ := bind_eq_ok h
      cases h
      exact level_startVote started
    · cases h
      exact Nat.le_succ _

/-! ## Every run -/

/-- What a turn can add to the counters; passing the outbox on adds nothing. -/
def Turn.weight : Turn → Nat
  | .step input => input.weight
  | .passOn => 0

/-- **A run** adds the weight of its turns at most. -/
theorem level_serve {t t' : Traffic} {turns : List Turn} (h : s.serve t turns = .ok (s', t')) :
    s'.level ≤ s.level + (turns.map Turn.weight).sum := by
  induction turns generalizing s t with
  | nil =>
    cases h
    exact Nat.le_refl _
  | cons next turns ih =>
    obtain ⟨⟨s₁, t₁⟩, first, h⟩ := bind_eq_ok h
    have turned : s₁.level ≤ s.level + next.weight := by
      cases next with
      | step input =>
        obtain ⟨⟨s₂, flow⟩, stepped, first⟩ := bind_eq_ok first
        cases first
        exact level_step stepped
      | passOn =>
        cases first
        exact Nat.le_refl _
    have later := ih h
    rw [List.map_cons, List.sum_cons]
    omega

/-- **The counters of a server** stay below the weight of its run. -/
theorem counters_le_weight {rank : Rank} {settings : Settings} {t : Traffic} {turns : List Turn}
    (start : Server.new rank settings = .ok (.ok s)) (h : s.serve {} turns = .ok (s', t)) :
    ∀ n ∈ s'.counters, n ≤ (turns.map Turn.weight).sum := by
  have bounded := level_serve h
  rw [level_new start, Nat.zero_add] at bounded
  intro n hn
  exact Nat.le_trans (counters_le_level s' n hn) bounded

/-- **No counter overflows** in a run that is lighter than a word is large: a word holds each of them
as it is. -/
theorem counters_fit {rank : Rank} {settings : Settings} {t : Traffic} {turns : List Turn}
    (start : Server.new rank settings = .ok (.ok s)) (h : s.serve {} turns = .ok (s', t))
    (light : (turns.map Turn.weight).sum < UInt64.size) :
    ∀ n ∈ s'.counters, (UInt64.ofNat n).toNat = n := by
  intro n hn
  have le := counters_le_weight start h n hn
  exact UInt64.toNat_ofNat_of_lt' (Nat.lt_of_le_of_lt le light)

end Server

end WorkPool
