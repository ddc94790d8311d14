import WorkPool.Proofs.Server.Handles

/-!
# Steps: messages and ticks

A step of a server is a message or a tick. This module reads off what a step did:

* `handle_eq_ok` — a message is counted, then handled, and the counts still fit their words;
* `onIdleTick_cases` — considering a vote does nothing, or opens a round, or ends the run;
* `dispatch_stays` — a server with nothing to do **stays still** until a message moves work;
* `dispatch_still` — and then it tells the same in a vote.
-/

namespace WorkPool

namespace Server

variable {s s' : Server} {source : Rank} {m : Message}

/-! ## Counting -/

/-- The counts of a server fit their words. -/
structure Fits (s : Server) : Prop where
  activity : s.activity < Checked.wordSize
  sent : s.sent < Checked.wordSize
  received : s.received < Checked.wordSize

/-- Counts that fit their words are let through. -/
theorem checkCounts_of_fits (h : s.Fits) : s.checkCounts = .ok s :=
  if_pos ⟨h.activity, h.sent, h.received⟩

/-- Counts that do not fit are a fault. -/
theorem checkCounts_of_not_fits (h : ¬ s.Fits) : s.checkCounts = .error .addOverflow :=
  if_neg fun fits => h ⟨fits.1, fits.2.1, fits.2.2⟩

/-- **A message that is handled** was counted and dispatched, and the counts fit. -/
theorem handle_eq_ok {flow : Flow} (h : s.handle source m = .ok (s', flow)) :
    (s.countArrival source m).dispatch source m = .ok s' ∧ s'.Fits := by
  obtain ⟨s₁, hs₁, h⟩ := bind_eq_ok h
  obtain ⟨s₂, hs₂, h⟩ := bind_eq_ok h
  have same : s₂ = s' := by
    split at h <;> cases h <;> rfl
  subst same
  unfold checkCounts at hs₂
  split at hs₂
  · rename_i fits
    cases hs₂
    exact ⟨hs₁, fits.1, fits.2.1, fits.2.2⟩
  · cases hs₂

/-- A message is counted as it arrives; nothing else changes. -/
theorem countArrival_eq (s : Server) (source : Rank) (m : Message) :
    s.countArrival source m = { s with
      activity := s.activity + if m.movesWork then 1 else 0
      received := s.received + if s.topology.isServer source && m.movesWork then 1 else 0 } := by
  unfold countArrival
  cases m.movesWork with
  | false =>
    simp only [Bool.and_false, Bool.false_eq_true, if_false, Nat.add_zero]
  | true =>
    cases s.topology.isServer source <;> rfl

@[simp] theorem topology_countArrival : (s.countArrival source m).topology = s.topology := by
  rw [countArrival_eq]

@[simp] theorem rank_countArrival : (s.countArrival source m).rank = s.rank := by
  rw [countArrival_eq]

@[simp] theorem backlog_countArrival : (s.countArrival source m).backlog = s.backlog := by
  rw [countArrival_eq]

@[simp] theorem phase_countArrival : (s.countArrival source m).phase = s.phase := by
  rw [countArrival_eq]

theorem isShuttingDown_countArrival :
    (s.countArrival source m).isShuttingDown = s.isShuttingDown := by
  rw [isShuttingDown, phase_countArrival, isShuttingDown]

/-- Who owns a datum does not depend on what was counted. -/
theorem wrongOwner?_countArrival (body : Request) :
    (s.countArrival source m).wrongOwner? body = s.wrongOwner? body := by
  rw [wrongOwner?, topology_countArrival, rank_countArrival, wrongOwner?]

@[simp] theorem votes_countArrival : (s.countArrival source m).votes = s.votes := by
  rw [countArrival_eq]

@[simp] theorem workers_countArrival : (s.countArrival source m).workers = s.workers := by
  rw [countArrival_eq]

@[simp] theorem outbox_countArrival : (s.countArrival source m).outbox = s.outbox := by
  rw [countArrival_eq]

@[simp] theorem sent_countArrival : (s.countArrival source m).sent = s.sent := by
  rw [countArrival_eq]

/-- A message that moves work is counted as received if a server sent it. -/
theorem received_countArrival : (s.countArrival source m).received =
    s.received + if s.topology.isServer source && m.movesWork then 1 else 0 := by
  rw [countArrival_eq]

/-- A message that moves work is counted as activity. -/
theorem activity_countArrival : (s.countArrival source m).activity =
    s.activity + if m.movesWork then 1 else 0 := by
  rw [countArrival_eq]

@[simp] theorem parkedFor_countArrival (x : Rank) :
    (s.countArrival source m).parkedFor x = s.parkedFor x := by
  rw [countArrival_eq]
  rfl

/-- What a server may send does not depend on whether the message was counted. -/
theorem maySend_countArrival {p : Rank × Message}
    (h : (s.countArrival source m).MaySend source m p) : s.MaySend source m p := by
  cases hm : m.movesWork with
  | false => rwa [countArrival, hm] at h
  | true =>
    rw [countArrival_eq] at h
    obtain ⟨dest, sent⟩ := p
    cases sent with
    | idleReply =>
      obtain ⟨-, rfl, -⟩ := h
      cases hm
    | response tag answer =>
      cases answer with
      | refused => exact h
      | granted reply => cases reply <;> exact h
    | _ => exact h

/-- A message that moves no work is not counted. -/
theorem countArrival_still (hm : m.movesWork = false) : s.countArrival source m = s := by
  rw [countArrival, hm]
  rfl

/-! ## Staying still -/

/-- What a server reports is read from a few of its parts. -/
theorem idleReport_congr (phase : s'.phase = s.phase) (settings : s'.settings = s.settings)
    (workers : s'.workers = s.workers) (shard : s'.shard = s.shard)
    (activity : s'.activity = s.activity) (received : s'.received = s.received)
    (sent : s'.sent = s.sent) (backlog : s'.backlog.isEmpty = s.backlog.isEmpty) :
    s'.idleReport = s.idleReport := by
  simp only [idleReport, isIdle, isShuttingDown, phase, settings, workers, shard, activity,
    received, sent, backlog]

/-- **A server with nothing to do** serves, has nothing queued and nobody busy, and no open data if
that matters. -/
theorem isIdle_eq_true (h : s.isIdle = true) :
    s.phase = .running ∧ s.backlog.isEmpty = true ∧ (∀ state ∈ s.workers.values, state ≠ .busy) ∧
      (s.settings.quiescenceRequiresClosedData = true → s.shard.openCount = 0) := by
  simp only [isIdle, isShuttingDown, Bool.and_eq_true, Bool.not_eq_true', beq_eq_false_iff_ne,
    List.all_eq_true, bne_iff_ne, Bool.or_eq_true, beq_iff_eq] at h
  obtain ⟨⟨⟨phase, empty⟩, busy⟩, closed⟩ := h
  refine ⟨?_, empty, busy, fun required => ?_⟩
  · cases hp : s.phase with
    | running => rfl
    | shuttingDown => exact absurd hp phase
  · rcases closed with ignored | closed
    · rw [required] at ignored
      cases ignored
    · exact closed

/-- Nothing is stolen from an empty backlog. -/
theorem steal_of_isEmpty {b : Backlog} (hc : b.Counted) (h : b.isEmpty = true)
    (wanted : List WorkType) : (b.steal wanted).1 = [] ∧ (b.steal wanted).2.isEmpty = true := by
  have perm := Backlog.steal_perm b wanted
  rw [hc.units_eq_nil h] at perm
  obtain ⟨taken, left⟩ := List.append_eq_nil_iff.1 perm.symm.eq_nil
  have counted := hc.steal wanted
  rw [Backlog.Counted, left] at counted
  exact ⟨taken, by rw [Backlog.isEmpty, counted]; rfl⟩

/-- A peer is sent what it wants of the backlog; while the server shuts down, it is as if nothing
was wanted. -/
theorem onStealRequest_eq (s : Server) (source : Rank) (wanted : List WorkType) (load : Load) :
    ∃ wanted' peers stats load', s.onStealRequest source wanted load =
      { s with backlog := (s.backlog.steal wanted').2, peers, stats }.send source
        (.stealResponse (s.backlog.steal wanted').1 load') := by
  have taken : (if s.isShuttingDown then ([], s.backlog) else s.backlog.steal wanted) =
      s.backlog.steal (if s.isShuttingDown then [] else wanted) := by
    split <;> rfl
  refine ⟨if s.isShuttingDown then [] else wanted, ?_⟩
  rw [← taken]
  exact ⟨_, _, _, rfl⟩

/-- A server has **stayed still**: its workers, the requests that wait and its data are as they
were, and so are its counts. At most, a peer has looked for units. -/
structure Still (s s' : Server) : Prop where
  phase : s'.phase = s.phase
  settings : s'.settings = s.settings
  workers : s'.workers = s.workers
  waiting : s'.waiting = s.waiting
  shard : s'.shard = s.shard
  activity : s'.activity = s.activity
  received : s'.received = s.received
  sent : s'.sent = s.sent
  backlog : ∃ wanted, s'.backlog = (s.backlog.steal wanted).2

/-- Whom to ask for work, the votes, what is told at the end and what is ready to be sent may
change. -/
theorem still_note (s : Server) (peers : Peers) (votes : Quiescence) (stats : ServerStats)
    (outbox : List (Rank × Message)) : Still s { s with peers, votes, stats, outbox } :=
  ⟨rfl, rfl, rfl, rfl, rfl, rfl, rfl, rfl, [], rfl⟩

theorem Still.refl (s : Server) : Still s s := still_note s _ _ _ _

/-- A server that had nothing to do, and has stayed still, tells the same in a vote. -/
theorem Still.idleReport (h : Still s s') (hc : s.backlog.Counted) (idle : s.isIdle = true) :
    s'.idleReport = s.idleReport := by
  obtain ⟨wanted, left⟩ := h.backlog
  have empty := (isIdle_eq_true idle).2.1
  refine idleReport_congr h.phase h.settings h.workers h.shard h.activity h.received h.sent ?_
  rw [left, (steal_of_isEmpty hc empty wanted).2, empty]

/-- A server with nothing queued shares nothing. -/
theorem onStealRequest_still (hc : s.backlog.Counted) (idle : s.isIdle = true)
    (wanted : List WorkType) (load : Load) : Still s (s.onStealRequest source wanted load) := by
  obtain ⟨wanted', peers, stats, load', e⟩ := onStealRequest_eq s source wanted load
  have taken := (steal_of_isEmpty hc (isIdle_eq_true idle).2.1 wanted').1
  rw [e, taken]
  exact ⟨rfl, rfl, rfl, rfl, rfl, rfl, rfl, by simp [send, Message.movesWork], wanted', rfl⟩

/-- **A server with nothing to do stays still** until a message moves work, or ends the run. -/
theorem dispatch_stays (hm : m.movesWork = false) (h : s.dispatch source m = .ok s')
    (running : s'.phase = .running) (hc : s.backlog.Counted) (idle : s.isIdle = true) :
    Still s s' := by
  cases m with
  | request | response | forwardPut => cases hm
  | stealRequest wanted load => cases h; exact onStealRequest_still hc idle wanted load
  | stealResponse units load =>
    cases h
    have none : units = [] := by simpa [Message.movesWork] using hm
    subst none
    exact still_note s _ _ _ _
  | idleQuery round =>
    cases h
    exact ⟨rfl, rfl, rfl, rfl, rfl, rfl, rfl, by simp [send, Message.movesWork], [], rfl⟩
  | idleReply round report =>
    rcases onIdleReply_cases h with ends | rfl | ⟨-, votes, verdict, -, -, rfl⟩
    · cases ends.ended.symm.trans running
    · exact .refl _
    · exact still_note s _ _ _ _
  | shutdown =>
    cases h
    cases (phase_beginShutdown s).symm.trans running
  | shutdownRequested =>
    cases h
    split at running
    · cases (phase_initiateShutdown s).symm.trans running
    · rename_i other
      rw [if_neg other]
      exact .refl s
  | abort => cases h; exact .refl s

/-- Its report in a vote is then the same. -/
theorem dispatch_still (hm : m.movesWork = false) (h : s.dispatch source m = .ok s')
    (running : s'.phase = .running) (hc : s.backlog.Counted) (idle : s.isIdle = true) :
    s'.idleReport = s.idleReport :=
  (dispatch_stays hm h running hc idle).idleReport hc idle

/-! ## Ticks -/

/-- Looking for work changes whom to ask next, and asks for the types that are waited for. -/
theorem trySteal_asks (s : Server) : ∃ peers out, s.trySteal = { s with
    peers, outbox := s.outbox ++ out } ∧
      ∀ p ∈ out, p.2 = .stealRequest s.waiting.types s.load := by
  unfold trySteal
  split
  · exact ⟨s.peers, [], by rw [List.append_nil], fun _ hp => nomatch hp⟩
  split
  · exact ⟨s.peers, [], by rw [List.append_nil], fun _ hp => nomatch hp⟩
  · rename_i victim peers _
    refine ⟨peers, [(victim, .stealRequest s.waiting.types s.load)], ?_, fun p hp => ?_⟩
    · simp [send, Message.movesWork, load]
    · rw [List.mem_singleton.1 hp]

/-- It sends nothing that is counted. -/
theorem trySteal_eq (s : Server) : ∃ peers out, s.trySteal = { s with
    peers, outbox := s.outbox ++ out } ∧
      ∀ p ∈ out, ∃ wanted load, p.2 = .stealRequest wanted load := by
  obtain ⟨peers, out, e, asks⟩ := trySteal_asks s
  exact ⟨peers, out, e, fun p hp => ⟨_, _, asks p hp⟩⟩

/-- Looking for work leaves a server still. -/
theorem trySteal_still (s : Server) : Still s s.trySteal := by
  obtain ⟨peers, out, e, -⟩ := trySteal_asks s
  rw [e]
  exact still_note s _ _ _ _

/-- Telling several ranks something that is not counted. -/
theorem sendAll_eq (hm : m.movesWork = false) (dest : List Rank) (s : Server) :
    s.sendAll dest m = { s with outbox := s.outbox ++ dest.map fun r => (r, m) } := by
  unfold sendAll
  induction dest generalizing s with
  | nil => simp
  | cons r dest ih =>
    rw [List.foldl_cons, ih]
    simp [send, hm]

/-- What considering a vote does. It does nothing; or, at a master without anything to do, it
opens a round. If there is no other server to ask, the round concludes at once, and may end the
run. -/
theorem onIdleTick_cases {flow : Flow} (h : s.onIdleTick = .ok (s', flow)) :
    s' = s ∨ s.isMaster = true ∧ (s'.phase = .shuttingDown ∨
      s.votes.isVoting = false ∧ s.isIdle = true ∧ ∃ votes round stats,
        s.votes.openRound s.rank s.idleReport = .ok (votes, round) ∧
        ((s.topology.servers = 1 ∧ ∃ votes' verdict, votes.conclude = .ok (votes', verdict) ∧
            s' = { s with votes := votes', stats }) ∨
          s.topology.servers ≠ 1 ∧ s' = { s with
            votes, stats
            outbox := s.outbox ++ s.otherServers.map fun r => (r, .idleQuery round) })) := by
  unfold onIdleTick at h
  split at h
  · rename_i ready
    obtain ⟨s₁, hs₁, h⟩ := bind_eq_ok h
    cases h
    simp only [Bool.and_eq_true, Bool.not_eq_true'] at ready
    obtain ⟨⟨⟨master, -⟩, voting⟩, idle⟩ := ready
    refine .inr ⟨master, ?_⟩
    obtain ⟨⟨votes, round⟩, hopen, hs₁⟩ := bind_eq_ok hs₁
    simp only at hs₁
    split at hs₁
    · rename_i alone
      obtain ⟨⟨votes', verdict⟩, hconclude, hs₁⟩ := bind_eq_ok hs₁
      cases hs₁
      by_cases ends : verdict = some .terminate
      · subst ends
        exact .inl (phase_initiateShutdown _)
      · exact .inr ⟨voting, idle, votes, round, _, hopen,
          .inl ⟨alone, votes', verdict, hconclude, actOn_of_ne ends⟩⟩
    · rename_i others
      cases hs₁
      exact .inr ⟨voting, idle, votes, round, _, hopen, .inr ⟨others, sendAll_eq rfl _ _⟩⟩
  · cases h
    exact .inl rfl

/-- **The time for a vote** leaves a server still, unless the run ends. -/
theorem onIdleTick_still {flow : Flow} (h : s.onIdleTick = .ok (s', flow))
    (running : s'.phase = .running) : Still s s' := by
  rcases onIdleTick_cases h with rfl | ⟨-, ended | ⟨-, -, votes, round, stats, -, alone | asks⟩⟩
  · exact .refl _
  · cases ended.symm.trans running
  · obtain ⟨-, votes', verdict, -, rfl⟩ := alone
    exact still_note s _ _ _ _
  · obtain ⟨-, rfl⟩ := asks
    exact still_note s _ _ _ _

end Server

end WorkPool
