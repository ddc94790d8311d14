import WorkPool.Proofs.Server.Routing

/-!
# Attendance: the workers of a server, and those who wait

A server keeps a table of its workers, and apart from that the requests for work that it has parked.
Main statement: `worker_table_faithful` — whatever happens, the two fit together. The table lists
the workers that are attached by the layout; only these have requests parked, and the stored number
of parked requests is right; and whoever counts as waiting does wait. So a server that is idle has
no worker that could still do something: each has left, or waits for the answer to a request.

Most of it is known of every run already, of the table by `Serving` and of the requests by
`Accounted`. `Attending` adds the rest.
-/

namespace WorkPool

namespace Server

variable {input : Input} {flow : Flow} {s s' : Server} {t t' : Traffic}

/-! ## One step -/

theorem Act.counted (act : Act input s s') (h : s.waiting.Counted) : s'.waiting.Counted := by
  cases act with
  | meet u matched => exact h.takeMatch matched
  | endRun | obey => rfl
  | _ => exact h

theorem Acts.counted (acts : Acts input s s') (h : s.waiting.Counted) : s'.waiting.Counted :=
  acts.keep (P := fun s => s.waiting.Counted) (fun _ _ h act => act.counted h) h

/-- **A step** keeps the number of parked requests right. -/
theorem step_counted (hstep : s.step input = .ok (s', flow)) (h : s.waiting.Counted) :
    s'.waiting.Counted := by
  cases step_serves hstep with
  | acts acts => exact acts.counted h
  | hand asked before running attached popped after => exact after.counted (before.counted h)
  | park asked before running attached unmet after =>
    have parked := (before.counted h).park
    exact after.counted (parked _)

theorem Attends.congr (h : s.Attends) (workers : s'.workers = s.workers)
    (waiting : s'.waiting = s.waiting) : s'.Attends := by
  intro x parked
  rw [workers] at parked
  rw [parkedFor, waiting]
  exact h x parked

/-- **A step** of a server that goes on leaves nobody waiting without a request. -/
theorem step_attends (hstep : s.step input = .ok (s', flow)) (running : s'.phase = .running)
    (h : s.phase = .running → s.Attends) : s'.Attends := by
  cases input with
  | message source m =>
    obtain ⟨hdispatch, -⟩ := handle_eq_ok hstep
    have counted (same : s'.phase = (s.countArrival source m).phase) :
        (s.countArrival source m).Attends := by
      rw [phase_countArrival] at same
      refine (h (same.symm.trans running)).congr workers_countArrival ?_
      rw [countArrival_eq]
    by_cases report : ∃ round told, m = .idleReply round told
    · obtain ⟨round, told, rfl⟩ := report
      rcases onIdleReply_cases hdispatch with ends | rfl | ⟨-, votes, verdict, -, -, rfl⟩
      · cases ends.ended.symm.trans running
      · exact counted rfl
      · exact counted rfl
    · rcases dispatch_handled hdispatch fun round told same => report ⟨round, told, same⟩ with
        ends | handled
      · cases ends.ended.symm.trans running
      · exact handled.attends (counted handled.phase)
  | stealTick =>
    cases hstep
    have served := served_trySteal s
    exact served.attends (h (served.phase.symm.trans running))
  | idleTick =>
    rcases onIdleTick_cases hstep with rfl | ⟨-, ended | ⟨-, -, votes, round, stats, -, opened⟩⟩
    · exact h running
    · cases ended.symm.trans running
    · rcases opened with ⟨-, votes', verdict, -, rfl⟩ | ⟨-, rfl⟩
      · exact h running
      · exact h running

/-! ## Every run -/

/-- The number of parked requests is right, and as long as a server goes on, whoever counts as
waiting has one of them. -/
structure Attending (s : Server) : Prop where
  counted : s.waiting.Counted
  attends : s.phase = .running → s.Attends

/-- At the start everybody is at work, and nobody is parked. -/
theorem attending_new {rank : Rank} {settings : Settings}
    (h : Server.new rank settings = .ok (.ok s)) : s.Attending := by
  obtain ⟨isServer, -, h⟩ := bind_eq_ok h
  split at h
  · cases h
    refine ⟨rfl, fun _ x parked => ?_⟩
    obtain ⟨worker, -, same⟩ := List.mem_map.1 (Table.mem_of_find?_ofList parked)
    cases same
  · cases h

theorem Attending.turn {next : Turn} (h : s.Attending) (hturn : s.turn t next = .ok (s', t')) :
    s'.Attending := by
  cases next with
  | step input =>
    obtain ⟨⟨s₁, flow⟩, hstep, hturn⟩ := bind_eq_ok hturn
    cases hturn
    exact ⟨step_counted hstep h.counted, fun running => step_attends hstep running h.attends⟩
  | passOn =>
    cases hturn
    exact ⟨h.counted, h.attends⟩

theorem Attending.serve {turns : List Turn} (h : s.Attending)
    (hserve : s.serve t turns = .ok (s', t')) : s'.Attending :=
  serve_induction (P := fun s _ => s.Attending) (fun _ _ _ _ _ h hturn => h.turn hturn) h hserve

/-- A worker waits here: a request for work that it has sent is parked, and not all that it has asked
for under the tag of that request has been answered. -/
def AwaitsWork (s : Server) (t : Traffic) (x : Rank) : Prop :=
  ∃ p ∈ s.waiting.all, p.rank = x ∧ (x, .request p.tag (.get p.type)) ∈ t.handled ∧
    (answersIn (t.sent ++ s.outbox)).count (x, p.tag) < (requestsIn t.handled).count (x, p.tag)

/-- What is parked has not been answered. -/
theorem Accounted.awaitsWork (h : Accounted s t) {p : Parked} (parked : p ∈ s.waiting.all) :
    s.AwaitsWork t p.rank := by
  have asked : p ∈ wantsIn t.handled := Multiset.mem_of_le h.parked parked
  obtain ⟨⟨source, m⟩, handled, wants⟩ := List.mem_filterMap.1 asked
  refine ⟨p, parked, rfl, ?_, ?_⟩
  · rw [← Message.eq_of_wants? wants]
    exact handled
  · have waits : 0 < (s.parked.map fun p => (p.rank, p.tag)).count (p.rank, p.tag) :=
      Multiset.count_pos.2 (Multiset.mem_map_of_mem _ parked)
    rw [h.account, dues, answersIn_append, Multiset.count_add, Multiset.count_add,
      Multiset.count_add]
    omega

/-- In an idle server nobody is at work. -/
theorem not_busy_of_isIdle (idle : s.isIdle = true) {x : Rank} {state : WorkerState}
    (found : s.workers.find? x = some state) : state ≠ .busy := by
  obtain ⟨-, -, rest, -⟩ := isIdle_eq_true idle
  exact rest state ((Table.values_of_find? found).mem_iff.2 List.mem_cons_self)

/-- **The table of workers is right.** Whatever messages and ticks a new server has handled,

* its table lists the workers whose home it is, and no one else;
* every parked request belongs to one of them, and the stored number of them is right;
* as long as it goes on, whoever counts as waiting has a parked request;
* so if it is idle, each worker has left, or has a request for work parked that has not been
  answered. -/
theorem worker_table_faithful (rank : Rank) (settings : Settings) {s₀ : Server}
    (hnew : Server.new rank settings = .ok (.ok s₀)) (turns : List Turn)
    (hserve : s₀.serve {} turns = .ok (s, t)) :
    (∀ x, s.workers.contains x = true ↔
      settings.topology.isWorker x = true ∧ rank = settings.topology.homeServer x) ∧
    (∀ p ∈ s.waiting.all, s.workers.contains p.rank = true) ∧
    s.waiting.size = s.waiting.all.length ∧
    (s.phase = .running → ∀ x, s.workers.find? x = some .parked →
      ∃ p ∈ s.waiting.all, p.rank = x) ∧
    (s.isIdle = true → ∀ x, s.workers.contains x = true →
      s.workers.find? x = some .finalized ∨ s.AwaitsWork t x) := by
  have serving := (serving_new hnew).serve hserve
  have attending := (attending_new hnew).serve hserve
  have accounted := (accounted_new hnew).serve hserve
  have waits (running : s.phase = .running) {x : Rank}
      (parked : s.workers.find? x = some .parked) : ∃ p ∈ s.waiting.all, p.rank = x := by
    obtain ⟨p, hp, same⟩ := List.countP_pos_iff.1 (attending.attends running x parked)
    exact ⟨p, hp, beq_iff_eq.1 same⟩
  refine ⟨fun x => ?_, serving.tidy.attached, attending.counted, fun running x => waits running,
    fun idle x attached => ?_⟩
  · rw [serving.workers, Topology.mem_attached_iff]
  · obtain ⟨state, found⟩ := Option.isSome_iff_exists.1 attached
    cases state with
    | busy => exact absurd rfl (not_busy_of_isIdle idle found)
    | finalized => exact .inl found
    | parked =>
      obtain ⟨p, parked, rfl⟩ := waits (isIdle_eq_true idle).1 found
      exact .inr (accounted.awaitsWork parked)

/-- One worker of two waits for two types, and the other leaves; a rank that is not attached asks for
work in vain. -/
def waitAndLeave : List Turn :=
  [.step (.message 0 (.request 1 (.get 0))), .step (.message 0 (.request 2 (.get 1))), .passOn,
    .step (.message 5 (.request 1 (.get 0))), .step (.message 1 (.request 7 .finalize))]

theorem worker_table_faithful_idle : ∃ s₀ s t,
    Server.new 2 { servers := 1, workers := 2, workTypes := [0, 1] } = .ok (.ok s₀) ∧
    s₀.serve {} waitAndLeave = .ok (s, t) ∧ s.isIdle = true ∧
    s.waiting.all.length = 2 ∧ s.workers.contains 5 = false ∧
    s.workers.find? 1 = some .finalized ∧ s.AwaitsWork t 0 := by
  obtain ⟨s₀, hnew⟩ : ∃ s₀, Server.new 2 { servers := 1, workers := 2, workTypes := [0, 1] } =
    .ok (.ok s₀) := ⟨_, rfl⟩
  have ran : (do
      let made ← Server.new 2 { servers := 1, workers := 2, workTypes := [0, 1] }
      let s₀ ← made.mapError fun _ => Fault.addOverflow
      let p ← s₀.serve {} waitAndLeave
      return decide (p.1.isIdle = true ∧ p.1.waiting.size = 2 ∧
        p.1.workers.find? 1 = some .finalized ∧
        p.1.workers.find? 0 = some .parked) : Except Fault Bool) = .ok true := by decide +kernel
  rw [hnew] at ran
  obtain ⟨_, ⟨⟩, ran⟩ := bind_eq_ok ran
  obtain ⟨_, ⟨⟩, ran⟩ := bind_eq_ok ran
  obtain ⟨⟨s, t⟩, hserve, ran⟩ := bind_eq_ok ran
  obtain ⟨idle, size, left, waiting⟩ := of_decide_eq_true (Except.ok.inj ran)
  obtain ⟨table, -, counted, -, rest⟩ :=
    worker_table_faithful 2 { servers := 1, workers := 2, workTypes := [0, 1] } hnew waitAndLeave
      hserve
  refine ⟨s₀, s, t, hnew, hserve, idle, counted.symm.trans size, ?_, left, ?_⟩
  · exact Bool.eq_false_iff.2 fun attached => absurd ((table 5).1 attached).1 (by decide)
  · have attached : s.workers.contains 0 = true := (table 0).2 (by decide)
    refine (rest idle 0 attached).resolve_left fun gone => ?_
    cases gone.symm.trans waiting

end Server

end WorkPool
