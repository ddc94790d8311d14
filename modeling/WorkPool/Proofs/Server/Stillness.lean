import WorkPool.Proofs.Server.Courses

/-!
# Stillness between two reports

In a vote a server tells whether it has nothing to do, and how many messages that move work it has
seen. Requests of peers for units, answers to them without units, votes and ticks are not counted.
If it tells the same count twice, and has nothing to do both times, then nothing happened in
between: each of the messages and ticks has left it **still** (`Server.Still`).

* `Still.of_step` — one step that is not counted leaves a server still that has nothing to do,
  unless it ends the run;
* `activity_le_serve`, `running_of_serve` — the count never falls, and a run that has ended stays
  ended, so that what is known of the last state is known of all states before it;
* `Still.of_serve` — hence a whole run.
-/

namespace WorkPool

namespace Server

variable {s s₁ s' : Server} {input : Input} {flow : Flow} {settings : Settings} {r : Rank}

/-! ## One step -/

/-- A step counts a message that moves work, and nothing else. -/
theorem activity_step (h : s.step input = .ok (s', flow)) :
    s'.activity = (s.arrived input).activity := by
  obtain ⟨ins, refused, does⟩ := step_does h
  exact does.steady.activity

theorem activity_le_arrived (s : Server) (input : Input) :
    s.activity ≤ (s.arrived input).activity := by
  cases input with
  | message source m =>
    simp only [arrived, activity_countArrival]
    exact Nat.le_add_right _ _
  | stealTick | idleTick => exact Nat.le_refl _

/-- A server that has stopped does not start again. -/
theorem running_of_step (h : s.step input = .ok (s', flow)) (running : s'.phase = .running) :
    s.phase = .running := by
  rcases step_goes_or_halts h with ⟨phase, -⟩ | halts
  · rw [← phase]
    exact running
  · exact halts.running

/-- **A step that is not counted** leaves a server that has nothing to do still. -/
theorem Still.of_step (h : s.step input = .ok (s', flow)) (hc : s.backlog.Counted)
    (idle : s.isIdle = true) (running : s'.phase = .running) (same : s'.activity = s.activity) :
    Still s s' := by
  cases input with
  | message source m =>
    have counted := activity_step h
    have unmoved : m.movesWork = false := by
      rw [same, arrived, activity_countArrival] at counted
      cases moves : m.movesWork with
      | false => rfl
      | true => simp [moves] at counted
    obtain ⟨dispatched, -⟩ := handle_eq_ok h
    rw [countArrival_still unmoved] at dispatched
    exact dispatch_stays unmoved dispatched running hc idle
  | stealTick =>
    cases h
    exact trySteal_still s
  | idleTick => exact onIdleTick_still h running

/-! ## One turn -/

variable {t t₁ t' : Traffic} {next : Turn}

theorem activity_le_turn (h : s.turn t next = .ok (s', t')) : s.activity ≤ s'.activity := by
  cases next with
  | step input =>
    obtain ⟨⟨s₁, flow⟩, stepped, h⟩ := bind_eq_ok h
    cases h
    rw [activity_step stepped]
    exact activity_le_arrived s input
  | passOn =>
    cases h
    exact Nat.le_refl _

theorem running_of_turn (h : s.turn t next = .ok (s', t')) (running : s'.phase = .running) :
    s.phase = .running := by
  cases next with
  | step input =>
    obtain ⟨⟨s₁, flow⟩, stepped, h⟩ := bind_eq_ok h
    cases h
    exact running_of_step stepped running
  | passOn =>
    cases h
    exact running

theorem Still.of_turn (h : s.turn t next = .ok (s', t')) (hc : s.backlog.Counted)
    (idle : s.isIdle = true) (running : s'.phase = .running) (same : s'.activity = s.activity) :
    Still s s' := by
  cases next with
  | step input =>
    obtain ⟨⟨s₁, flow⟩, stepped, h⟩ := bind_eq_ok h
    cases h
    exact .of_step stepped hc idle running same
  | passOn =>
    cases h
    exact still_note s _ _ _ _

/-! ## Every run -/

variable {turns first later : List Turn}

/-- The count of messages that move work never falls. -/
theorem activity_le_serve (h : s.serve t turns = .ok (s', t')) : s.activity ≤ s'.activity :=
  serve_induction (P := fun x _ => s.activity ≤ x.activity)
    (fun _ _ _ _ _ le turned => le.trans (activity_le_turn turned)) (Nat.le_refl _) h

/-- What runs at the end of a run has been running all the time. -/
theorem running_of_serve (h : s.serve t turns = .ok (s', t')) (running : s'.phase = .running) :
    s.phase = .running := by
  by_contra stopped
  exact serve_induction (P := fun x _ => x.phase ≠ .running)
    (fun _ _ _ _ _ stopped turned running => stopped (running_of_turn turned running)) stopped h
    running

/-- A run goes on from where its first turns lead. -/
theorem exists_of_serve_append (h : s.serve t (first ++ later) = .ok (s', t')) :
    ∃ s₁ t₁, s.serve t first = .ok (s₁, t₁) ∧ s₁.serve t₁ later = .ok (s', t') := by
  induction first generalizing s t with
  | nil => exact ⟨s, t, rfl, h⟩
  | cons next first ih =>
    obtain ⟨⟨s₂, t₂⟩, turned, h⟩ := bind_eq_ok h
    obtain ⟨s₁, t₁, served, rest⟩ := ih h
    refine ⟨s₁, t₁, ?_, rest⟩
    rw [serve, turned]
    exact served

/-- Nothing has been taken from a backlog without units. -/
theorem Still.backlog_eq (h : Still s s') (filed : s.backlog.Filed) (hc : s.backlog.Counted)
    (idle : s.isIdle = true) : s'.backlog = s.backlog := by
  obtain ⟨wanted, left⟩ := h.backlog
  have empty := hc.units_eq_nil (isIdle_eq_true idle).2.1
  rw [left, filed.steal_eq_self empty]

theorem Still.trans (h : Still s s₁) (backlog : s₁.backlog = s.backlog) (h' : Still s₁ s') :
    Still s s' where
  phase := h'.phase.trans h.phase
  settings := h'.settings.trans h.settings
  workers := h'.workers.trans h.workers
  waiting := h'.waiting.trans h.waiting
  shard := h'.shard.trans h.shard
  activity := h'.activity.trans h.activity
  received := h'.received.trans h.received
  sent := h'.sent.trans h.sent
  backlog := backlog ▸ h'.backlog

/-- **A run in which nothing is counted** leaves a server that has nothing to do still, unless it
ends. -/
theorem Still.of_serve (h : s.serve t turns = .ok (s', t')) (filed : s.backlog.Filed)
    (hc : s.backlog.Counted) (idle : s.isIdle = true) (running : s'.phase = .running)
    (same : s'.activity = s.activity) : Still s s' := by
  induction turns generalizing s t with
  | nil =>
    cases h
    exact .refl _
  | cons next turns ih =>
    obtain ⟨⟨s₁, t₁⟩, turned, h⟩ := bind_eq_ok h
    -- the count is between two equal ones
    have counted : s₁.activity = s.activity := by
      have := activity_le_turn turned
      have := activity_le_serve h
      omega
    have still := Still.of_turn turned hc idle (running_of_serve h running) counted
    have backlog := still.backlog_eq filed hc idle
    have idle₁ : s₁.isIdle = true := by
      rw [← idle]
      exact congrArg IdleReport.idle (still.idleReport hc idle)
    exact still.trans backlog
      (ih h (backlog ▸ filed) (backlog ▸ hc) idle₁ (same.trans counted.symm))

/-! ## Every state of a server -/

/-- While the run goes on, the backlog knows its size; and the count fits its word. -/
structure Counts (s : Server) : Prop where
  backlog : s.phase = .running → s.backlog.Counted
  activity : s.activity < Checked.wordSize

theorem Still.counted (h : Still s s') (hc : s.backlog.Counted) : s'.backlog.Counted := by
  obtain ⟨wanted, left⟩ := h.backlog
  rw [left]
  exact hc.steal wanted

theorem counted_dispatch {source : Rank} {m : Message} (h : s.dispatch source m = .ok s')
    (running : s'.phase = .running) (hc : s.backlog.Counted) : s'.backlog.Counted := by
  by_cases reports : ∃ round report, m = .idleReply round report
  · obtain ⟨round, report, rfl⟩ := reports
    rcases onIdleReply_cases h with ends | rfl | ⟨-, votes, verdict, -, -, rfl⟩
    · cases ends.ended.symm.trans running
    · exact hc
    · exact hc
  · rcases dispatch_handled h fun round report e => reports ⟨round, report, e⟩ with ends | handled
    · cases ends.ended.symm.trans running
    · exact handled.counted hc

theorem Counts.step (hs : s.Counts) (h : s.step input = .ok (s', flow)) : s'.Counts := by
  have before (running : s'.phase = .running) := hs.backlog (running_of_step h running)
  have activity := activity_step h
  cases input with
  | message source m =>
    obtain ⟨dispatched, fits⟩ := handle_eq_ok h
    refine ⟨fun running => counted_dispatch dispatched running ?_, fits.activity⟩
    rw [backlog_countArrival]
    exact before running
  | stealTick =>
    cases h
    exact ⟨fun running => (trySteal_still s).counted (before running), activity ▸ hs.activity⟩
  | idleTick =>
    exact ⟨fun running => (onIdleTick_still h running).counted (before running),
      activity ▸ hs.activity⟩

theorem Counts.turn (hs : s.Counts) (h : s.turn t next = .ok (s', t')) : s'.Counts := by
  cases next with
  | step input =>
    obtain ⟨⟨s₁, flow⟩, stepped, h⟩ := bind_eq_ok h
    cases h
    exact hs.step stepped
  | passOn =>
    cases h
    exact ⟨hs.backlog, hs.activity⟩

theorem Counts.serve (hs : s.Counts) (h : s.serve t turns = .ok (s', t')) : s'.Counts :=
  serve_induction (P := fun x _ => x.Counts) (fun _ _ _ _ _ hs turned => hs.turn turned) hs h

theorem counts_new (h : Server.new r settings = .ok (.ok s)) : s.Counts := by
  obtain ⟨isServer, -, h⟩ := bind_eq_ok h
  split at h
  · cases h
    exact ⟨fun _ => rfl, show 0 < Checked.wordSize by decide⟩
  · cases h

theorem LivesAt.counts (h : LivesAt settings r s) : s.Counts := by
  obtain ⟨s₀, turns, t, made, served⟩ := h
  exact (counts_new made).serve served

/-- A count that fits its word is told as it is. -/
theorem Counts.toNat_activity (h : s.Counts) : s.idleReport.activity.toNat = s.activity :=
  UInt64.toNat_ofNat_of_lt h.activity

/-- **Between two reports that tell the same nothing has happened.** Whatever a server has been
through, and whatever messages and ticks come in then: if it has nothing to do before and after
them, and tells the same count, it was running and had nothing to do in every state in between, and
all the time its backlog was empty, and its backlog, its workers, the requests that wait, its data
and all that it tells in a vote were the same. -/
theorem same_between_reports (lives : LivesAt settings r s)
    (served : s.serve t (first ++ later) = .ok (s', t')) (idle : s.idleReport.idle = true)
    (idle' : s'.idleReport.idle = true)
    (same : s'.idleReport.activity = s.idleReport.activity) :
    ∃ s₁ t₁, s.serve t first = .ok (s₁, t₁) ∧ s₁.serve t₁ later = .ok (s', t') ∧
      s₁.phase = .running ∧ s₁.isIdle = true ∧ s₁.backlog.units = [] ∧
      s₁.backlog = s.backlog ∧ s₁.workers = s.workers ∧ s₁.waiting = s.waiting ∧
      s₁.shard = s.shard ∧ s₁.idleReport = s.idleReport := by
  have counts := lives.counts
  have filed := lives.stationed.serving.tidy.backlog
  have hc := counts.backlog (isIdle_eq_true idle).1
  obtain ⟨s₁, t₁, served₁, rest⟩ := exists_of_serve_append served
  have running := running_of_serve rest (isIdle_eq_true idle').1
  have counted : s₁.activity = s.activity := by
    have up := activity_le_serve served₁
    have up' := activity_le_serve rest
    rw [← counts.toNat_activity, ← same, (counts.serve served).toNat_activity] at up ⊢
    omega
  have still := Still.of_serve served₁ filed hc idle running counted
  have backlog := still.backlog_eq filed hc idle
  have report := still.idleReport hc idle
  refine ⟨s₁, t₁, served₁, rest, running, ?_, ?_, backlog, still.workers, still.waiting,
    still.shard, report⟩
  · exact (congrArg IdleReport.idle report).trans idle
  · rw [backlog]
    exact hc.units_eq_nil (isIdle_eq_true idle).2.1

/-- The master of two servers, whose worker waits, looks for work and is asked for some; it finds
none, opens a vote, and is asked for its own. Its worker waits all the time. -/
theorem same_between_reports_master : ∃ s s₁ t₁,
    LivesAt { servers := 2, workers := 1, workTypes := [0] } 1 s ∧
    s.serve {} [.step .stealTick, .step (.message 2 (.stealRequest [0] {}))] = .ok (s₁, t₁) ∧
    s₁.phase = .running ∧ s₁.isIdle = true ∧ s₁.backlog = s.backlog ∧ s₁.workers = s.workers ∧
    s₁.waiting = s.waiting ∧ s₁.waiting.size = 1 := by
  obtain ⟨s₀, hnew⟩ : ∃ s₀, Server.new 1 { servers := 2, workers := 1, workTypes := [0] } =
    .ok (.ok s₀) := ⟨_, rfl⟩
  have ran : (do
      let made ← Server.new 1 { servers := 2, workers := 1, workTypes := [0] }
      let s₀ ← made.mapError fun _ => Fault.addOverflow
      let p ← s₀.serve {} [.step (.message 0 (.request 1 (.get 0))), .passOn]
      let q ← p.1.serve {} ([.step .stealTick, .step (.message 2 (.stealRequest [0] {}))] ++
        [.passOn, .step (.message 2 (.stealResponse [] {})), .step .idleTick,
          .step (.message 2 (.idleQuery 4))])
      return decide (p.1.idleReport.idle = true ∧ q.1.idleReport.idle = true ∧
        q.1.idleReport.activity = p.1.idleReport.activity ∧ p.1.waiting.size = 1) :
      Except Fault Bool) = .ok true := by decide +kernel
  rw [hnew] at ran
  obtain ⟨_, ⟨⟩, ran⟩ := bind_eq_ok ran
  obtain ⟨_, ⟨⟩, ran⟩ := bind_eq_ok ran
  obtain ⟨⟨s, t⟩, hserve, ran⟩ := bind_eq_ok ran
  obtain ⟨⟨s', t'⟩, served, ran⟩ := bind_eq_ok ran
  obtain ⟨idle, idle', same, waits⟩ := of_decide_eq_true (Except.ok.inj ran)
  have lives : LivesAt { servers := 2, workers := 1, workTypes := [0] } 1 s :=
    ⟨s₀, _, t, hnew, hserve⟩
  obtain ⟨s₁, t₁, served₁, -, running, idle₁, -, backlog, workers, waiting, -⟩ :=
    same_between_reports lives served idle idle' same
  exact ⟨s, s₁, t₁, lives, served₁, running, idle₁, backlog, workers, waiting, waiting ▸ waits⟩

end Server

end WorkPool
