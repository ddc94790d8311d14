import WorkPool.Proofs.Server.Courses

/-!
# Leaving, and being called back

A worker that is done tells its home server, and has left from then on. Nothing in a server sees to
it that this is for good: a request for work that was parked before is met all the same, and one
that comes late is taken up like any other. Main statement: `left_until_recalled` — a worker that
has left stays away, and is handed nothing, exactly as long as no step **recalls** it in one of
these ways. So one that had nothing parked, and asks for no more work, has left for good.
-/

namespace WorkPool

namespace Server

variable {input : Input} {flow : Flow} {s s₁ s' : Server} {x : Rank} {tag : UInt64}

/-! ## One step -/

/-- A worker has left after a step, and the step hands nothing to it. -/
def StaysAway (x : Rank) (s s' : Server) : Prop :=
  s'.workers.find? x = some .finalized ∧ handedTo x (s.said s') = []

/-- A step calls a worker back: a server that serves takes up its request for work, or a unit goes
to a request that it had left parked. -/
def Recalls (x : Rank) (s : Server) (input : Input) (s' : Server) : Prop :=
  (∃ tag type, input = .message x (.request tag (.get type)) ∧ s.isShuttingDown = false ∧
    s.settings.accepts type = true) ∨
  (s'.isShuttingDown = false ∧ s'.parkedFor x < s.parkedFor x)

theorem outbox_step (hstep : s.step input = .ok (s', flow)) :
    s'.outbox = s.outbox ++ s.said s' := by
  obtain ⟨ins, refused, does⟩ := step_does hstep
  obtain ⟨new, hnew⟩ := does.steady.outbox
  rw [(arrived_eq s input).2] at hnew
  rw [said_eq hnew.symm, hnew]

theorem handedTo_said (hstep : s.step input = .ok (s', flow)) (x : Rank) :
    handedTo x s'.outbox = handedTo x s.outbox ++ handedTo x (s.said s') := by
  rw [← handedTo_append, ← outbox_step hstep]

/-- Something was handed to a rank if it has been handed more. -/
theorem handed_of_length_lt (hstep : s.step input = .ok (s', flow))
    (h : (handedTo x s.outbox).length < (handedTo x s'.outbox).length) :
    handedTo x (s.said s') ≠ [] := by
  intro none
  rw [handedTo_said hstep, none, List.append_nil] at h
  exact Nat.lt_irrefl _ h

theorem Spares.unhanded (h : Spares x s s') (hstep : s.step input = .ok (s', flow)) :
    handedTo x (s.said s') = [] := by
  have same := h.handed
  rw [handedTo_said hstep] at same
  exact List.append_right_eq_self.1 same

theorem Spares.staysAway (h : Spares x s s') (hstep : s.step input = .ok (s', flow))
    (left : s.workers.find? x = some .finalized) : StaysAway x s s' :=
  ⟨h.finalized left, h.unhanded hstep⟩

/-- **Whoever has left stays away** exactly if the step does not call it back. A step that takes up
the request of another worker, or none, does not; and a server that shuts down has nothing parked
that could be met. -/
theorem staysAway_iff (hstep : s.step input = .ok (s', flow)) (rests : s.Rests)
    (left : s.workers.find? x = some .finalized) :
    StaysAway x s s' ↔ ¬ Recalls x s input s' := by
  have attached : s.workers.contains x = true := by rw [Table.contains, left]; rfl
  by_cases admits : s.Admits x input
  · obtain ⟨tag, type, asked, running, accepts, -⟩ := id admits
    refine iff_of_false ?_ (not_not_intro (.inl ⟨tag, type, asked, running, accepts⟩))
    rintro ⟨away, none⟩
    rcases (step_grants hstep admits).granted with ⟨waits, -⟩ | handed
    · cases waits.symm.trans away
    · exact handed_of_length_lt hstep handed none
  have unasked : ¬ ∃ tag type, input = .message x (.request tag (.get type)) ∧
      s.isShuttingDown = false ∧ s.settings.accepts type = true := by
    rintro ⟨tag, type, asked, running, accepts⟩
    exact admits ⟨tag, type, asked, running, accepts, attached⟩
  have course : s'.phase = s.phase ∧ Regards x s s' ∨ Halts s s' := by
    by_cases others : ∃ y, s.Admits y input
    · obtain ⟨y, asks⟩ := others
      have grants := step_grants hstep asks
      refine .inl ⟨grants.phase, grants.others x ?_⟩
      rintro rfl
      exact admits asks
    · have ungranted : ∀ y, ¬ s.Admits y input := fun y asks => others ⟨y, asks⟩
      exact (step_course hstep ungranted).imp_left fun goes => ⟨goes.phase, goes.regards x⟩
  rcases course with ⟨phase, ⟨spares, same⟩ | meets⟩ | halts
  · refine iff_of_true (spares.staysAway hstep left) ?_
    rintro (asked | ⟨-, fewer⟩)
    · exact unasked asked
    · exact absurd same (Nat.ne_of_lt fewer)
  · refine iff_of_false (fun away => handed_of_length_lt hstep meets.handed away.2) ?_
    refine not_not_intro (.inr ⟨?_, meets.parked⟩)
    rw [isShuttingDown, phase]
    refine Bool.eq_false_iff.2 fun ended => ?_
    have none : s.waiting.all = [] := (Multiset.coe_eq_zero _).1 (rests ended)
    have parked : s.parkedFor x = 0 := by
      rw [parkedFor, none]
      rfl
    exact absurd (parked ▸ meets.parked) (Nat.not_lt_zero _)
  · refine iff_of_true ((halts.spares x).staysAway hstep left) ?_
    rintro (asked | ⟨running, -⟩)
    · exact unasked asked
    · rw [isShuttingDown, halts.ended] at running
      cases running

/-- **A worker that leaves** has left after the step. -/
theorem staysAway_of_finalize (attached : s.workers.contains x = true)
    (hleave : s.step (.message x (.request tag .finalize)) = .ok (s', flow)) :
    StaysAway x s s' := by
  have request := (handle_eq_ok hleave).1
  have attached' : (s.countArrival x (.request tag .finalize)).workers.contains x = true := by
    rw [workers_countArrival]
    exact attached
  have counted : Spares x s (s.countArrival x (.request tag .finalize)) := by
    rw [countArrival_eq]
    exact ⟨id, rfl⟩
  generalize s.countArrival x (.request tag .finalize) = s₁ at request attached' counted
  have left : (s₁.onFinalize x tag).workers.find? x = some .finalized := by
    rw [onFinalize, if_pos attached']
    exact Table.find?_insert_self ..
  have spares := counted.trans (onFinalize_spares s₁ x tag x)
  change s₁.onRequest x tag .finalize = .ok s' at request
  unfold onRequest at request
  split at request
  · cases request
    exact ⟨left, spares.unhanded hleave⟩
  · cases request
    have noted := noteBusy_spares (s₁.onFinalize x tag) x x
    exact ⟨noted.finalized left, (spares.trans noted).unhanded hleave⟩

/-! ## Every run -/

/-- **A run leaves a worker alone** exactly if no step of it calls it back. -/
theorem steps_staysAway_iff (turns : List Turn) (rests : s.Rests)
    (left : s.workers.find? x = some .finalized) :
    (∀ q ∈ s.steps turns, StaysAway x q.1 q.2.2) ↔
      ∀ q ∈ s.steps turns, ¬ Recalls x q.1 q.2.1 q.2.2 := by
  induction turns generalizing s with
  | nil => simp [steps]
  | cons next turns ih =>
    cases next with
    | passOn => exact ih rests left
    | step input =>
      cases stepped : s.step input with
      | error e =>
        simp [steps, stepped]
      | ok result =>
        obtain ⟨s', flow⟩ := result
        rw [steps_step stepped, List.forall_mem_cons, List.forall_mem_cons,
          ← staysAway_iff stepped rests left]
        refine and_congr_right fun away => ih ((step_answers stepped).rests rests) away.1

theorem parkedFor_eq_countP (s : Server) (x : Rank) :
    s.parkedFor x = s.parked.countP fun p => p.rank = x := rfl

/-- Without a request for work, a rank has no more parked than before. -/
theorem parkedFor_step_le (hstep : s.step input = .ok (s', flow))
    (unasked : ∀ tag type, input ≠ .message x (.request tag (.get type))) :
    s'.parkedFor x ≤ s.parkedFor x := by
  have none : (wantsIn input.messages).countP (fun p => p.rank = x) = 0 := by
    refine Multiset.countP_eq_zero.2 fun p hp same => ?_
    obtain ⟨⟨source, m⟩, handled, wants⟩ := List.mem_filterMap.1 hp
    rw [Message.eq_of_wants? wants, same] at handled
    cases input with
    | message source m =>
      cases List.mem_singleton.1 handled
      exact unasked _ _ rfl
    | stealTick | idleTick => cases handled
  have fewer := Multiset.countP_le_of_le (fun p : Parked => p.rank = x)
    (step_answers hstep).parked
  rw [Multiset.countP_add, none, Nat.add_zero] at fewer
  rwa [parkedFor_eq_countP, parkedFor_eq_countP]

/-- A worker that has nothing parked, and asks for no work, is not called back. -/
theorem not_recalled (turns : List Turn) (parked : s.parkedFor x = 0)
    (unasked : ∀ tag type, .step (.message x (.request tag (.get type))) ∉ turns) :
    ∀ q ∈ s.steps turns, ¬ Recalls x q.1 q.2.1 q.2.2 := by
  induction turns generalizing s with
  | nil => simp [steps]
  | cons next turns ih =>
    have later (tag : UInt64) (type : WorkType) :
        Turn.step (.message x (.request tag (.get type))) ∉ turns :=
      fun there => unasked tag type (List.mem_cons_of_mem _ there)
    cases next with
    | passOn => exact ih parked later
    | step input =>
      have silent (tag : UInt64) (type : WorkType) :
          input ≠ .message x (.request tag (.get type)) := by
        rintro rfl
        exact unasked tag type List.mem_cons_self
      cases stepped : s.step input with
      | error e =>
        simp [steps, stepped]
      | ok result =>
        obtain ⟨s', flow⟩ := result
        have fewer := parkedFor_step_le stepped silent
        rw [parked] at fewer
        rw [steps_step stepped, List.forall_mem_cons]
        refine ⟨?_, ih (Nat.le_zero.1 fewer) later⟩
        rintro (⟨tag, type, asked, -⟩ | ⟨-, met⟩)
        · exact silent tag type asked
        · rw [parked] at met
          exact absurd met (Nat.not_lt_zero _)

theorem LivesAt.rests {settings : Settings} {r : Rank} (h : LivesAt settings r s) : s.Rests := by
  obtain ⟨s₀, turns, t, hnew, hserve⟩ := h
  exact ((accounted_new hnew).serve hserve).rests

/-- **A worker has left until it is called back.** When a server, whatever it has been through, has
handled the word of one of its workers that it leaves,

* the worker has left, and was handed nothing;
* in every later run it has left after each step, and no step hands anything to it, exactly if no
  step calls it back: by taking up a request of it for work, or by meeting one that it had left
  parked;
* so if it had nothing parked, and asks for no more work, it has left for good. -/
theorem left_until_recalled {settings : Settings} {r : Rank} (lives : LivesAt settings r s)
    (attached : s.workers.contains x = true)
    (hleave : s.step (.message x (.request tag .finalize)) = .ok (s₁, flow)) (turns : List Turn) :
    StaysAway x s s₁ ∧
    ((∀ q ∈ s₁.steps turns, StaysAway x q.1 q.2.2) ↔
      ∀ q ∈ s₁.steps turns, ¬ Recalls x q.1 q.2.1 q.2.2) ∧
    (s.parkedFor x = 0 →
      (∀ tag type, .step (.message x (.request tag (.get type))) ∉ turns) →
      ∀ q ∈ s₁.steps turns, StaysAway x q.1 q.2.2) := by
  have away := staysAway_of_finalize attached hleave
  have rests := (step_answers hleave).rests lives.rests
  refine ⟨away, steps_staysAway_iff turns rests away.1, fun parked unasked => ?_⟩
  have fewer := parkedFor_step_le hleave fun _ _ asks => by cases asks
  rw [parked] at fewer
  exact (steps_staysAway_iff turns rests away.1).2
    (not_recalled turns (Nat.le_zero.1 fewer) unasked)

/-- A worker leaves while its request for work is parked. A unit that another worker puts then goes
to this request. -/
theorem left_until_recalled_by_put : ∃ s s₁ flow,
    LivesAt { servers := 1, workers := 2, workTypes := [0, 1] } 2 s ∧
    s.step (.message 0 (.request 2 .finalize)) = .ok (s₁, flow) ∧ StaysAway 0 s s₁ ∧
    ¬ ∀ q ∈ s₁.steps [.step (.message 1 (.request 1 (.put ⟨[7], none, 1, 1, 0⟩)))],
      StaysAway 0 q.1 q.2.2 := by
  obtain ⟨s₀, hnew⟩ : ∃ s₀, Server.new 2 { servers := 1, workers := 2, workTypes := [0, 1] } =
    .ok (.ok s₀) := ⟨_, rfl⟩
  have ran : (do
      let made ← Server.new 2 { servers := 1, workers := 2, workTypes := [0, 1] }
      let s₀ ← made.mapError fun _ => Fault.addOverflow
      let p ← s₀.serve {} [.step (.message 0 (.request 1 (.get 1)))]
      let q ← p.1.step (.message 0 (.request 2 .finalize))
      return decide (p.1.workers.contains 0 = true ∧
        (q.1.steps [.step (.message 1 (.request 1 (.put ⟨[7], none, 1, 1, 0⟩)))]).any
          (fun r => !r.2.2.isShuttingDown && decide (r.2.2.parkedFor 0 < r.1.parkedFor 0)) = true) :
      Except Fault Bool) = .ok true := by decide +kernel
  rw [hnew] at ran
  obtain ⟨_, ⟨⟩, ran⟩ := bind_eq_ok ran
  obtain ⟨_, ⟨⟩, ran⟩ := bind_eq_ok ran
  obtain ⟨⟨s, t⟩, hserve, ran⟩ := bind_eq_ok ran
  obtain ⟨⟨s₁, flow⟩, hleave, ran⟩ := bind_eq_ok ran
  obtain ⟨attached, met⟩ := of_decide_eq_true (Except.ok.inj ran)
  have lives : LivesAt { servers := 1, workers := 2, workTypes := [0, 1] } 2 s :=
    ⟨s₀, _, t, hnew, hserve⟩
  obtain ⟨away, recalled, -⟩ := left_until_recalled lives attached hleave
    [.step (.message 1 (.request 1 (.put ⟨[7], none, 1, 1, 0⟩)))]
  refine ⟨s, s₁, flow, lives, hleave, away, fun stays => ?_⟩
  obtain ⟨q, there, met⟩ := List.any_eq_true.1 met
  rw [Bool.and_eq_true, Bool.not_eq_true', decide_eq_true_eq] at met
  exact recalled.1 stays q there (.inr met)

end Server

end WorkPool
