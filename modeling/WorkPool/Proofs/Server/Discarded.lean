import WorkPool.Proofs.Server.Courses
import WorkPool.Proofs.Server.Stopped
import WorkPool.Proofs.Server.Units

/-!
# Discarded units, and those that come late

A server that stops serving drops its backlog and counts what it drops. Units that other servers
have sent before they know may still reach it. Such a **late** unit is treated as ever: it is passed
on if it is to be held elsewhere, and otherwise queued, where nobody will take it and nothing counts
it.

Main statement: `discarded_but_for_late` — at every time the units that a server has taken up are
those that it has handed out, passed on, discarded, still has queued, or has lost for want of room;
and what is queued once it shuts down are its late units. The first part comes from the balance of
one step (`step_balance`), the second from what a stopped server does with its backlog
(`Stopped.backlog_step`).
-/

namespace WorkPool

namespace Server

variable {s s₀ s' : Server} {source : Rank} {m : Message} {input : Input} {flow : Flow}

/-! ## The units of a step -/

/-- The units that a step takes up: those that a message carries, the one that it puts if the put
is acknowledged, and those made of notices. -/
def takenUp (q : Server × Input × Server) : List WorkUnit :=
  match q.2.1 with
  | .message source m =>
    m.carried ++ (accepted source m (q.1.said q.2.2) ++ (q.1.countArrival source m).made source m)
  | .stealTick | .idleTick => []

/-- The units that are lost in a step, since they find the backlog full. -/
def lostIn (q : Server × Input × Server) : List WorkUnit :=
  match q.2.1 with
  | .message source m => (q.1.countArrival source m).overflow source m
  | .stealTick | .idleTick => []

/-- The units that come late: the server shuts down, and is to hold them. -/
def lateIn (q : Server × Input × Server) : List WorkUnit :=
  match q.2.1 with
  | .message _ m => if q.1.isShuttingDown then m.carried.filter q.1.holds else []
  | .stealTick | .idleTick => []

/-- How many units a server has queued, or is about to send. -/
def stockSize (s : Server) : Nat :=
  s.backlog.units.length + (carriedIn s.outbox).length + (workIn s.outbox).length

theorem Accounts.sizes {f : WorkUnit → WorkUnit} {ins refused : List WorkUnit}
    (h : Accounts f s ins refused s') :
    s.stockSize + ins.length = s'.stockSize + refused.length := by
  have sizes := congrArg Multiset.card h
  simpa only [stock, stockSize, bagBy, Multiset.card_add, Multiset.coe_card, List.length_map]
    using sizes

/-- **One step** accounts for the units that it takes up. A put that is refused has come in, and is
refused. -/
theorem step_balance (hstep : s.step input = .ok (s', flow)) :
    s.stockSize + (takenUp (s, input, s')).length =
      s'.stockSize + (lostIn (s, input, s')).length + (s.drained s').length := by
  cases input with
  | message source m =>
    have handled := (handle_eq_ok hstep).1
    have balance := ((dispatch_does handled).accounts (blurs_relieved _)).sizes
    have said : (s.countArrival source m).said s' = s.said s' := by
      rw [Server.said, outbox_countArrival]
      rfl
    have drained : (s.countArrival source m).drained s' = s.drained s' := by
      rw [Server.drained, phase_countArrival, backlog_countArrival]
      rfl
    have stock : (s.countArrival source m).stockSize = s.stockSize := by
      rw [stockSize, backlog_countArrival, outbox_countArrival]
      rfl
    rw [brings_eq handled, said, drained, stock] at balance
    simp only [List.length_append] at balance
    simp only [takenUp, lostIn, List.length_append]
    omega
  | stealTick =>
    cases hstep
    have looks : Does s [] [] s.trySteal := .looking (.done s) rfl s.trySteal.workers
    exact (looks.still (served_trySteal s).phase |>.accounts (blurs_relieved s)).sizes
  | idleTick => exact ((onIdleTick_deeds hstep).accounts (blurs_relieved s)).sizes

/-- **One step** discards what it drops. -/
theorem discarded_step (hstep : s.step input = .ok (s', flow)) :
    s'.stats.unitsDiscarded = s.stats.unitsDiscarded + (s.drained s').length := by
  rcases step_goes_or_halts hstep with ⟨phase, discarded⟩ | halts
  · rw [discarded, drained, if_pos phase]
    rfl
  · have ends : ¬ s'.phase = s.phase := by
      rw [halts.ended, halts.running]
      decide
    rw [halts.discarded, drained, if_neg ends]

/-! ## Late units -/

/-- Nothing comes late to a server that serves. -/
theorem lateIn_of_running (running : s.isShuttingDown = false) (input : Input) (s' : Server) :
    lateIn (s, input, s') = [] := by
  cases input with
  | message source m => simp only [lateIn, running, Bool.false_eq_true, if_false]
  | stealTick | idleTick => rfl

theorem lateIn_of_ended (ended : s.isShuttingDown = true) (source : Rank) (m : Message)
    (s' : Server) : lateIn (s, .message source m, s') = m.carried.filter s.holds :=
  if_pos ended

/-- With nothing parked, a unit that is to be held here is queued. -/
theorem Stopped.backlog_accept (h : Stopped s) (u : WorkUnit) :
    (s.accept u).backlog =
      s.backlog.pushAll (([u].filter s.holds).map (WorkUnit.settled s.topology)) := by
  cases held : s.holds u with
  | true =>
    rw [List.filter_cons_of_pos held, Server.accept, submit_held held, place, h.unmatched]
    rfl
  | false =>
    obtain ⟨stats, dest, -, e⟩ := submit_forwarded held
    rw [List.filter_cons_of_neg (by rw [held]; decide), Server.accept, e]
    rfl

theorem Stopped.backlog_acceptAll (h : Stopped s) (units : List WorkUnit) :
    (units.foldl Server.accept s).backlog =
      s.backlog.pushAll ((units.filter s.holds).map (WorkUnit.settled s.topology)) := by
  induction units generalizing s with
  | nil => rfl
  | cons u units ih =>
    obtain ⟨new, -, -, lingers⟩ := h.accept u
    have steady := (accept_works s u).served.steady
    have holds : (s.accept u).holds = s.holds := funext steady.holds
    have first : (u :: units).filter s.holds = [u].filter s.holds ++ units.filter s.holds :=
      List.filter_append [u] units
    rw [List.foldl_cons, ih (h.lingers lingers), holds, steady.topology, h.backlog_accept, first,
      List.map_append, Backlog.pushAll_append]

/-- **A message to a stopped server** adds to its backlog the units that it carries and that are to
be held here. Nothing goes out of it, for nothing is shared. -/
theorem Stopped.backlog_dispatch (h : Stopped s) (hd : s.dispatch source m = .ok s') :
    s'.backlog =
      s.backlog.pushAll ((m.carried.filter s.holds).map (WorkUnit.settled s.topology)) := by
  cases m with
  | request tag body =>
    change s.onRequest source tag body = .ok s' at hd
    rw [onRequest, if_pos h.ended] at hd
    cases hd
    split
    · unfold onFinalize
      split <;> rfl
    · rfl
  | forwardPut u =>
    cases hd
    exact h.backlog_accept u
  | stealRequest wanted load =>
    cases hd
    show (if s.isShuttingDown then ([], s.backlog) else s.backlog.steal wanted).2 = s.backlog
    rw [if_pos h.ended]
  | stealResponse units load =>
    cases hd
    have noted (peers : Peers) (stats : ServerStats) : Stopped { s with peers, stats } :=
      ⟨h.ended, h.parked, h.waits⟩
    exact (noted _ _).backlog_acceptAll units
  | idleReply round report =>
    cases (onIdleReply_of_ended h.ended).symm.trans hd
    rfl
  | shutdown =>
    rw [Server.dispatch, beginShutdown_of_ended h.ended] at hd
    cases hd
    rfl
  | shutdownRequested =>
    rw [Server.dispatch, initiateShutdown_of_ended h.ended, ite_self] at hd
    cases hd
    rfl
  | response | idleQuery | abort =>
    cases hd
    rfl

/-- **A step of a stopped server** queues the late units that come with it. -/
theorem Stopped.backlog_step (h : Stopped s) (hstep : s.step input = .ok (s', flow)) :
    s'.backlog =
      s.backlog.pushAll ((lateIn (s, input, s')).map (WorkUnit.settled s.topology)) := by
  cases input with
  | message source m =>
    have counted := h.lingers (countArrival_lingers s source m)
    have queued := counted.backlog_dispatch (handle_eq_ok hstep).1
    rw [countArrival_eq] at queued
    rw [lateIn_of_ended h.ended]
    exact queued
  | stealTick =>
    rw [Server.step, onStealTick, trySteal_of_ended h.ended] at hstep
    cases hstep
    rfl
  | idleTick =>
    rw [Server.step, onIdleTick_of_ended h.ended] at hstep
    cases hstep
    rfl

/-! ## Every run -/

variable {t : Traffic} {turns : List Turn} {past : List (Server × Input × Server)}

/-- What a server has taken up so far is handed out, passed on, discarded, queued or lost. -/
def Balanced (s : Server) (t : Traffic) (past : List (Server × Input × Server)) : Prop :=
  (past.flatMap takenUp).length =
    (workIn (t.sent ++ s.outbox)).length + (carriedIn (t.sent ++ s.outbox)).length +
      s.finish.unitsDiscarded + s.backlog.units.length + (past.flatMap lostIn).length

theorem balanced_new {settings : Settings} {r : Rank}
    (hnew : Server.new r settings = .ok (.ok s)) : Balanced s {} [] := by
  obtain ⟨isServer, -, hnew⟩ := bind_eq_ok hnew
  split at hnew <;> cases hnew
  rfl

theorem Balanced.step (h : Balanced s t past) (hstep : s.step input = .ok (s', flow)) :
    Balanced s' { t with handled := t.handled ++ input.messages } (past ++ [(s, input, s')]) := by
  have balance := step_balance hstep
  have discarded : s'.finish.unitsDiscarded = s.finish.unitsDiscarded + (s.drained s').length :=
    discarded_step hstep
  simp only [Balanced, stockSize, List.flatMap_append, List.flatMap_singleton, workIn_append,
    carriedIn_append, List.length_append] at h balance ⊢
  omega

theorem Balanced.passOn (h : Balanced s t past) :
    Balanced s.takeOutbox.1 { t with sent := t.sent ++ s.takeOutbox.2 } past := by
  rw [Balanced] at h ⊢
  show _ = (workIn (t.sent ++ s.outbox ++ [])).length +
    (carriedIn (t.sent ++ s.outbox ++ [])).length + _ + _ + _
  rw [List.append_nil]
  exact h

/-- The late units of a run, and what is queued of them. -/
structure Lags (settings : Settings) (s : Server) (past : List (Server × Input × Server)) :
    Prop where
  topology : s.topology = settings.topology
  capacity : s.backlog.capacity = settings.maxQueuedUnits.toNat
  stopped : s.isShuttingDown = true → Stopped s
  /-- nothing comes late to a server that serves -/
  early : s.isShuttingDown = false → past.flatMap lateIn = []
  /-- what comes late is added to a backlog that was emptied -/
  queued : s.isShuttingDown = true → ∃ b : Backlog,
    b.capacity = settings.maxQueuedUnits.toNat ∧ s.backlog =
      b.drain.2.pushAll ((past.flatMap lateIn).map (WorkUnit.settled settings.topology))

theorem lags_new {settings : Settings} {r : Rank} (hnew : Server.new r settings = .ok (.ok s)) :
    Lags settings s [] := by
  obtain ⟨isServer, -, hnew⟩ := bind_eq_ok hnew
  split at hnew <;> cases hnew
  exact ⟨rfl, rfl, fun ended => (nomatch ended), fun _ => rfl, fun ended => (nomatch ended)⟩

/-- **One step** keeps it. If the server stops with the step, all that was queued is dropped. -/
theorem Lags.step {settings : Settings} (h : Lags settings s past)
    (hstep : s.step input = .ok (s', flow)) : Lags settings s' (past ++ [(s, input, s')]) := by
  obtain ⟨ins, refused, does⟩ := step_does hstep
  have late : (past ++ [(s, input, s')]).flatMap lateIn =
      past.flatMap lateIn ++ lateIn (s, input, s') := by
    rw [List.flatMap_append, List.flatMap_singleton]
  refine ⟨?_, ?_, stopped_of_step h.stopped hstep, fun running' => ?_, fun ended' => ?_⟩
  · rw [does.steady.topology, (arrived_same s input).2, h.topology]
  · rw [does.capacity, (arrived_eq s input).1, h.capacity]
  · rcases step_goes_or_halts hstep with ⟨phase, -⟩ | halts
    · have running : s.isShuttingDown = false := by rwa [isShuttingDown, phase] at running'
      rw [late, h.early running, lateIn_of_running running, List.append_nil]
    · rw [isShuttingDown, halts.ended] at running'
      cases running'
  rw [late]
  cases ended : s.isShuttingDown with
  | true =>
    obtain ⟨b, capacity, queued⟩ := h.queued ended
    refine ⟨b, capacity, ?_⟩
    rw [(h.stopped ended).backlog_step hstep, queued, h.topology, List.map_append,
      Backlog.pushAll_append]
  | false =>
    refine ⟨s.backlog, h.capacity, ?_⟩
    rw [h.early ended, lateIn_of_running ended]
    rcases step_goes_or_halts hstep with ⟨phase, -⟩ | halts
    · rw [isShuttingDown, phase] at ended'
      cases ended.symm.trans ended'
    · exact halts.backlog

theorem Lags.passOn {settings : Settings} (h : Lags settings s past) :
    Lags settings s.takeOutbox.1 past where
  topology := h.topology
  capacity := h.capacity
  stopped ended := ⟨ended, (h.stopped ended).parked, (h.stopped ended).waits⟩
  early := h.early
  queued := h.queued

/-- What is queued once a server shuts down is what came late, as far as there is room. -/
theorem Lags.backlog_perm {settings : Settings} (h : Lags settings s past)
    (ended : s.isShuttingDown = true) :
    s.backlog.units.Perm (((past.flatMap lateIn).map (WorkUnit.settled settings.topology)).take
      settings.maxQueuedUnits.toNat) := by
  obtain ⟨b, capacity, queued⟩ := h.queued ended
  rw [queued, ← capacity]
  exact Backlog.pushAll_perm (b := b.drain.2) rfl _

/-- **What a server discards, and what it leaves behind.** Of a new server, whatever has happened
to it since,

* the units that it has taken up are as many as those that it has handed to workers, has passed on,
  has discarded, has queued, and has lost for want of room;
* once it shuts down, what it has queued are the units that came late, as many as there is room for;
* so it has then discarded all that it took up and neither handed out nor passed on exactly if
  nothing is queued, and nothing was lost. -/
theorem discarded_but_for_late {settings : Settings} {r : Rank}
    (hnew : Server.new r settings = .ok (.ok s₀)) (turns : List Turn)
    (hserve : s₀.serve {} turns = .ok (s, t)) :
    let taken := (s₀.steps turns).flatMap takenUp
    let lost := (s₀.steps turns).flatMap lostIn
    let late := (s₀.steps turns).flatMap lateIn
    let handed := workIn (t.sent ++ s.outbox)
    let passed := carriedIn (t.sent ++ s.outbox)
    taken.length = handed.length + passed.length + s.finish.unitsDiscarded +
      s.backlog.units.length + lost.length ∧
    (s.isShuttingDown = true →
      s.backlog.units.Perm
        ((late.map (WorkUnit.settled settings.topology)).take settings.maxQueuedUnits.toNat) ∧
      (s.finish.unitsDiscarded + handed.length + passed.length = taken.length ↔
        s.backlog.units = [] ∧ lost = [])) := by
  intro taken lost late handed passed
  obtain ⟨balanced, lags⟩ := steps_induction
    (P := fun s t past => Balanced s t past ∧ Lags settings s past)
    (fun _ _ _ _ _ _ h hstep => ⟨h.1.step hstep, h.2.step hstep⟩)
    (fun _ _ _ h => ⟨h.1.passOn, h.2.passOn⟩) ⟨balanced_new hnew, lags_new hnew⟩ hserve
  have balance : taken.length = handed.length + passed.length + s.finish.unitsDiscarded +
    s.backlog.units.length + lost.length := balanced
  refine ⟨balance, fun ended => ⟨lags.backlog_perm ended, ?_⟩⟩
  rw [balance, ← List.length_eq_zero_iff, ← List.length_eq_zero_iff]
  omega

/-- A shutdown, then a unit from a peer that does not know of it, and the worker leaves. -/
def unitAfterShutdown : List Turn :=
  [.step (.message 3 .shutdown), .step (.message 5 (.forwardPut ⟨[9], some 1, 2, 1, 0⟩)),
    .step (.message 1 (.request 1 .finalize))]

/-- The unit is left in the backlog when the server may leave, and is not counted as discarded. -/
theorem discarded_but_for_late_unit : ∃ s₀ s t,
    Server.new 4 { servers := 3, workers := 3, workTypes := [0, 1] } = .ok (.ok s₀) ∧
    s₀.serve {} unitAfterShutdown = .ok (s, t) ∧ s.exitCheck = .exit ∧
    s.backlog.units = [⟨[9], some 1, 2, 1, 0⟩] ∧ s.finish.unitsDiscarded = 0 ∧
    workIn (t.sent ++ s.outbox) = [] ∧ carriedIn (t.sent ++ s.outbox) = [] ∧
    ((s₀.steps unitAfterShutdown).flatMap takenUp).length ≠ 0 := by
  obtain ⟨s₀, hnew⟩ : ∃ s₀, Server.new 4 { servers := 3, workers := 3, workTypes := [0, 1] } =
    .ok (.ok s₀) := ⟨_, rfl⟩
  have ran : (do
      let made ← Server.new 4 { servers := 3, workers := 3, workTypes := [0, 1] }
      let s₀ ← made.mapError fun _ => Fault.addOverflow
      let p ← s₀.serve {} unitAfterShutdown
      return decide (p.1.isShuttingDown = true ∧ p.1.exitCheck = .exit ∧
        p.1.backlog.units = [WorkUnit.mk [9] (some 1) 2 1 0] ∧ p.1.finish.unitsDiscarded = 0 ∧
        workIn (p.2.sent ++ p.1.outbox) = [] ∧ carriedIn (p.2.sent ++ p.1.outbox) = []) :
      Except Fault Bool) = .ok true := by decide +kernel
  rw [hnew] at ran
  obtain ⟨_, ⟨⟩, ran⟩ := bind_eq_ok ran
  obtain ⟨_, ⟨⟩, ran⟩ := bind_eq_ok ran
  obtain ⟨⟨s, t⟩, hserve, ran⟩ := bind_eq_ok ran
  obtain ⟨ended, leaves, queued, discarded, handed, passed⟩ :=
    of_decide_eq_true (Except.ok.inj ran)
  obtain ⟨-, counts⟩ := discarded_but_for_late hnew unitAfterShutdown hserve
  refine ⟨s₀, s, t, hnew, hserve, leaves, queued, discarded, handed, passed, fun none => ?_⟩
  obtain ⟨empty, -⟩ := (counts ended).2.1 (by rw [discarded, handed, passed, none]; rfl)
  rw [queued] at empty
  cases empty

end Server

end WorkPool
