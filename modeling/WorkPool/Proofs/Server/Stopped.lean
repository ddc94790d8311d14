import WorkPool.Proofs.Server.Answers
import WorkPool.Proofs.Server.Deeds

/-!
# Stopped servers

A server that stops serving answers all that it has parked and drops its waits. It is then there
until its workers have left, while messages of those that still run keep arriving: requests of
workers, members to be stored, units, requests of peers, reports. Main statement: a server that
has **stopped** lets its workers go and does nothing else of consequence.

`Lingers` says what becomes of a stopped server while it handles messages. It is proved of each
message and tick (`Stopped.step`) and of every run (`Stopped.serve`). That a server which shuts
down has stopped is shown along its run, from the one step that ends it (`step_drops`).
-/

namespace WorkPool

/-! ## Requests and answers at the end of a run -/

namespace Message

/-- Whether a message hands out work, or calls on another server to do something. -/
def isCall : Message → Bool
  | .response _ (.granted (.work _)) | .stealRequest .. | .idleQuery _ | .shutdown => true
  | _ => false

/-- The tag of a request, and whether it asks for anything but to leave. -/
def asksMore? : Message → Option (UInt64 × Bool)
  | .request tag body => some (tag, decide (body ≠ .finalize))
  | _ => none

/-- The tag of the request that a message answers, and whether it tells that the run is over. -/
def tellsEnd? : Message → Option (UInt64 × Bool)
  | .response tag body => some (tag, decide (body = .refused Error.shutdown.refusal))
  | _ => none

end Message

/-- The requests among some messages, in order: sender, tag, and whether they ask for anything but
to leave. -/
def partingRequests (messages : List (Rank × Message)) : List (Rank × UInt64 × Bool) :=
  messages.filterMap fun p => p.2.asksMore?.map fun asked => (p.1, asked)

/-- The answers among some messages, in order: receiver, tag, and whether they tell that the run is
over. -/
def partingAnswers (messages : List (Rank × Message)) : List (Rank × UInt64 × Bool) :=
  messages.filterMap fun p => p.2.tellsEnd?.map fun told => (p.1, told)

@[simp] theorem partingRequests_append (a b : List (Rank × Message)) :
    partingRequests (a ++ b) = partingRequests a ++ partingRequests b := List.filterMap_append

@[simp] theorem partingAnswers_append (a b : List (Rank × Message)) :
    partingAnswers (a ++ b) = partingAnswers a ++ partingAnswers b := List.filterMap_append

namespace Server

variable {s s₁ s' : Server} {source : Rank} {tag : UInt64} {m : Message}
  {asked asked' : List (Rank × UInt64 × Bool)} {new new' : List (Rank × Message)}

/-! ## What a stopped server does -/

/-- A server that has stopped serving: nothing is parked, and nobody waits for its data. -/
structure Stopped (s : Server) : Prop where
  ended : s.isShuttingDown = true
  parked : s.parked = 0
  waits : s.shard.subscriptions = []

/-- What becomes of a stopped server while it handles messages, with the requests among them and
with what it sends. -/
structure Lingers (s : Server) (asked : List (Rank × UInt64 × Bool)) (new : List (Rank × Message))
    (s' : Server) : Prop where
  phase : s'.phase = s.phase
  waiting : s'.waiting = s.waiting
  shard : s'.shard = s.shard
  /-- a worker stays what it is, or leaves -/
  workers : ∀ x, s'.workers.find? x = s.workers.find? x ∨
    s.workers.contains x = true ∧ s'.workers.find? x = some .finalized
  /-- no work is handed out, and nobody is called on -/
  calls : ∀ p ∈ new, p.2.isCall = false
  /-- requests are answered in order, and refused unless they are to leave -/
  told : partingAnswers new = asked

theorem Lingers.refl (s : Server) : Lingers s [] [] s where
  phase := rfl
  waiting := rfl
  shard := rfl
  workers _ := .inl rfl
  calls _ hp := nomatch hp
  told := rfl

/-- What is asked and what is said adds up. -/
theorem Lingers.trans (h : Lingers s asked new s₁) (h' : Lingers s₁ asked' new' s') :
    Lingers s (asked ++ asked') (new ++ new') s' where
  phase := h'.phase.trans h.phase
  waiting := h'.waiting.trans h.waiting
  shard := h'.shard.trans h.shard
  workers x := by
    rcases h'.workers x with same | ⟨attached, left⟩
    · rw [same]
      exact h.workers x
    rcases h.workers x with same | ⟨attached, -⟩
    · refine .inr ⟨?_, left⟩
      rwa [Table.contains, same] at attached
    · exact .inr ⟨attached, left⟩
  calls p hp := (List.mem_append.1 hp).elim (h.calls p) (h'.calls p)
  told := by rw [partingAnswers_append, h.told, h'.told]

/-- A server that has stopped stays so. -/
theorem Stopped.lingers (h : Stopped s) (h' : Lingers s asked new s') : Stopped s' where
  ended := by
    rw [isShuttingDown, h'.phase]
    exact h.ended
  parked := by
    rw [Server.parked, h'.waiting]
    exact h.parked
  waits := by
    rw [h'.shard]
    exact h.waits

/-- A message that calls nobody. -/
theorem lingers_send (s : Server) (dest : Rank) (call : m.isCall = false)
    (told : partingAnswers [(dest, m)] = asked) : Lingers s asked [(dest, m)] (s.send dest m) := by
  refine { Lingers.refl s with calls := fun p hp => ?_, told := told }
  rw [List.mem_singleton.1 hp]
  exact call

/-! ## Units -/

/-- No request waits for a unit. -/
theorem Stopped.unmatched (h : Stopped s) (u : WorkUnit) : s.waiting.takeMatch u = none := by
  cases matched : s.waiting.takeMatch u with
  | none => rfl
  | some found =>
    obtain ⟨p, waiting⟩ := found
    have taken : s.parked = p ::ₘ Multiset.ofList waiting.all :=
      Multiset.coe_eq_coe.2 (WaitingList.takeMatch_some matched)
    rw [h.parked] at taken
    exact absurd taken.symm Multiset.cons_ne_zero

/-- With nothing parked, a unit is queued or passed on. -/
theorem Stopped.accept (h : Stopped s) (u : WorkUnit) :
    ∃ new, (s.accept u).outbox = s.outbox ++ new ∧ new.length ≤ 1 ∧
      Lingers s [] new (s.accept u) := by
  cases held : s.holds u with
  | true =>
    rw [Server.accept, submit_held held, place, h.unmatched]
    exact ⟨[], (List.append_nil _).symm, Nat.zero_le _, { Lingers.refl s with }⟩
  | false =>
    obtain ⟨stats, dest, -, e⟩ := submit_forwarded held
    rw [Server.accept, e]
    have noted : Lingers s [] [] { s with stats } := { Lingers.refl s with }
    exact ⟨[(dest, .forwardPut u)], rfl, Nat.le_refl _, noted.trans (lingers_send _ dest rfl rfl)⟩

/-- **Units for a stopped server**: nobody is handed any, and at most one message is sent for each.
-/
theorem Stopped.acceptAll (h : Stopped s) (units : List WorkUnit) :
    ∃ new, (units.foldl Server.accept s).outbox = s.outbox ++ new ∧ new.length ≤ units.length ∧
      Lingers s [] new (units.foldl Server.accept s) := by
  induction units generalizing s with
  | nil => exact ⟨[], (List.append_nil _).symm, Nat.le_refl _, .refl s⟩
  | cons u units ih =>
    obtain ⟨new, outbox, short, first⟩ := h.accept u
    obtain ⟨new', outbox', short', later⟩ := ih (h.lingers first)
    refine ⟨new ++ new', ?_, ?_, first.trans later⟩
    · rw [List.foldl_cons, outbox', outbox, List.append_assoc]
    · rw [List.length_append, List.length_cons]
      omega

/-! ## Messages and ticks -/

/-- A run ends once. -/
theorem beginShutdown_of_ended (ended : s.isShuttingDown = true) : s.beginShutdown = s :=
  if_pos ended

/-- The master does not begin the end a second time. -/
theorem initiateShutdown_of_ended (ended : s.isShuttingDown = true) : s.initiateShutdown = s :=
  if_pos ended

/-- A report after the end means nothing. -/
theorem onIdleReply_of_ended {round : UInt64} {report : IdleReport}
    (ended : s.isShuttingDown = true) : s.onIdleReply source round report = .ok s := by
  rw [onIdleReply, ended, Bool.not_true, Bool.and_false]
  rfl

/-- Nobody looks for work after the end. -/
theorem trySteal_of_ended (ended : s.isShuttingDown = true) : s.trySteal = s := by
  rw [trySteal, ended]
  rfl

/-- No vote is opened after the end; the server only checks whether it may leave. -/
theorem onIdleTick_of_ended (ended : s.isShuttingDown = true) :
    s.onIdleTick = .ok (s, s.exitCheck) := by
  rw [onIdleTick, ended]
  simp only [Bool.not_true, Bool.and_false, Bool.false_and]
  rfl

/-- **A worker that leaves** is answered, also after the end. -/
theorem onFinalize_lingers (s : Server) (source : Rank) (tag : UInt64) :
    ∃ answer, (s.onFinalize source tag).outbox = s.outbox ++ [(source, .response tag answer)] ∧
      Lingers s [(source, tag, false)] [(source, .response tag answer)]
        (s.onFinalize source tag) := by
  unfold onFinalize
  split
  · rename_i attached
    have left : Lingers s [] [] (s.setWorker source .finalized) := by
      refine { Lingers.refl s with workers := fun x => ?_ }
      by_cases hx : x = source
      · rw [hx]
        exact .inr ⟨attached, Table.find?_insert_self ..⟩
      · exact .inl (Table.find?_insert_ne s.workers hx _)
    exact ⟨_, rfl, left.trans (lingers_send _ source rfl rfl)⟩
  · exact ⟨_, rfl, lingers_send s source rfl rfl⟩

/-- A stopped server lets a worker leave, and refuses everything else. -/
theorem onRequest_lingers {body : Request} (ended : s.isShuttingDown = true)
    (h : s.onRequest source tag body = .ok s') :
    ∃ answer, s'.outbox = s.outbox ++ [(source, .response tag answer)] ∧
      Lingers s [(source, tag, decide (body ≠ .finalize))] [(source, .response tag answer)] s' := by
  rw [onRequest, if_pos ended] at h
  cases h
  split
  · rename_i leaves
    rw [decide_eq_false (not_not_intro leaves)]
    exact onFinalize_lingers s source tag
  · rename_i asks
    rw [decide_eq_true asks]
    exact ⟨_, rfl, lingers_send s source rfl rfl⟩

/-- **A message to a stopped server.** There is nothing left to share with a peer. -/
theorem Stopped.dispatch (h : Stopped s) (hd : s.dispatch source m = .ok s') :
    ∃ new, s'.outbox = s.outbox ++ new ∧ new.length ≤ m.carried.length + 1 ∧
      Lingers s (partingRequests [(source, m)]) new s' := by
  have nothing : s.outbox = s.outbox ++ [] := (List.append_nil _).symm
  cases m with
  | request tag body =>
    obtain ⟨answer, outbox, lingers⟩ := onRequest_lingers h.ended hd
    exact ⟨_, outbox, Nat.le_refl _, lingers⟩
  | response | abort =>
    cases hd
    exact ⟨[], nothing, Nat.zero_le _, .refl s⟩
  | forwardPut u =>
    cases hd
    obtain ⟨new, outbox, short, lingers⟩ := h.accept u
    exact ⟨new, outbox, Nat.le_succ_of_le short, lingers⟩
  | stealRequest wanted load =>
    cases hd
    have shared (peers : Peers) (backlog : Backlog) (stats : ServerStats) :
        Lingers s [] [] { s with peers, backlog, stats } := { Lingers.refl s with }
    exact ⟨_, rfl, Nat.le_refl _, (shared _ _ _).trans (lingers_send _ source rfl rfl)⟩
  | stealResponse units load =>
    cases hd
    have noted (peers : Peers) (stats : ServerStats) : Lingers s [] [] { s with peers, stats } :=
      { Lingers.refl s with }
    obtain ⟨new, outbox, short, lingers⟩ := (h.lingers (noted _ _)).acceptAll units
    exact ⟨new, outbox, Nat.le_succ_of_le short, (noted _ _).trans lingers⟩
  | idleQuery round =>
    cases hd
    exact ⟨_, rfl, Nat.le_refl _, lingers_send s source rfl rfl⟩
  | idleReply round report =>
    cases (onIdleReply_of_ended h.ended).symm.trans hd
    exact ⟨[], nothing, Nat.zero_le _, .refl s⟩
  | shutdown =>
    rw [Server.dispatch, beginShutdown_of_ended h.ended] at hd
    cases hd
    exact ⟨[], nothing, Nat.zero_le _, .refl s⟩
  | shutdownRequested =>
    rw [Server.dispatch, initiateShutdown_of_ended h.ended, ite_self] at hd
    cases hd
    exact ⟨[], nothing, Nat.zero_le _, .refl s⟩

/-- A message is counted, also after the end. -/
theorem countArrival_lingers (s : Server) (source : Rank) (m : Message) :
    Lingers s [] [] (s.countArrival source m) := by
  rw [countArrival_eq]
  exact { Lingers.refl s with }

variable {input : Input} {flow : Flow}

/-- **A step of a stopped server.** -/
theorem Stopped.step (h : Stopped s) (hstep : s.step input = .ok (s', flow)) :
    ∃ new, s'.outbox = s.outbox ++ new ∧ Lingers s (partingRequests input.messages) new s' := by
  cases input with
  | message source m =>
    have counted := countArrival_lingers s source m
    obtain ⟨new, outbox, -, lingers⟩ := (h.lingers counted).dispatch (handle_eq_ok hstep).1
    rw [outbox_countArrival] at outbox
    exact ⟨new, outbox, counted.trans lingers⟩
  | stealTick =>
    rw [Server.step, onStealTick, trySteal_of_ended h.ended] at hstep
    cases hstep
    exact ⟨[], (List.append_nil _).symm, .refl s⟩
  | idleTick =>
    rw [Server.step, onIdleTick_of_ended h.ended] at hstep
    cases hstep
    exact ⟨[], (List.append_nil _).symm, .refl s⟩

/-! ## Steps return -/

/-- There is room in the counts of a server for what a message can add to them. -/
structure Ample (s : Server) (m : Message) : Prop where
  activity : s.activity + 1 < Checked.wordSize
  sent : s.sent + (m.carried.length + 1) < Checked.wordSize
  received : s.received + 1 < Checked.wordSize

/-- **Every message returns** after the end. -/
theorem dispatch_of_ended (ended : s.isShuttingDown = true) (source : Rank) (m : Message) :
    ∃ s', s.dispatch source m = .ok s' := by
  cases m with
  | request tag body =>
    rw [dispatch, onRequest, if_pos ended]
    exact ⟨_, rfl⟩
  | idleReply round report => exact ⟨s, onIdleReply_of_ended ended⟩
  | _ => exact ⟨_, rfl⟩

/-- What a stopped server sends for one message hardly adds to its counts. -/
theorem Stopped.fits (h : Stopped s) (ample : s.Ample m)
    (hd : (s.countArrival source m).dispatch source m = .ok s') : s'.Fits := by
  have counted := countArrival_lingers s source m
  obtain ⟨new, outbox, short, -⟩ := (h.lingers counted).dispatch hd
  have steady := (dispatch_does hd).steady
  have few : countedIn s.topology new ≤ m.carried.length + 1 :=
    List.countP_le_length.trans short
  have one (c : Prop) [Decidable c] : (if c then 1 else 0) ≤ 1 := by split <;> omega
  refine ⟨?_, ?_, ?_⟩
  · rw [steady.activity, activity_countArrival]
    exact Nat.lt_of_le_of_lt (Nat.add_le_add_left (one _) _) ample.activity
  · have sent := steady.sent
    rw [outbox, countedIn_append, topology_countArrival, sent_countArrival] at sent
    have := ample.sent
    omega
  · rw [steady.received, received_countArrival]
    exact Nat.lt_of_le_of_lt (Nat.add_le_add_left (one _) _) ample.received

/-- A message to a stopped server is handled, unless a count runs out of its word. -/
theorem Stopped.handle (h : Stopped s) (source : Rank) (going : ∀ code, m ≠ .abort code) :
    (∃ s', s.handle source m = .ok (s', s'.exitCheck)) ∨
      s.handle source m = .error .addOverflow ∧ ¬ s.Ample m := by
  have counted := h.lingers (countArrival_lingers s source m)
  obtain ⟨s', hd⟩ := dispatch_of_ended counted.ended source m
  unfold Server.handle
  rw [hd]
  by_cases fits : s'.Fits
  · refine .inl ⟨s', ?_⟩
    have passed : s'.checkCounts = .ok s' := if_pos ⟨fits.activity, fits.sent, fits.received⟩
    show s'.checkCounts >>= _ = _
    rw [passed]
    cases m with
    | abort code => exact absurd rfl (going code)
    | _ => rfl
  · refine .inr ⟨?_, fun ample => fits (h.fits ample hd)⟩
    have failed : s'.checkCounts = .error .addOverflow :=
      if_neg fun fits' => fits ⟨fits'.1, fits'.2.1, fits'.2.2⟩
    show s'.checkCounts >>= _ = _
    rw [failed]
    rfl

/-- A server that shuts down leaves when all its workers have left, and otherwise goes on. -/
theorem exitCheck_of_ended (ended : s.isShuttingDown = true) :
    (s.exitCheck = .exit ↔ ∀ state ∈ s.workers.values, state = .finalized) ∧
      (s.exitCheck = .exit ∨ s.exitCheck = .proceed) := by
  simp only [exitCheck, ended, Bool.true_and, List.all_eq_true, beq_iff_eq]
  split
  · rename_i left
    exact ⟨iff_of_true rfl left, .inl rfl⟩
  · rename_i there
    exact ⟨iff_of_false nofun there, .inr rfl⟩

/-! ## Stopping -/

/-- A server is in the phase that it was in, or has dropped its waits. -/
def Drops (s s' : Server) : Prop := s'.phase = s.phase ∨ s'.shard.subscriptions = []

/-- A server that stops drops all waits. -/
theorem beginShutdown_drops (s : Server) : Drops s s.beginShutdown := by
  unfold beginShutdown
  split
  · exact .inl rfl
  · exact .inr rfl

/-- The master drops all waits when it begins the end. -/
theorem initiateShutdown_drops (s : Server) : Drops s s.initiateShutdown := by
  unfold initiateShutdown
  split
  · exact .inl rfl
  · rw [sendAll_eq rfl]
    exact beginShutdown_drops _

/-- A verdict may bring the end. -/
theorem actOn_drops (s : Server) (verdict : Option Verdict) : Drops s (s.actOn verdict) := by
  unfold actOn
  split
  · exact initiateShutdown_drops s
  · exact .inl rfl

/-- A request may bring the end. -/
theorem onRequest_drops {body : Request} (h : s.onRequest source tag body = .ok s') :
    Drops s s' := by
  unfold onRequest at h
  split at h
  · cases h
    split
    · exact .inl (onFinalize_handled s source tag).phase
    · exact .inl rfl
  split at h
  · cases h
    exact .inl rfl
  obtain ⟨s₁, hs₁, h⟩ := bind_eq_ok h
  cases h
  obtain ⟨workers, e⟩ := noteBusy_eq s₁ source
  rw [e]
  cases body with
  | get type => cases hs₁; exact .inl (onGet_handled s source tag type).phase
  | put u => cases hs₁; exact .inl (onPut_handled s source tag u).phase
  | data op => exact .inl (onData_handled hs₁).phase
  | serverIdle => cases hs₁; exact .inl rfl
  | finalize => cases hs₁; exact .inl (onFinalize_handled s source tag).phase
  | serverShutdown =>
    cases hs₁
    unfold onServerShutdown
    split
    · exact initiateShutdown_drops s
    · exact .inl rfl

/-- **Every message** leaves the phase of a server, or makes it drop its waits. -/
theorem dispatch_drops (h : s.dispatch source m = .ok s') : Drops s s' := by
  cases m with
  | request tag body => exact onRequest_drops h
  | response | idleQuery | abort => cases h; exact .inl rfl
  | forwardPut u => cases h; exact .inl (accept_works s u).served.phase
  | stealRequest wanted load => cases h; exact .inl rfl
  | stealResponse units load =>
    cases h
    exact .inl (served_onStealResponse s source units load).phase
  | idleReply round report =>
    change s.onIdleReply source round report = .ok s' at h
    unfold onIdleReply at h
    split at h
    · obtain ⟨⟨votes, verdict⟩, -, h⟩ := bind_eq_ok h
      cases h
      exact actOn_drops _ verdict
    · cases h
      exact .inl rfl
  | shutdown => cases h; exact beginShutdown_drops s
  | shutdownRequested =>
    cases h
    split
    · exact initiateShutdown_drops s
    · exact .inl rfl

/-- A vote may bring the end. -/
theorem startVote_drops (h : s.startVote = .ok s') : Drops s s' := by
  obtain ⟨⟨votes, round⟩, -, h⟩ := bind_eq_ok h
  simp only at h
  split at h
  · obtain ⟨⟨votes', verdict⟩, -, h⟩ := bind_eq_ok h
    cases h
    exact actOn_drops _ verdict
  · cases h
    rw [sendAll_eq rfl]
    exact .inl rfl

/-- **A step that ends the run** for a server drops its waits. -/
theorem step_drops (h : s.step input = .ok (s', flow)) : Drops s s' := by
  cases input with
  | message source m =>
    have drops := dispatch_drops (handle_eq_ok h).1
    rwa [Drops, phase_countArrival] at drops
  | stealTick =>
    cases h
    exact .inl (served_trySteal s).phase
  | idleTick =>
    change s.onIdleTick = .ok (s', flow) at h
    unfold onIdleTick at h
    split at h
    · obtain ⟨s₁, hs₁, h⟩ := bind_eq_ok h
      cases h
      exact startVote_drops hs₁
    · cases h
      exact .inl rfl

/-- A server that shuts down has stopped, if it had before the step. -/
theorem stopped_of_step (h : s.isShuttingDown = true → Stopped s)
    (hstep : s.step input = .ok (s', flow)) (ended' : s'.isShuttingDown = true) : Stopped s' := by
  by_cases ended : s.isShuttingDown = true
  · obtain ⟨new, -, lingers⟩ := (h ended).step hstep
    exact (h ended).lingers lingers
  refine ⟨ended', (step_answers hstep).rests (fun e => absurd e ended) ended', ?_⟩
  rcases step_drops hstep with same | dropped
  · rw [isShuttingDown, same] at ended'
    exact absurd ended' ended
  · exact dropped

/-! ## Every run -/

variable {s₀ : Server} {t t' : Traffic} {next : Turn} {turns : List Turn}

/-- **Whoever has ended** has stopped, turn by turn. -/
theorem stopped_of_turn (h : s.isShuttingDown = true → Stopped s)
    (hturn : s.turn t next = .ok (s', t')) (ended : s'.isShuttingDown = true) : Stopped s' := by
  cases next with
  | step input =>
    obtain ⟨⟨s₁, flow⟩, hstep, hturn⟩ := bind_eq_ok hturn
    cases hturn
    exact stopped_of_step h hstep ended
  | passOn =>
    cases hturn
    exact ⟨ended, (h ended).parked, (h ended).waits⟩

/-- Whatever a new server has been through, if it shuts down, it has stopped. -/
theorem stopped_of_serve {rank : Rank} {settings : Settings}
    (hnew : Server.new rank settings = .ok (.ok s₀)) (hserve : s₀.serve {} turns = .ok (s, t))
    (ended : s.isShuttingDown = true) : Stopped s := by
  refine serve_induction (P := fun s _ => s.isShuttingDown = true → Stopped s)
    (fun _ _ _ _ _ => stopped_of_turn) ?_ hserve ended
  obtain ⟨isServer, -, hnew⟩ := bind_eq_ok hnew
  split at hnew
  · cases hnew
    exact nofun
  · cases hnew

/-- **One turn of a stopped server.** -/
theorem Stopped.turn (h : Stopped s) (hturn : s.turn t next = .ok (s', t')) :
    ∃ got new, t'.handled = t.handled ++ got ∧
      t'.sent ++ s'.outbox = t.sent ++ s.outbox ++ new ∧
      Lingers s (partingRequests got) new s' := by
  cases next with
  | step input =>
    obtain ⟨⟨s₁, flow⟩, hstep, hturn⟩ := bind_eq_ok hturn
    cases hturn
    obtain ⟨new, outbox, lingers⟩ := h.step hstep
    refine ⟨input.messages, new, rfl, ?_, lingers⟩
    show t.sent ++ s'.outbox = _
    rw [outbox, List.append_assoc]
  | passOn =>
    cases hturn
    refine ⟨[], [], (List.append_nil _).symm, ?_, { Lingers.refl s with }⟩
    show t.sent ++ s.outbox ++ [] = _
    rfl

/-- **A run of a stopped server.** -/
theorem Stopped.serve (h : Stopped s) (hserve : s.serve t turns = .ok (s', t')) :
    ∃ got new, t'.handled = t.handled ++ got ∧
      t'.sent ++ s'.outbox = t.sent ++ s.outbox ++ new ∧
      Lingers s (partingRequests got) new s' := by
  refine serve_induction (P := fun s' t' => ∃ got new, t'.handled = t.handled ++ got ∧
    t'.sent ++ s'.outbox = t.sent ++ s.outbox ++ new ∧ Lingers s (partingRequests got) new s') ?_
    ⟨[], [], (List.append_nil _).symm, (List.append_nil _).symm, .refl s⟩ hserve
  rintro s₁ t₁ next s₂ t₂ ⟨got, new, handled, sent, lingers⟩ hturn
  obtain ⟨got', new', handled', sent', lingers'⟩ := (h.lingers lingers).turn hturn
  refine ⟨got ++ got', new ++ new', ?_, ?_, ?_⟩
  · rw [handled', handled, List.append_assoc]
  · rw [sent', sent, List.append_assoc]
  · rw [partingRequests_append]
    exact lingers.trans lingers'

/-- **The end of a server is final.** If a new server, whatever it has been through, shuts down,
then after every later run

* it has stopped, with nothing parked and nobody waiting, and its data are what they were;
* it has handed out no work, and called on no server to share, to report or to stop;
* the requests that have come are answered in order, each once: those to leave as ever, and all
  others with the word that the run is over;
* its workers are what they were, or have left;
* whatever message or tick comes next, unless it breaks off the run, the step returns, or there is
  no room in the counts of the server; it leaves exactly if all its workers have left. -/
theorem stopped_stays_inert (rank : Rank) (settings : Settings)
    (hnew : Server.new rank settings = .ok (.ok s₀)) (turns : List Turn)
    (hserve : s₀.serve {} turns = .ok (s, t)) (ended : s.isShuttingDown = true)
    (later : List Turn) (hlater : s.serve t later = .ok (s', t')) :
    Stopped s' ∧
    (∃ got new, t'.handled = t.handled ++ got ∧
      t'.sent ++ s'.outbox = t.sent ++ s.outbox ++ new ∧ Lingers s (partingRequests got) new s') ∧
    ∀ input, (∀ source code, input ≠ .message source (.abort code)) →
      (∃ s'' flow, s'.step input = .ok (s'', flow) ∧
        (flow = .exit ↔ ∀ state ∈ s''.workers.values, state = .finalized) ∧
        (flow = .exit ∨ flow = .proceed)) ∨
      ∃ source m, input = .message source m ∧ s'.step input = .error .addOverflow ∧
        ¬ s'.Ample m := by
  have stopped := stopped_of_serve hnew hserve ended
  obtain ⟨got, new, handled, sent, lingers⟩ := stopped.serve hlater
  have stopped' := stopped.lingers lingers
  refine ⟨stopped', ⟨got, new, handled, sent, lingers⟩, fun input going => ?_⟩
  have leaves (s'' : Server) (hstep : s'.step input = .ok (s'', s''.exitCheck)) :
      ∃ s'' flow, s'.step input = .ok (s'', flow) ∧
        (flow = .exit ↔ ∀ state ∈ s''.workers.values, state = .finalized) ∧
        (flow = .exit ∨ flow = .proceed) := by
    obtain ⟨_, -, lingers'⟩ := stopped'.step hstep
    exact ⟨s'', _, hstep, exitCheck_of_ended (stopped'.lingers lingers').ended⟩
  cases input with
  | message source m =>
    have same (code : Int32) : m ≠ .abort code := fun e => going source code (e ▸ rfl)
    rcases stopped'.handle source same with ⟨s'', hstep⟩ | ⟨failed, ample⟩
    · exact .inl (leaves s'' hstep)
    · exact .inr ⟨source, m, rfl, failed, ample⟩
  | stealTick =>
    refine .inl (leaves s' ?_)
    rw [Server.step, onStealTick, trySteal_of_ended stopped'.ended]
    rfl
  | idleTick => exact .inl (leaves s' (onIdleTick_of_ended stopped'.ended))

/-- The run ends while a worker waits. -/
def endWhileWaiting : List Turn :=
  [.step (.message 0 (.request 7 (.get 0))), .step (.message 1 (.request 4 .serverShutdown))]

/-- A peer asks for units and passes one on; the worker asks for work once more, and leaves. -/
def lastMessages : List Turn :=
  [.step (.message 3 (.stealRequest [0] {})),
    .step (.message 3 (.forwardPut ⟨[5], none, 1, 0, 0⟩)), .passOn,
    .step (.message 0 (.request 8 (.get 0))), .step (.message 0 (.request 9 .finalize))]

/-- What the stopped server still says: it answers the peer, tells the worker of the end, and lets
it go. -/
theorem stopped_stays_inert_leaving : ∃ s₀ s t s' t',
    Server.new 2 { servers := 2, workers := 2, workTypes := [0] } = .ok (.ok s₀) ∧
    s₀.serve {} endWhileWaiting = .ok (s, t) ∧ s.isShuttingDown = true ∧
    s.serve t lastMessages = .ok (s', t') ∧
    partingAnswers (t'.sent ++ s'.outbox) =
      [(0, 7, true), (1, 4, false), (0, 8, true), (0, 9, false)] ∧
    s'.workers.values = [.finalized] ∧ Stopped s' ∧ s'.shard = s.shard ∧
    ∃ s'' flow, s'.step .idleTick = .ok (s'', flow) ∧
      (flow = .exit ↔ ∀ state ∈ s''.workers.values, state = .finalized) := by
  have ran : (do
      let made ← (Server.new 2 { servers := 2, workers := 2, workTypes := [0] }).toOption
      let s₀ ← made.toOption
      let first ← (s₀.serve {} endWhileWaiting).toOption
      let last ← (first.1.serve first.2 lastMessages).toOption
      return (first.1.isShuttingDown, partingAnswers (last.2.sent ++ last.1.outbox),
        last.1.workers.values)) =
      some (true, [(0, 7, true), (1, 4, false), (0, 8, true), (0, 9, false)], [.finalized]) := by
    decide +kernel
  obtain ⟨made, hmade, ran⟩ := Option.bind_eq_some_iff.1 ran
  obtain ⟨s₀, hs₀, ran⟩ := Option.bind_eq_some_iff.1 ran
  obtain ⟨⟨s, t⟩, hserve, ran⟩ := Option.bind_eq_some_iff.1 ran
  obtain ⟨⟨s', t'⟩, hlater, ran⟩ := Option.bind_eq_some_iff.1 ran
  have hnew : Server.new 2 { servers := 2, workers := 2, workTypes := [0] } = .ok (.ok s₀) := by
    rw [eq_ok_of_toOption hmade, eq_ok_of_toOption hs₀]
  have hserve := eq_ok_of_toOption hserve
  have hlater := eq_ok_of_toOption hlater
  obtain ⟨ended, facts⟩ := Prod.mk.inj (Option.some.inj ran)
  obtain ⟨told, left⟩ := Prod.mk.inj facts
  obtain ⟨stopped, ⟨got, new, -, -, lingers⟩, steps⟩ := stopped_stays_inert 2
    { servers := 2, workers := 2, workTypes := [0] } hnew endWhileWaiting hserve ended lastMessages
    hlater
  refine ⟨s₀, s, t, s', t', hnew, hserve, ended, hlater, told, left, stopped, lingers.shard, ?_⟩
  have going : ∀ source code, Input.idleTick ≠ .message source (.abort code) := by
    intro source code e
    cases e
  rcases steps .idleTick going with ⟨s'', flow, hstep, leaves, -⟩ | ⟨source, m, e, -⟩
  · exact ⟨s'', flow, hstep, leaves⟩
  · cases e

end Server

end WorkPool
