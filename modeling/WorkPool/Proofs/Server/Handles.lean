import WorkPool.Proofs.Server.Works

/-!
# Handles: what a server does with a message

`Handled` says what a server keeps and balances when it handles a message. Most messages are
work on units and data, which `Served` covers. A request is the one thing that makes a server
owe an answer: it is answered now, or parked.

`dispatch_handled` is the lemma for all messages but the reports of a vote, for which there is
`onIdleReply_cases`. Both have one alternative: the run has ended for the server (`Ends`).
-/

namespace WorkPool

namespace Message

/-- Whether a message is a request. -/
def isRequest : Message → Bool
  | .request .. => true
  | _ => false

/-- Whether a message is a request for work. -/
def isGet : Message → Bool
  | .request _ (.get _) => true
  | _ => false

/-- Whether a message is that of a worker that leaves. -/
def isFinalize : Message → Bool
  | .request _ .finalize => true
  | _ => false

end Message

namespace Server

variable {s s₁ s' : Server} {source : Rank} {m : Message}

/-- What a server may send when it handles a message. -/
def MaySend (s : Server) (source : Rank) (m : Message) (p : Rank × Message) : Prop :=
  match p.2 with
  | .shutdown | .idleQuery _ => False
  | .forwardPut _ | .request .. => s.topology.Errand p
  | .stealResponse .. => p.1 = source ∧ ∃ wanted load, m = .stealRequest wanted load
  | .idleReply round report => p.1 = source ∧ m = .idleQuery round ∧ report = s.idleReport
  | .response _ (.granted (.work _)) => 0 < s.parkedFor p.1 ∨ p.1 = source ∧ m.isGet = true
  | .response .. => p.1 = source ∧ m.isRequest = true
  | _ => True

/-- Answers go to those who ask for something now, or have asked for work. -/
theorem MaySend.response {dest : Rank} {tag : UInt64} {answer : Answer}
    (h : s.MaySend source m (dest, .response tag answer)) :
    0 < s.parkedFor dest ∨ dest = source := by
  cases answer with
  | refused => exact .inr h.1
  | granted reply =>
    cases reply with
    | work u => exact h.imp_right And.left
    | _ => exact .inr h.1

/-- What a server keeps, and what it balances, when it handles a message that has been
counted. -/
structure Handled (s : Server) (source : Rank) (m : Message) (s' : Server) : Prop where
  rank : s'.rank = s.rank
  topology : s'.topology = s.topology
  settings : s'.settings = s.settings
  phase : s'.phase = s.phase
  votes : s'.votes = s.votes
  activity : s'.activity = s.activity
  received : s'.received = s.received
  /-- attached workers stay attached -/
  attached : ∀ x, s.workers.contains x = true → s'.workers.contains x = true
  /-- the data stay sound -/
  sound : s.shard.Sound → s'.shard.Sound
  /-- the backlog knows its size -/
  counted : s.backlog.Counted → s'.backlog.Counted
  /-- what is sent is counted -/
  sent : s'.sent + countedIn s.topology s.outbox = s.sent + countedIn s.topology s'.outbox
  /-- one answer is owed for a request -/
  owed : ∀ x, s'.owed x ≤ s.owed x + if m.isRequest && source == x then 1 else 0
  /-- only a request for work is parked -/
  parked : ∀ x, s'.parkedFor x ≤ s.parkedFor x + if m.isGet && source == x then 1 else 0
  attends : s.Attends → s'.Attends
  /-- only a worker that leaves has left -/
  finalized : ∀ x, s'.workers.find? x = some .finalized →
    s.workers.find? x = some .finalized ∨ source = x ∧ m.isFinalize = true
  outbox : ∃ new, s'.outbox = s.outbox ++ new ∧ ∀ p ∈ new, MaySend s source m p

theorem maySend_of_errand {p : Rank × Message} (h : s.topology.Errand p) :
    MaySend s source m p := by
  obtain ⟨dest, sent⟩ := p
  cases sent with
  | forwardPut | request => exact h
  | stealRequest | shutdownRequested => trivial
  | _ => exact h.elim

theorem Served.handled (h : Served s s') (source : Rank) (m : Message) :
    Handled s source m s' where
  rank := h.rank
  topology := h.topology
  settings := h.settings
  phase := h.phase
  votes := h.votes
  activity := h.activity
  received := h.received
  attached := h.attached
  sound := h.sound
  counted := h.counted
  sent := h.sent
  owed x := by rw [h.owed x]; exact Nat.le_add_right _ _
  parked x := Nat.le_trans (h.parked x) (Nat.le_add_right _ _)
  attends := h.attends
  finalized x hx := .inl (h.finalized x hx)
  outbox := by
    obtain ⟨new, hnew, kinds⟩ := h.outbox
    refine ⟨new, hnew, fun p hp => ?_⟩
    rcases kinds p hp with errand | ⟨u, hu, waits⟩
    · exact maySend_of_errand errand
    · obtain ⟨tag, e⟩ := Message.eq_of_work? hu
      simp only [MaySend, e]
      exact .inl waits

/-! ## Requests -/

theorem owed_respond (s : Server) (dest : Rank) (tag : UInt64) (r : Except Error Reply) (x : Rank) :
    (s.respond dest tag r).owed x = s.owed x + if dest == x then 1 else 0 := by
  have one : answersTo x [(dest, .response tag (.ofResult r))] = if dest == x then 1 else 0 := by
    simp [answersTo, Message.isResponse, List.countP_singleton]
  simp only [owed, parkedFor, respond, send, answersTo_append, one]
  omega

/-- Answering a request, after some work. A unit is an answer to a request for work only. -/
theorem Served.respond (h : Served s s₁) (tag : UInt64) (body : Request)
    (r : Except Error Reply)
    (hwork : ∀ u, r = .ok (.work u) → (Message.request tag body).isGet = true) :
    Handled s source (.request tag body) (s₁.respond source tag r) := by
  have sent := sent_send s₁ source (.response tag (.ofResult r))
  refine { h.handled source (.request tag body) with sent := ?_, owed := ?_, outbox := ?_ }
  · have := h.sent
    rw [h.topology] at sent
    show (s₁.send source (.response tag (.ofResult r))).sent + _ = _ + countedIn _
      (s₁.send source (.response tag (.ofResult r))).outbox
    omega
  · intro x
    rw [owed_respond, h.owed x]
    exact Nat.le_refl _
  · obtain ⟨new, hnew, kinds⟩ := (h.handled source (.request tag body)).outbox
    refine ⟨new ++ [(source, .response tag (.ofResult r))], ?_, fun p hp => ?_⟩
    · rw [← List.append_assoc, ← hnew]
      rfl
    · rcases List.mem_append.1 hp with hp | hp
      · exact kinds p hp
      · rw [List.mem_singleton.1 hp]
        cases r with
        | error e => exact ⟨rfl, rfl⟩
        | ok reply =>
          cases reply with
          | work u => exact .inr ⟨rfl, hwork u rfl⟩
          | _ => exact ⟨rfl, rfl⟩

/-- Refusing a request. -/
theorem Served.refuse (h : Served s s₁) (tag : UInt64) (body : Request) (e : Error) :
    Handled s source (.request tag body) (s₁.respond source tag (.error e)) := by
  refine h.respond tag body _ fun u hu => ?_
  cases hu

/-- Parking a request for work. -/
theorem handled_park (s : Server) (tag : UInt64) (type : WorkType) (stats : ServerStats) :
    Handled s source (.request tag (.get type))
      ({ s with
        waiting := s.waiting.park ⟨source, tag, type⟩
        stats }.setWorker source .parked) := by
  have perm := WaitingList.park_perm s.waiting ⟨source, tag, type⟩
  have parked (x : Rank) : (s.waiting.park ⟨source, tag, type⟩).all.countP (fun p => p.rank == x) =
      s.parkedFor x + if source == x then 1 else 0 := by
    rw [perm.countP_eq, List.countP_cons]
    rfl
  refine { (Served.refl s).handled source (.request tag (.get type)) with
    attached := ?_, owed := ?_, parked := ?_, attends := ?_, finalized := ?_ }
  · intro x hx
    exact Table.contains_insert.2 (.inr hx)
  · intro x
    have := parked x
    simp only [owed, parkedFor, setWorker, Message.isRequest, Bool.true_and] at this ⊢
    omega
  · intro x
    exact Nat.le_of_eq (parked x)
  · intro ha x hx
    show 0 < (s.waiting.park ⟨source, tag, type⟩).all.countP fun p => p.rank == x
    rw [parked x]
    by_cases hs : x = source
    · rw [hs, beq_self_eq_true]
      exact Nat.succ_pos _
    · have := ha x ((Table.find?_insert_ne s.workers hs .parked).symm.trans hx)
      omega
  · intro x hx
    by_cases hs : x = source
    · rw [hs] at hx
      simp [setWorker] at hx
    · exact .inl ((Table.find?_insert_ne s.workers hs .parked).symm.trans hx)

/-- Work after a message was handled. -/
theorem Handled.served (h : Handled s source m s₁) (h' : Served s₁ s') :
    Handled s source m s' where
  rank := h'.rank.trans h.rank
  topology := h'.topology.trans h.topology
  settings := h'.settings.trans h.settings
  phase := h'.phase.trans h.phase
  votes := h'.votes.trans h.votes
  activity := h'.activity.trans h.activity
  received := h'.received.trans h.received
  attached x hx := h'.attached x (h.attached x hx)
  sound hs := h'.sound (h.sound hs)
  counted hc := h'.counted (h.counted hc)
  sent := by
    have first := h.sent
    have later := h'.sent
    rw [h.topology] at later
    omega
  owed x := by rw [h'.owed x]; exact h.owed x
  parked x := Nat.le_trans (h'.parked x) (h.parked x)
  attends ha := h'.attends (h.attends ha)
  finalized x hx := h.finalized x (h'.finalized x hx)
  outbox := by
    obtain ⟨new, hnew, kinds⟩ := h.outbox
    obtain ⟨new', hnew', kinds'⟩ := h'.outbox
    refine ⟨new ++ new', by rw [hnew', hnew, List.append_assoc], fun p hp => ?_⟩
    rcases List.mem_append.1 hp with hp | hp
    · exact kinds p hp
    rcases kinds' p hp with errand | ⟨u, hu, waits⟩
    · exact maySend_of_errand (h.topology ▸ errand)
    · obtain ⟨tag, e⟩ := Message.eq_of_work? hu
      simp only [MaySend, e]
      have bound := h.parked p.1
      cases hget : m.isGet && source == p.1 with
      | true =>
        simp only [Bool.and_eq_true, beq_iff_eq] at hget
        exact .inr ⟨hget.2.symm, hget.1⟩
      | false =>
        rw [hget, if_neg Bool.false_ne_true] at bound
        exact .inl (by omega)

theorem served_trySteal (s : Server) : Served s s.trySteal := by
  unfold trySteal
  split
  · exact .refl s
  split
  · exact .refl s
  · rename_i victim peers _
    exact (served_note s s.shard peers s.nextTag s.stats id).trans (served_send _ victim trivial)

theorem onGet_handled (s : Server) (source : Rank) (tag : UInt64) (type : WorkType) :
    Handled s source (.request tag (.get type)) (s.onGet source tag type) := by
  unfold onGet
  split
  · exact (Served.refl s).refuse tag _ _
  split
  · exact (Served.refl s).refuse tag _ _
  split
  · rename_i u backlog hpop
    have popped (stats : ServerStats) : Served s { s with backlog, stats } :=
      { Served.refl s with counted := fun hc => hc.popFor hpop }
    exact (popped _).respond tag _ _ fun _ _ => rfl
  · exact (handled_park s tag type _).served (served_trySteal _)

theorem onPut_handled (s : Server) (source : Rank) (tag : UInt64) (u : WorkUnit) :
    Handled s source (.request tag (.put u)) (s.onPut source tag u) := by
  unfold onPut
  split
  · exact (Served.refl s).refuse tag _ _
  · have noted (stats : ServerStats) : Served s { s with stats } :=
      served_note s s.shard s.peers s.nextTag stats id
    refine ((noted _).trans (submit_works _ u).1.served).respond tag _ _ fun v hv => ?_
    obtain ⟨_, -, e⟩ := map_eq_ok hv
    cases e

theorem onData_handled {tag : UInt64} {op : Operation} (h : s.onData source tag op = .ok s') :
    Handled s source (.request tag (.data op)) s' := by
  obtain ⟨o, ho, h⟩ := bind_eq_ok h
  obtain ⟨s₁, hs₁, h⟩ := bind_eq_ok h
  cases h
  obtain ⟨⟨s₂, more⟩, hs₂, hs₁⟩ := bind_eq_ok hs₁
  cases hs₁
  have performed : Served s { s with shard := o.shard } := by
    refine served_note s o.shard s.peers s.nextTag s.stats fun hs => ?_
    have fires := Shard.perform_fires hs.waits hs.numbered ho
    exact ⟨fires.waits, fires.numbered⟩
  have carriedOut := ((notifyAll_works _ o.effects.notices).served.trans
    (storeReferences_works hs₂).served).trans (notifyAll_works s₂ more).served
  refine (performed.trans carriedOut).respond tag _ _ fun u hu => ?_
  exact absurd hu (Shard.perform_ne_work ho u)

/-- Letting a worker go. -/
theorem onFinalize_handled (s : Server) (source : Rank) (tag : UInt64) :
    Handled s source (.request tag .finalize) (s.onFinalize source tag) := by
  unfold onFinalize
  split
  · have answered : Handled s source (.request tag .finalize)
        (s.respond source tag (.ok .ack)) := by
      refine (Served.refl s).respond tag _ _ fun u hu => ?_
      cases hu
    have others {x : Rank} {state : WorkerState} (hx : x ≠ source)
        (h : (s.workers.insert source .finalized).find? x = some state) :
        s.workers.find? x = some state := (Table.find?_insert_ne s.workers hx _).symm.trans h
    refine { answered with attached := ?_, attends := ?_, finalized := ?_ }
    · intro x hx
      exact Table.contains_insert.2 (.inr hx)
    · intro ha x hx
      by_cases hs : x = source
      · rw [hs] at hx
        simp [respond, send, setWorker] at hx
      · exact ha x (others hs hx)
    · intro x hx
      by_cases hs : x = source
      · exact .inr ⟨hs.symm, rfl⟩
      · exact .inl (others hs hx)
  · exact (Served.refl s).refuse tag _ _

theorem phase_beginShutdown (s : Server) : s.beginShutdown.phase = .shuttingDown := by
  unfold beginShutdown
  split
  · rename_i already
    simpa [isShuttingDown] using already
  · have answers (parked : List Parked) (s : Server) :
        (parked.foldl (fun s p => s.respond p.rank p.tag (.error .shutdown)) s).phase =
          s.phase := by
      induction parked generalizing s with
      | nil => rfl
      | cons p parked ih => exact ih _
    exact answers _ _

theorem phase_initiateShutdown (s : Server) : s.initiateShutdown.phase = .shuttingDown := by
  unfold initiateShutdown
  split
  · rename_i already
    simpa [isShuttingDown] using already
  · exact phase_beginShutdown _

/-- A message ends the run for a server: it comes to the master, or says so. -/
structure Ends (s : Server) (m : Message) (s' : Server) : Prop where
  ended : s'.phase = .shuttingDown
  cause : s.isMaster = true ∨ m = .shutdown

theorem onServerShutdown_handled (s : Server) (source : Rank) (tag : UInt64) :
    Ends s (.request tag .serverShutdown) (s.onServerShutdown source tag) ∨
      Handled s source (.request tag .serverShutdown) (s.onServerShutdown source tag) := by
  unfold onServerShutdown
  split
  · rename_i master
    exact .inl ⟨phase_initiateShutdown s, .inl master⟩
  · refine .inr ((served_send s _ (m := .shutdownRequested) trivial).respond tag _ _ fun u hu => ?_)
    cases hu

/-- Every request that a server carries out. -/
theorem onOwnRequest_handled {tag : UInt64} {body : Request}
    (h : s.onOwnRequest source tag body = .ok s') :
    Ends s (.request tag body) s' ∨ Handled s source (.request tag body) s' := by
  cases body with
  | get type => cases h; exact .inr (onGet_handled s source tag type)
  | put u => cases h; exact .inr (onPut_handled s source tag u)
  | data op => exact .inr (onData_handled h)
  | serverIdle =>
    cases h
    refine .inr ((Served.refl s).respond tag _ _ fun u hu => ?_)
    cases hu
  | serverShutdown => cases h; exact onServerShutdown_handled s source tag
  | finalize => cases h; exact .inr (onFinalize_handled s source tag)

/-- Noting that a worker is at work. -/
theorem Handled.noteBusy (h : Handled s source m s') : Handled s source m (s'.noteBusy source) := by
  unfold Server.noteBusy
  split
  · exact h
  · exact h
  split
  · exact h
  · have others {x : Rank} {state : WorkerState} (hx : x ≠ source)
        (hf : (s'.workers.insert source .busy).find? x = some state) :
        s'.workers.find? x = some state := (Table.find?_insert_ne s'.workers hx _).symm.trans hf
    refine { h with attached := ?_, attends := ?_, finalized := ?_ }
    · intro x hx
      exact Table.contains_insert.2 (.inr (h.attached x hx))
    · intro ha x hx
      by_cases hs : x = source
      · rw [hs] at hx
        simp [setWorker] at hx
      · exact h.attends ha x (others hs hx)
    · intro x hx
      by_cases hs : x = source
      · rw [hs] at hx
        simp [setWorker] at hx
      · exact h.finalized x (others hs hx)

theorem noteBusy_eq (s : Server) (source : Rank) :
    ∃ workers, s.noteBusy source = { s with workers } := by
  unfold noteBusy
  split
  · exact ⟨s.workers, rfl⟩
  · exact ⟨s.workers, rfl⟩
  split
  · exact ⟨s.workers, rfl⟩
  · exact ⟨_, rfl⟩

theorem phase_noteBusy (s : Server) (source : Rank) : (s.noteBusy source).phase = s.phase := by
  obtain ⟨workers, e⟩ := noteBusy_eq s source
  rw [e]

theorem onRequest_handled {tag : UInt64} {body : Request}
    (h : s.onRequest source tag body = .ok s') :
    Ends s (.request tag body) s' ∨ Handled s source (.request tag body) s' := by
  unfold onRequest at h
  split at h
  · cases h
    split
    · rename_i leaves
      rw [leaves]
      exact .inr (onFinalize_handled s source tag)
    · exact .inr ((Served.refl s).refuse tag body _)
  split at h
  · cases h
    exact .inr ((Served.refl s).refuse tag body _)
  · obtain ⟨s₁, hs₁, h⟩ := bind_eq_ok h
    cases h
    rcases onOwnRequest_handled hs₁ with ends | handled
    · exact .inl ⟨(phase_noteBusy s₁ source).trans ends.ended, ends.cause⟩
    · exact .inr handled.noteBusy

/-! ## Other messages -/

theorem onStealRequest_handled (s : Server) (source : Rank) (wanted : List WorkType)
    (load : Load) :
    Handled s source (.stealRequest wanted load) (s.onStealRequest source wanted load) := by
  have left (hc : s.backlog.Counted) :
      (if s.isShuttingDown then ([], s.backlog) else s.backlog.steal wanted).2.Counted := by
    split
    · exact hc
    · exact hc.steal wanted
  refine { (Served.refl s).handled source (.stealRequest wanted load) with
    counted := left, sent := sent_send _ source _, owed := fun x => ?_,
    outbox := ⟨_, rfl, fun p hp => ?_⟩ }
  · simp [onStealRequest, owed, parkedFor, send, answersTo, Message.isResponse]
  · rw [List.mem_singleton.1 hp]
    exact ⟨rfl, wanted, load, rfl⟩

theorem served_onStealResponse (s : Server) (source : Rank) (units : List WorkUnit) (load : Load) :
    Served s (s.onStealResponse source units load) :=
  (served_note s s.shard _ s.nextTag _ id).trans (acceptAll_works _ units).served

/-- Reporting in a vote. -/
theorem handled_idleQuery (s : Server) (source : Rank) (round : UInt64) :
    Handled s source (.idleQuery round) (s.send source (.idleReply round s.idleReport)) := by
  refine { (Served.refl s).handled source (.idleQuery round) with
    sent := sent_send s source _, owed := fun x => ?_, outbox := ⟨_, rfl, fun p hp => ?_⟩ }
  · simp [owed, parkedFor, send, answersTo, Message.isResponse]
  · rw [List.mem_singleton.1 hp]
    exact ⟨rfl, rfl, rfl⟩

/-- Only the end of the run is acted on. -/
theorem actOn_of_ne {verdict : Option Verdict} (h : verdict ≠ some .terminate) :
    s.actOn verdict = s := by
  unfold actOn
  split
  · exact absurd rfl h
  · rfl

/-- Taking up a report ends the run, or changes the votes and nothing else. -/
theorem onIdleReply_cases {round : UInt64} {report : IdleReport}
    (h : s.onIdleReply source round report = .ok s') :
    Ends s (.idleReply round report) s' ∨ s' = s ∨ s.isMaster = true ∧ ∃ votes verdict,
      s.votes.record source round report = .ok (votes, verdict) ∧
        verdict ≠ some .terminate ∧ s' = { s with votes } := by
  unfold onIdleReply at h
  split at h
  · rename_i master
    obtain ⟨⟨votes, verdict⟩, hrecord, h⟩ := bind_eq_ok h
    cases h
    have isMaster := (Bool.and_eq_true_iff.1 master).1
    by_cases ends : verdict = some .terminate
    · subst ends
      exact .inl ⟨phase_initiateShutdown _, .inl isMaster⟩
    · exact .inr (.inr ⟨isMaster, votes, verdict, hrecord, ends, actOn_of_ne ends⟩)
  · cases h
    exact .inr (.inl rfl)

/-- **Every message but a report** ends the run or is handled. -/
theorem dispatch_handled (h : s.dispatch source m = .ok s')
    (hreport : ∀ round report, m ≠ .idleReply round report) :
    Ends s m s' ∨ Handled s source m s' := by
  cases m with
  | request tag body => exact onRequest_handled h
  | response | abort => cases h; exact .inr ((Served.refl s).handled source _)
  | forwardPut u => cases h; exact .inr ((accept_works s u).served.handled source _)
  | stealRequest wanted load =>
    cases h
    exact .inr (onStealRequest_handled s source wanted load)
  | stealResponse units load =>
    cases h
    exact .inr ((served_onStealResponse s source units load).handled source _)
  | idleQuery round => cases h; exact .inr (handled_idleQuery s source round)
  | idleReply round report => exact absurd rfl (hreport round report)
  | shutdown => cases h; exact .inl ⟨phase_beginShutdown s, .inr rfl⟩
  | shutdownRequested =>
    cases h
    split
    · rename_i master
      exact .inl ⟨phase_initiateShutdown s, .inl master⟩
    · exact .inr ((Served.refl s).handled source _)

end Server

end WorkPool
