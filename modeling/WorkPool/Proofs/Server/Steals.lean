import WorkPool.Proofs.Server.Steps

/-!
# Steals: asking a peer for work

A server without work asks one peer and notes whom. It asks when a request for work is parked and
when it is time to look for work; the peer answers in the step in which it is asked; and the note
is taken back by the answer.

What a server has to do with all this is a small part of it, its `Stealing`: its peers, and what it
has to say to them. Most functions of a server leave that part alone, and `Steals` lists the steps
that do not.
-/

namespace WorkPool

/-- Whether a message asks a peer for work, or answers one that asked. -/
def Message.isSteal : Message → Bool
  | .stealRequest .. | .stealResponse .. => true
  | _ => false

/-- Whether what happens to a server is such a message. -/
def Input.isSteal : Input → Bool
  | .message _ m => m.isSteal
  | .stealTick | .idleTick => false

/-- What is said about steals. -/
def stealsIn (out : List (Rank × Message)) : List (Rank × Message) := out.filter (·.2.isSteal)

@[simp] theorem stealsIn_append (a b : List (Rank × Message)) :
    stealsIn (a ++ b) = stealsIn a ++ stealsIn b := List.filter_append ..

/-- The part of a server that is about steals. -/
structure Stealing where
  /-- its peers -/
  peers : Peers
  /-- what it has to say to them -/
  said : List (Rank × Message)

namespace Server

variable {input : Input} {s s' : Server} {source : Rank} {tag : UInt64} {m : Message}

/-- What there is about steals in a server. -/
def stealing (s : Server) : Stealing := ⟨s.peers, stealsIn s.outbox⟩

/-- What a step of a server has to do with steals. -/
inductive Steals (input : Input) (v v' : Stealing) : Prop where
  /-- nothing -/
  | aside (other : input.isSteal = false) (same : v' = v)
  /-- a peer is asked, if no answer is out -/
  | asks (other : input.isSteal = false) (victim : Rank) (cursor : Nat) (wanted : List WorkType)
    (load : Load) (idle : v.peers.inFlight = none) (peer : victim ∈ v.peers.ranks)
    (asked : v' = ⟨{ v.peers with cursor, inFlight := some victim },
      v.said ++ [(victim, .stealRequest wanted load)]⟩)
  /-- a peer is answered -/
  | gives (source : Rank) (wanted : List WorkType) (load load' : Load) (units : List WorkUnit)
    (heard : input = .message source (.stealRequest wanted load))
    (given : v' = ⟨v.peers.record source load, v.said ++ [(source, .stealResponse units load')]⟩)
  /-- a peer has answered -/
  | hears (source : Rank) (units : List WorkUnit) (load : Load)
    (heard : input = .message source (.stealResponse units load))
    (noted : v' = ⟨v.peers.complete source load, v.said⟩)

/-! ## Standing aside -/

/-- A message that is about no steal. -/
theorem stealing_send (s : Server) (dest : Rank) (other : m.isSteal = false) :
    (s.send dest m).stealing = s.stealing := by
  have nothing : stealsIn [(dest, m)] = [] := by simp [stealsIn, other]
  simp only [stealing, send, stealsIn_append, nothing, List.append_nil]

theorem stealing_respond (s : Server) (dest : Rank) (tag : UInt64) (r : Except Error Reply) :
    (s.respond dest tag r).stealing = s.stealing := stealing_send s dest rfl

theorem stealing_sendAll (s : Server) (dest : List Rank) (other : m.isSteal = false) :
    (s.sendAll dest m).stealing = s.stealing := by
  unfold sendAll
  induction dest generalizing s with
  | nil => rfl
  | cons r dest ih => exact (ih _).trans (stealing_send s r other)

theorem stealing_noteBusy (s : Server) (source : Rank) :
    (s.noteBusy source).stealing = s.stealing := by
  obtain ⟨workers, e⟩ := noteBusy_eq s source
  rw [e]
  rfl

theorem stealing_countArrival (s : Server) (source : Rank) (m : Message) :
    (s.countArrival source m).stealing = s.stealing := by
  rw [countArrival_eq]
  rfl

/-- Placing a unit has nothing to do with steals. -/
theorem stealing_place (s : Server) (u : WorkUnit) : (s.place u).1.stealing = s.stealing := by
  unfold place
  split
  · exact stealing_respond _ _ _ _
  · rfl

/-- Submitting a unit has nothing to do with steals, wherever it goes. -/
theorem stealing_submit (s : Server) (u : WorkUnit) : (s.submit u).1.stealing = s.stealing := by
  unfold submit
  split
  · exact stealing_place s u
  split
  · exact stealing_send _ _ rfl
  split
  · exact stealing_place s _
  · exact stealing_place s u

theorem stealing_acceptAll (units : List WorkUnit) (s : Server) :
    (units.foldl accept s).stealing = s.stealing := by
  induction units generalizing s with
  | nil => rfl
  | cons u units ih => exact (ih _).trans (stealing_submit s u)

/-- Notices have nothing to do with steals. -/
theorem stealing_notifyAll (notices : List (Rank × Notice)) (s : Server) :
    (s.notifyAll notices).stealing = s.stealing := by
  unfold notifyAll
  induction notices generalizing s with
  | nil => rfl
  | cons n notices ih => exact (ih _).trans (stealing_submit _ _)

/-- Storing a member has nothing to do with steals. -/
theorem stealing_storeReference {target : DatumId} {member : Bytes}
    {notices : List (Rank × Notice)} (h : s.storeReference target member = .ok (s', notices)) :
    s'.stealing = s.stealing := by
  simp only [storeReference] at h
  split at h
  · obtain ⟨o, -, h⟩ := bind_eq_ok h
    cases h
    rfl
  · cases h
    exact stealing_send _ _ rfl

theorem stealing_storeReferences {references : List (DatumId × Bytes)}
    {notices : List (Rank × Notice)} (h : s.storeReferences references = .ok (s', notices)) :
    s'.stealing = s.stealing := by
  induction references generalizing s notices with
  | nil =>
    cases h
    rfl
  | cons reference references ih =>
    obtain ⟨⟨s₁, first⟩, stored, h⟩ := bind_eq_ok h
    obtain ⟨⟨s₂, later⟩, rest, h⟩ := bind_eq_ok h
    cases h
    exact (ih rest).trans (stealing_storeReference stored)

/-- An operation on data has nothing to do with steals. -/
theorem stealing_onData {op : Operation} (h : s.onData source tag op = .ok s') :
    s'.stealing = s.stealing := by
  obtain ⟨o, -, h⟩ := bind_eq_ok h
  obtain ⟨s₁, applied, h⟩ := bind_eq_ok h
  cases h
  obtain ⟨⟨s₂, more⟩, stored, applied⟩ := bind_eq_ok applied
  cases applied
  calc
    _ = (s₂.notifyAll more).stealing := stealing_respond _ source tag _
    _ = s₂.stealing := stealing_notifyAll more s₂
    _ = (({ s with shard := o.shard } : Server).notifyAll o.effects.notices).stealing :=
      stealing_storeReferences stored
    _ = s.stealing := stealing_notifyAll _ _

/-- A put has nothing to do with steals. -/
theorem stealing_onPut (s : Server) (source : Rank) (tag : UInt64) (u : WorkUnit) :
    (s.onPut source tag u).stealing = s.stealing := by
  unfold onPut
  split
  · exact stealing_respond s source tag _
  · exact (stealing_respond _ source tag _).trans (stealing_submit _ u)

theorem stealing_onFinalize (s : Server) (source : Rank) (tag : UInt64) :
    (s.onFinalize source tag).stealing = s.stealing := by
  unfold onFinalize
  split <;> exact stealing_respond _ source tag _

theorem stealing_refuseAll (parked : List Parked) (s : Server) :
    (parked.foldl (fun s p => s.respond p.rank p.tag (.error .shutdown)) s).stealing =
      s.stealing := by
  induction parked generalizing s with
  | nil => rfl
  | cons p parked ih => exact (ih _).trans (stealing_respond s p.rank p.tag _)

theorem stealing_beginShutdown (s : Server) : s.beginShutdown.stealing = s.stealing := by
  unfold beginShutdown
  split
  · rfl
  · exact stealing_refuseAll s.waiting.drain.1 { s with phase := .shuttingDown, waiting := {} }

/-- The end of the run leaves a steal as it is. -/
theorem stealing_initiateShutdown (s : Server) : s.initiateShutdown.stealing = s.stealing := by
  unfold initiateShutdown
  split
  · rfl
  · exact (stealing_beginShutdown _).trans (stealing_sendAll s _ rfl)

theorem stealing_actOn (s : Server) (verdict : Option Verdict) :
    (s.actOn verdict).stealing = s.stealing := by
  unfold actOn
  split
  · exact stealing_initiateShutdown s
  · rfl

/-- A worker that ends the run has nothing to do with steals. -/
theorem stealing_onServerShutdown (s : Server) (source : Rank) (tag : UInt64) :
    (s.onServerShutdown source tag).stealing = s.stealing := by
  refine (stealing_respond _ source tag _).trans ?_
  split
  · exact stealing_initiateShutdown s
  · exact stealing_send s _ rfl

/-- Reports have nothing to do with steals. -/
theorem stealing_onIdleReply {round : UInt64} {report : IdleReport}
    (h : s.onIdleReply source round report = .ok s') : s'.stealing = s.stealing := by
  unfold onIdleReply at h
  split at h
  · obtain ⟨⟨votes, verdict⟩, -, h⟩ := bind_eq_ok h
    cases h
    exact stealing_actOn { s with votes } verdict
  · cases h
    rfl

/-- Votes have nothing to do with steals. -/
theorem stealing_startVote (h : s.startVote = .ok s') : s'.stealing = s.stealing := by
  obtain ⟨⟨votes, round⟩, -, h⟩ := bind_eq_ok h
  simp only at h
  split at h
  · obtain ⟨⟨votes', verdict⟩, -, h⟩ := bind_eq_ok h
    cases h
    exact stealing_actOn _ verdict
  · cases h
    exact stealing_sendAll _ _ rfl

theorem stealing_onIdleTick {flow : Flow} (h : s.onIdleTick = .ok (s', flow)) :
    s'.stealing = s.stealing := by
  unfold onIdleTick at h
  split at h
  · obtain ⟨s₁, voted, h⟩ := bind_eq_ok h
    cases h
    exact stealing_startVote voted
  · cases h
    rfl

/-! ## Asking and answering -/

/-- Whoever is chosen is a peer, and is chosen only if no answer is out. -/
theorem choose_eq_some {p p' : Peers} {types : List WorkType} {victim : Rank}
    (h : p.choose types = (some victim, p')) :
    p.inFlight = none ∧ victim ∈ p.ranks ∧
      ∃ cursor, p' = { p with cursor, inFlight := some victim } := by
  unfold Peers.choose at h
  split at h
  · cases h
  rename_i idle
  simp only at h
  split at h
  · cases h
  · rename_i chosen
    cases h
    exact ⟨Option.not_isSome_iff_eq_none.1 idle, List.mem_of_getElem? chosen, _, rfl⟩

/-- **Looking for work** asks one peer at most. -/
theorem trySteal_steals (s : Server) (other : input.isSteal = false) :
    Steals input s.stealing s.trySteal.stealing := by
  unfold trySteal
  split
  · exact .aside other rfl
  split
  · exact .aside other rfl
  · rename_i victim peers chosen
    obtain ⟨idle, peer, cursor, rfl⟩ := choose_eq_some chosen
    refine .asks other victim cursor s.waiting.types s.load idle peer ?_
    simp only [stealing, send, stealsIn_append]
    rfl

/-- **A question of a peer** is answered, and its load is noted. -/
theorem stealing_onStealRequest (s : Server) (source : Rank) (wanted : List WorkType)
    (load : Load) :
    ∃ units load', (s.onStealRequest source wanted load).stealing =
      ⟨s.peers.record source load, stealsIn s.outbox ++ [(source, .stealResponse units load')]⟩ :=
  ⟨_, _, congrArg (Stealing.mk _) (stealsIn_append s.outbox [(source, .stealResponse _ _)])⟩

/-- **A request for work** may be the reason to ask a peer. -/
theorem onGet_steals (s : Server) (source : Rank) (tag : UInt64) (type : WorkType)
    (other : input.isSteal = false) :
    Steals input s.stealing (s.onGet source tag type).stealing := by
  unfold onGet
  split
  · exact .aside other (stealing_respond s source tag _)
  split
  · exact .aside other (stealing_respond s source tag _)
  split
  · exact .aside other (stealing_respond _ source tag _)
  · have looks (waiting : WaitingList) (workers : Table Rank WorkerState) (stats : ServerStats) :
        Steals input s.stealing ({ s with waiting, workers, stats } : Server).trySteal.stealing :=
      trySteal_steals { s with waiting, workers, stats } other
    exact looks _ _ _

/-- A request that is carried out may lead to a question to a peer. -/
theorem onOwnRequest_steals {body : Request} (other : input.isSteal = false)
    (h : s.onOwnRequest source tag body = .ok s') : Steals input s.stealing s'.stealing := by
  cases body with
  | get type =>
    cases h
    exact onGet_steals s source tag type other
  | put u =>
    cases h
    exact .aside other (stealing_onPut s source tag u)
  | data op => exact .aside other (stealing_onData h)
  | serverIdle =>
    cases h
    exact .aside other (stealing_respond s source tag _)
  | serverShutdown =>
    cases h
    exact .aside other (stealing_onServerShutdown s source tag)
  | finalize =>
    cases h
    exact .aside other (stealing_onFinalize s source tag)

/-- A request may lead to a question to a peer, and to nothing if it is refused. -/
theorem onRequest_steals {body : Request} (other : input.isSteal = false)
    (h : s.onRequest source tag body = .ok s') : Steals input s.stealing s'.stealing := by
  unfold onRequest at h
  split at h
  · cases h
    split
    · exact .aside other (stealing_onFinalize s source tag)
    · exact .aside other (stealing_respond s source tag _)
  split at h
  · cases h
    exact .aside other (stealing_respond s source tag _)
  · obtain ⟨s₁, own, h⟩ := bind_eq_ok h
    cases h
    rw [stealing_noteBusy]
    exact onOwnRequest_steals other own

/-- **Every message.** -/
theorem dispatch_steals (h : s.dispatch source m = .ok s') :
    Steals (.message source m) s.stealing s'.stealing := by
  cases m with
  | request tag body => exact onRequest_steals rfl h
  | response | abort =>
    cases h
    exact .aside rfl rfl
  | forwardPut u =>
    cases h
    exact .aside rfl (stealing_submit s u)
  | stealRequest wanted load =>
    cases h
    obtain ⟨units, load', given⟩ := stealing_onStealRequest s source wanted load
    exact .gives source wanted load load' units rfl given
  | stealResponse units load =>
    cases h
    exact .hears source units load rfl (stealing_acceptAll units _)
  | idleQuery round =>
    cases h
    exact .aside rfl (stealing_send s source rfl)
  | idleReply round report => exact .aside rfl (stealing_onIdleReply h)
  | shutdown =>
    cases h
    exact .aside rfl (stealing_beginShutdown s)
  | shutdownRequested =>
    cases h
    split
    · exact .aside rfl (stealing_initiateShutdown s)
    · exact .aside rfl rfl

/-- **Every step** of a server. -/
theorem step_steals {flow : Flow} (h : s.step input = .ok (s', flow)) :
    Steals input s.stealing s'.stealing := by
  cases input with
  | message source m =>
    rw [← stealing_countArrival s source m]
    exact dispatch_steals (handle_eq_ok h).1
  | stealTick =>
    cases h
    exact trySteal_steals s rfl
  | idleTick => exact .aside rfl (stealing_onIdleTick h)

end Server

end WorkPool
