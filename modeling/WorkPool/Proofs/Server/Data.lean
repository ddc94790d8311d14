import WorkPool.Proofs.Server.Routing
import WorkPool.Proofs.Shard.Faults

/-!
# The data of a server

A server comes to its shard in two ways only: it has operations carried out, for somebody who asked
or for the sake of a member that is to be stored, and it drops all waits when it stops. So what
every call of a shard keeps, every step of a server keeps of its shard (`step_keeps`), and so does
everything that can happen to a server (`LivesAt.keeps`). In particular the shard of a server is in
order whatever it has been asked (`LivesAt.inOrder`).

What an operation leaves to do can fail only for want of room in a word for the bytes in use
(`applyEffects_faults`).
-/

namespace WorkPool

namespace Server

variable {s s' : Server} {source : Rank} {tag : UInt64} {m : Message}

/-! ## What leaves the data alone -/

@[simp] theorem shard_send (s : Server) (dest : Rank) (m : Message) :
    (s.send dest m).shard = s.shard := rfl

@[simp] theorem shard_respond (s : Server) (dest : Rank) (tag : UInt64) (r : Except Error Reply) :
    (s.respond dest tag r).shard = s.shard := rfl

@[simp] theorem shard_setWorker (s : Server) (worker : Rank) (state : WorkerState) :
    (s.setWorker worker state).shard = s.shard := rfl

/-- Counting a message leaves the data alone. -/
@[simp] theorem shard_countArrival : (s.countArrival source m).shard = s.shard := by
  rw [countArrival_eq]

@[simp] theorem shard_sendAll (s : Server) (dest : List Rank) (m : Message) :
    (s.sendAll dest m).shard = s.shard := by
  unfold sendAll
  induction dest generalizing s with
  | nil => rfl
  | cons r dest ih => exact ih _

/-- Placing a unit leaves the data alone. -/
@[simp] theorem shard_place (s : Server) (u : WorkUnit) : (s.place u).1.shard = s.shard := by
  unfold place
  split <;> rfl

/-- Submitting a unit leaves the data alone, wherever it goes. -/
@[simp] theorem shard_submit (s : Server) (u : WorkUnit) : (s.submit u).1.shard = s.shard := by
  unfold submit
  split
  · exact shard_place s u
  split
  · rfl
  split
  · exact shard_place s _
  · exact shard_place s u

@[simp] theorem shard_accept (s : Server) (u : WorkUnit) : (s.accept u).shard = s.shard :=
  shard_submit s u

/-- Notices on their way leave the data alone. -/
@[simp] theorem shard_notifyAll (s : Server) (notices : List (Rank × Notice)) :
    (s.notifyAll notices).shard = s.shard := by
  unfold notifyAll
  induction notices generalizing s with
  | nil => rfl
  | cons n notices ih => exact (ih _).trans (shard_accept _ _)

/-- Looking for work leaves the data alone. -/
@[simp] theorem shard_trySteal (s : Server) : s.trySteal.shard = s.shard := by
  obtain ⟨peers, out, e, -⟩ := trySteal_eq s
  rw [e]

/-- A request for work leaves the data alone. -/
theorem shard_onGet (s : Server) (source : Rank) (tag : UInt64) (type : WorkType) :
    (s.onGet source tag type).shard = s.shard := by
  unfold onGet
  split
  · rfl
  split
  · rfl
  split
  · rfl
  · simp

/-- A put leaves the data alone. -/
theorem shard_onPut (s : Server) (source : Rank) (tag : UInt64) (u : WorkUnit) :
    (s.onPut source tag u).shard = s.shard := by
  unfold onPut
  split
  · rfl
  · simp

/-- A worker that leaves does not change the data. -/
theorem shard_onFinalize (s : Server) (source : Rank) (tag : UInt64) :
    (s.onFinalize source tag).shard = s.shard := by
  unfold onFinalize
  split <;> rfl

theorem shard_noteBusy (s : Server) (source : Rank) : (s.noteBusy source).shard = s.shard := by
  obtain ⟨workers, e⟩ := noteBusy_eq s source
  rw [e]

/-- Units that come from a peer leave the data alone. -/
theorem shard_acceptAll (units : List WorkUnit) (s : Server) :
    (units.foldl accept s).shard = s.shard := by
  induction units generalizing s with
  | nil => rfl
  | cons u units ih => exact (ih _).trans (shard_accept s u)

theorem shard_onStealRequest (s : Server) (source : Rank) (wanted : List WorkType) (load : Load) :
    (s.onStealRequest source wanted load).shard = s.shard := by
  obtain ⟨wanted', peers, stats, load', e⟩ := onStealRequest_eq s source wanted load
  rw [e]
  rfl

/-! ## What changes them -/

section Keeps

variable {P : Shard → Prop}

/-- A member that is stored here is stored by an operation on data. -/
theorem storeReference_keeps (kept : Shard.Kept P) {target : DatumId} {member : Bytes}
    {notices : List (Rank × Notice)} (h : s.storeReference target member = .ok (s', notices))
    (hs : P s.shard) : P s'.shard := by
  simp only [storeReference] at h
  split at h
  · obtain ⟨o, ho, h⟩ := bind_eq_ok h
    cases h
    have performed : s.shard.perform s.rank (.storeBytes target member 1) =
        .ok (o.map fun _ => .ack) := by
      rw [Shard.perform, ho]
      rfl
    exact kept.perform hs performed
  · cases h
    exact hs

/-- Several members are stored one after the other. -/
theorem storeReferences_keeps (kept : Shard.Kept P) {references : List (DatumId × Bytes)}
    {notices : List (Rank × Notice)} (h : s.storeReferences references = .ok (s', notices))
    (hs : P s.shard) : P s'.shard := by
  induction references generalizing s notices with
  | nil =>
    cases h
    exact hs
  | cons r references ih =>
    obtain ⟨⟨s₁, first⟩, stored, h⟩ := bind_eq_ok h
    obtain ⟨⟨s₂, later⟩, rest, h⟩ := bind_eq_ok h
    cases h
    exact ih rest (storeReference_keeps kept stored hs)

/-- **An operation on data** keeps what operations keep, and so do the effects of it. -/
theorem onData_keeps (kept : Shard.Kept P) {op : Operation}
    (h : s.onData source tag op = .ok s') (hs : P s.shard) : P s'.shard := by
  obtain ⟨o, ho, h⟩ := bind_eq_ok h
  obtain ⟨s₁, applied, h⟩ := bind_eq_ok h
  cases h
  obtain ⟨⟨s₂, more⟩, stored, applied⟩ := bind_eq_ok applied
  cases applied
  have performed : P (notifyAll { s with shard := o.shard } o.effects.notices).shard := by
    rw [shard_notifyAll]
    exact kept.perform hs ho
  rw [shard_respond, shard_notifyAll]
  exact storeReferences_keeps kept stored performed

theorem shard_refuseAll (parked : List Parked) (s : Server) :
    (parked.foldl (fun s p => s.respond p.rank p.tag (.error .shutdown)) s).shard = s.shard := by
  induction parked generalizing s with
  | nil => rfl
  | cons p parked ih => exact ih _

/-- A shutdown drops all waits, and changes no data otherwise. -/
theorem beginShutdown_keeps (kept : Shard.Kept P) (hs : P s.shard) : P s.beginShutdown.shard := by
  unfold beginShutdown
  split
  · exact hs
  · simp only [shard_refuseAll]
    exact kept.invalidate hs

/-- The end of the run begins with a shutdown, and changes no data otherwise. -/
theorem initiateShutdown_keeps (kept : Shard.Kept P) (hs : P s.shard) :
    P s.initiateShutdown.shard := by
  unfold initiateShutdown
  split
  · exact hs
  · exact beginShutdown_keeps kept (by rwa [shard_sendAll])

/-- A verdict may bring the end. -/
theorem actOn_keeps (kept : Shard.Kept P) (verdict : Option Verdict) (hs : P s.shard) :
    P (s.actOn verdict).shard := by
  unfold actOn
  split
  · exact initiateShutdown_keeps kept hs
  · exact hs

/-- A request that is carried out keeps what operations on data keep. -/
theorem onOwnRequest_keeps (kept : Shard.Kept P) {body : Request}
    (h : s.onOwnRequest source tag body = .ok s') (hs : P s.shard) : P s'.shard := by
  cases body with
  | get type =>
    cases h
    rwa [shard_onGet]
  | put u =>
    cases h
    rwa [shard_onPut]
  | finalize =>
    cases h
    rwa [shard_onFinalize]
  | serverIdle =>
    cases h
    exact hs
  | serverShutdown =>
    cases h
    unfold onServerShutdown
    simp only [shard_respond]
    split
    · exact initiateShutdown_keeps kept hs
    · exact hs
  | data op => exact onData_keeps kept h hs

/-- A request keeps what operations on data keep, carried out or refused. -/
theorem onRequest_keeps (kept : Shard.Kept P) {body : Request}
    (h : s.onRequest source tag body = .ok s') (hs : P s.shard) : P s'.shard := by
  unfold onRequest at h
  split at h
  · cases h
    split
    · rwa [shard_onFinalize]
    · exact hs
  split at h
  · cases h
    exact hs
  · obtain ⟨s₁, carried, h⟩ := bind_eq_ok h
    cases h
    rw [shard_noteBusy]
    exact onOwnRequest_keeps kept carried hs

/-- **Every message** keeps what operations on data keep. -/
theorem dispatch_keeps (kept : Shard.Kept P) (h : s.dispatch source m = .ok s')
    (hs : P s.shard) : P s'.shard := by
  cases m with
  | request tag body => exact onRequest_keeps kept h hs
  | response | abort | idleQuery =>
    cases h
    exact hs
  | forwardPut u =>
    cases h
    rwa [shard_accept]
  | stealRequest wanted load =>
    cases h
    rwa [shard_onStealRequest]
  | stealResponse units load =>
    cases h
    rw [onStealResponse, shard_acceptAll]
    exact hs
  | idleReply round report =>
    change s.onIdleReply source round report = .ok s' at h
    unfold onIdleReply at h
    split at h
    · obtain ⟨⟨votes, verdict⟩, -, h⟩ := bind_eq_ok h
      cases h
      exact actOn_keeps (s := { s with votes }) kept verdict hs
    · cases h
      exact hs
  | shutdown =>
    cases h
    exact beginShutdown_keeps kept hs
  | shutdownRequested =>
    cases h
    split
    · exact initiateShutdown_keeps kept hs
    · exact hs

/-- **What every call of a shard keeps**, every step of a server keeps of its shard. -/
theorem step_keeps (kept : Shard.Kept P) {input : Input} {flow : Flow}
    (h : s.step input = .ok (s', flow)) (hs : P s.shard) : P s'.shard := by
  cases input with
  | message source m =>
    exact dispatch_keeps kept (handle_eq_ok h).1 (by rwa [shard_countArrival])
  | stealTick =>
    cases h
    exact (shard_trySteal s).symm ▸ hs
  | idleTick =>
    change s.onIdleTick = .ok (s', flow) at h
    unfold onIdleTick at h
    split at h
    · obtain ⟨s₁, voted, h⟩ := bind_eq_ok h
      cases h
      obtain ⟨⟨votes, round⟩, -, voted⟩ := bind_eq_ok voted
      simp only at voted
      split at voted
      · obtain ⟨⟨votes', verdict⟩, -, voted⟩ := bind_eq_ok voted
        cases voted
        exact actOn_keeps kept verdict hs
      · cases voted
        rwa [shard_sendAll]
    · cases h
      exact hs

end Keeps

/-! ## Where carrying out effects faults -/

section Faults

variable {target : DatumId} {member : Bytes} {references : List (DatumId × Bytes)} {f : Fault}

/-- The bytes of the members that are to be stored. -/
def referenceBytes : List (DatumId × Bytes) → Nat
  | [] => 0
  | r :: references => r.2.length + referenceBytes references

/-- Storing a member faults only if its bytes are too many for a word. -/
theorem storeReference_faults (h : s.storeReference target member = .error f) :
    Bursts s.shard.memory.used member.length f := by
  simp only [storeReference] at h
  split at h
  · rcases bind_eq_error h with h | ⟨_, -, h⟩
    · exact Shard.storeBytes_faults h
    · cases h
  · cases h

/-- A member takes as many bytes as it has, at most. -/
theorem storeReference_used_le {notices : List (Rank × Notice)}
    (h : s.storeReference target member = .ok (s', notices)) :
    s'.shard.memory.used ≤ s.shard.memory.used + member.length := by
  simp only [storeReference] at h
  split at h
  · obtain ⟨o, stored, h⟩ := bind_eq_ok h
    cases h
    exact Shard.storeBytes_used_le stored
  · cases h
    exact Nat.le_add_right _ _

/-- Storing members faults only if all their bytes are too many for a word. -/
theorem storeReferences_faults (h : s.storeReferences references = .error f) :
    Bursts s.shard.memory.used (referenceBytes references) f := by
  induction references generalizing s with
  | nil => cases h
  | cons r references ih =>
    rcases bind_eq_error h with h | ⟨⟨s₁, first⟩, stored, h⟩
    · exact (storeReference_faults h).mono (Nat.le_add_right _ _)
    rcases bind_eq_error h with h | ⟨_, -, h⟩
    · obtain ⟨fault, large⟩ := ih h
      have used := storeReference_used_le stored
      refine ⟨fault, ?_⟩
      rw [referenceBytes]
      omega
    · cases h

/-- **Carrying out effects** faults only for bytes that are too many: those in use, and those of
the members that are to be stored. -/
theorem applyEffects_faults {e : Effects} (h : s.applyEffects e = .error f) :
    Bursts s.shard.memory.used (referenceBytes e.references) f := by
  rcases bind_eq_error h with h | ⟨_, -, h⟩
  · have bursts := storeReferences_faults h
    rwa [shard_notifyAll] at bursts
  · cases h

end Faults

/-! ## Every run -/

section Run

variable {settings : Settings} {r : Rank}

/-- The server of a rank starts with the empty shard of its index, and the ranks fit their words. -/
theorem shard_new (h : Server.new r settings = .ok (.ok s)) :
    s.shard = Shard.new (settings.topology.serverIndex r) settings ∧ settings.topology.Fits ∧
      settings.topology.isServer r = true := by
  obtain ⟨isServer, told, h⟩ := bind_eq_ok h
  split at h
  · rename_i server
    cases h
    rw [server] at told
    have fits : settings.topology.Fits := by
      unfold Topology.checkedIsServer at told
      split at told
      · obtain ⟨size, total, -⟩ := bind_eq_ok told
        by_contra large
        exact nomatch (if_neg large).symm.trans total
      · cases told
    refine ⟨rfl, fits, ?_⟩
    rw [Topology.checkedIsServer_eq fits] at told
    exact Except.ok.inj told
  · cases h

/-- **What every call of a shard keeps**, the shard of a server has at all times. -/
theorem LivesAt.keeps {P : Shard → Prop} (lives : LivesAt settings r s) (kept : Shard.Kept P)
    (start : P (Shard.new (settings.topology.serverIndex r) settings)) : P s.shard := by
  obtain ⟨s₀, turns, t, hnew, hserve⟩ := lives
  refine serve_induction (P := fun s _ => P s.shard) ?_ ?_ hserve
  · intro s t next s' t' hs hturn
    cases next with
    | step input =>
      obtain ⟨⟨s₁, flow⟩, hstep, hturn⟩ := bind_eq_ok hturn
      cases hturn
      exact step_keeps kept hstep hs
    | passOn =>
      cases hturn
      exact hs
  · rw [(shard_new hnew).1]
    exact start

/-- The ranks of a run with servers fit a word. -/
theorem LivesAt.fits (lives : LivesAt settings r s) : settings.topology.Fits := by
  obtain ⟨s₀, -, -, hnew, -⟩ := lives
  exact (shard_new hnew).2.1

/-- A server that lives at a rank has the rank of a server. -/
theorem LivesAt.isServer (lives : LivesAt settings r s) : settings.topology.isServer r = true := by
  obtain ⟨s₀, -, -, hnew, -⟩ := lives
  exact (shard_new hnew).2.2

/-- The ranks of such a run are proper, if the servers fit a signed word. -/
theorem LivesAt.proper (lives : LivesAt settings r s)
    (hn : (settings.servers.toNat : Int) ≤ topId) : settings.topology.Proper := by
  have server := Topology.isServer_iff.1 lives.isServer
  rw [Topology.size] at server
  have servers : settings.topology.servers = settings.servers := rfl
  refine ⟨lives.fits, by omega, ?_⟩
  rw [topId_eq] at hn
  rw [servers, Checked.wordSize, UInt64.size]
  omega

/-- The shard of a server is in order at all times. -/
theorem LivesAt.inOrder (lives : LivesAt settings r s)
    (hn : (settings.servers.toNat : Int) ≤ topId) :
    Shard.InOrder (settings.topology.serverIndex r) settings s.shard :=
  lives.keeps (Shard.kept_inOrder _ settings)
    (Shard.inOrder_new (Topology.serverIndex_lt lives.isServer) hn)

end Run

end Server

end WorkPool
