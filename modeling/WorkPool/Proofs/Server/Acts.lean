import Mathlib.Logic.Relation
import WorkPool.Proofs.Server.Steps

/-!
# Acts: what others see of a server

A step of a server is made of **acts**, each of which is small and says all that can be seen of it
from outside: what is sent, whom a unit goes to, which requests are parked, what becomes of the
workers, and whether the run ends. `Act` lists them. What a server only notes for itself is one
kind of act.

Every message and tick is handled by acts (`step_serves`), except that a request for work that is
granted or parked is told apart: it is the one thing that is taken up from outside (`Serves`). The
functions of a server are taken apart here, so that what is shown of each kind of act holds of
every step.
-/

namespace WorkPool

namespace Message

/-- Whether a message neither hands out a unit nor ends the run. -/
def isOrdinary : Message → Bool
  | .response _ (.granted (.work _)) | .shutdown => false
  | _ => true

/-- An answer other than a unit is ordinary. -/
theorem isOrdinary_ofResult {tag : UInt64} {r : Except Error Reply} (h : ∀ u, r ≠ .ok (.work u)) :
    (Message.response tag (.ofResult r)).isOrdinary = true := by
  cases r with
  | error e => rfl
  | ok reply =>
    cases reply with
    | work u => exact absurd rfl (h u)
    | _ => rfl

end Message

namespace Server

variable {input : Input} {s s₁ s' : Server} {source : Rank} {tag : UInt64} {m : Message}

/-- One act of a server, while it deals with some input. -/
inductive Act (input : Input) : Server → Server → Prop where
  /-- something is noted -/
  | note (s : Server) (shard : Shard) (peers : Peers) (votes : Quiescence) (nextTag : UInt64)
    (activity received : Nat) (stats : ServerStats) :
    Act input s { s with shard, peers, votes, nextTag, activity, received, stats }
  /-- something is said -/
  | say (s : Server) (dest : Rank) (m : Message) (ordinary : m.isOrdinary = true) :
    Act input s (s.send dest m)
  /-- a unit goes to a parked request -/
  | meet (s : Server) (u : WorkUnit) {p : Parked} {waiting : WaitingList}
    (matched : s.waiting.takeMatch u = some (p, waiting)) :
    Act input s (({ s with waiting }.setWorker p.rank .busy).respond p.rank p.tag (.ok (.work u)))
  /-- a unit is queued, if there is room -/
  | queue (s : Server) (u : WorkUnit) (unmatched : s.waiting.takeMatch u = none) :
    Act input s { s with backlog := (s.backlog.push u).1 }
  /-- units are taken out for a peer -/
  | share (s : Server) (wanted : List WorkType) :
    Act input s { s with backlog := (s.backlog.steal wanted).2 }
  /-- the backlog is dropped -/
  | drop (s : Server) : Act input s { s with backlog := s.backlog.drain.2 }
  /-- an attached worker is at work, or leaves -/
  | occupy (s : Server) (worker : Rank) (state : WorkerState)
    (attached : s.workers.contains worker = true) : Act input s (s.setWorker worker state)
  /-- the master ends the run: it tells all others, and stops -/
  | endRun (s : Server) (running : s.isShuttingDown = false) (master : s.isMaster = true) :
    Act input s
      { s.sendAll s.otherServers .shutdown with phase := .shuttingDown, waiting := {} }
  /-- a server is told of the end, and stops -/
  | obey (s : Server) (source : Rank) (running : s.isShuttingDown = false)
    (told : input = .message source .shutdown) :
    Act input s { s with phase := .shuttingDown, waiting := {} }

/-- Any number of acts, one after the other. -/
abbrev Acts (input : Input) : Server → Server → Prop := Relation.ReflTransGen (Act input)

/-- What every act keeps, any number of acts keep. -/
theorem Acts.keep {P : Server → Prop} (step : ∀ s s', P s → Act input s s' → P s')
    (h : Acts input s s') (hs : P s) : P s' := by
  induction h with
  | refl => exact hs
  | tail _ last ih => exact step _ _ ih last

/-- No act changes who a server is. -/
theorem Act.same (h : Act input s s') : s'.rank = s.rank ∧ s'.topology = s.topology := by
  cases h with
  | endRun =>
    rw [sendAll_eq rfl]
    exact ⟨rfl, rfl⟩
  | _ => exact ⟨rfl, rfl⟩

/-- Everything that a step does. A request for work is met from the backlog, or parked, or is
answered by an ordinary act. -/
inductive Serves (s : Server) (input : Input) (s' : Server) : Prop where
  | acts (acts : Acts input s s')
  | hand {s₁ : Server} {source : Rank} {tag : UInt64} {type : WorkType} {u : WorkUnit}
    {backlog : Backlog} (asked : input = .message source (.request tag (.get type)))
    (before : Acts input s s₁) (running : s₁.isShuttingDown = false)
    (attached : s₁.workers.contains source = true)
    (popped : s₁.backlog.popFor source type = (some u, backlog))
    (after : Acts input ({ s₁ with backlog }.respond source tag (.ok (.work u))) s')
  | park {s₁ : Server} {source : Rank} {tag : UInt64} {type : WorkType} {backlog : Backlog}
    (asked : input = .message source (.request tag (.get type))) (before : Acts input s s₁)
    (running : s₁.isShuttingDown = false) (attached : s₁.workers.contains source = true)
    (unmet : s₁.backlog.popFor source type = (none, backlog))
    (after : Acts input ({ s₁ with waiting := s₁.waiting.park ⟨source, tag, type⟩ }.setWorker
      source .parked) s')

/-- Acts after serving a request. -/
theorem Serves.after (h : Serves s input s₁) (later : Acts input s₁ s') : Serves s input s' := by
  cases h with
  | acts acts => exact .acts (acts.trans later)
  | hand asked before running attached popped after =>
    exact .hand asked before running attached popped (after.trans later)
  | park asked before running attached unmet after =>
    exact .park asked before running attached unmet (after.trans later)

/-- Acts before serving a request. -/
theorem Serves.before (first : Acts input s s₁) (h : Serves s₁ input s') : Serves s input s' := by
  cases h with
  | acts acts => exact .acts (first.trans acts)
  | hand asked before running attached popped after =>
    exact .hand asked (first.trans before) running attached popped after
  | park asked before running attached unmet after =>
    exact .park asked (first.trans before) running attached unmet after

/-! ## Noting and saying -/

/-- Noting something is an act. -/
theorem note_acts (s : Server) (shard : Shard) (peers : Peers) (votes : Quiescence)
    (stats : ServerStats) : Acts input s { s with shard, peers, votes, stats } :=
  .single (.note s shard peers votes s.nextTag s.activity s.received stats)

theorem say_acts (s : Server) (dest : Rank) (ordinary : m.isOrdinary = true) :
    Acts input s (s.send dest m) := .single (.say s dest m ordinary)

/-- An answer other than a unit is an act. -/
theorem respond_acts (s : Server) (dest : Rank) (tag : UInt64) {r : Except Error Reply}
    (h : ∀ u, r ≠ .ok (.work u)) : Acts input s (s.respond dest tag r) :=
  say_acts s dest (Message.isOrdinary_ofResult h)

theorem refuse_acts (s : Server) (dest : Rank) (tag : UInt64) (e : Error) :
    Acts input s (s.respond dest tag (.error e)) := say_acts s dest rfl

/-- An ordinary message to all is made of acts. -/
theorem sendAll_acts (s : Server) (dest : List Rank) (ordinary : m.isOrdinary = true) :
    Acts input s (s.sendAll dest m) := by
  unfold sendAll
  induction dest generalizing s with
  | nil => exact .refl
  | cons r dest ih => exact (say_acts s r ordinary).trans (ih _)

/-! ## Work on units and data -/

/-- **Placing a unit** is handing it over, or queueing it. -/
theorem place_acts (s : Server) (u : WorkUnit) : Acts input s (s.place u).1 := by
  unfold place
  split
  · rename_i p waiting matched
    let stats := { s.stats with getsServed := s.stats.getsServed + 1 }
    have noted : Acts input s { s with stats } := note_acts s s.shard s.peers s.votes stats
    exact noted.tail (.meet { s with stats } u matched)
  · rename_i unmatched
    exact .single (.queue s u unmatched)

/-- **Every task** is made of acts. -/
theorem Task.acts {ins lost : List WorkUnit} (h : Task s ins lost s') : Acts input s s' := by
  cases h with
  | note shard peers nextTag stats sound =>
    exact .single (.note s shard peers s.votes nextTag s.activity s.received stats)
  | place u held => exact place_acts s _
  | forward dest u leads away => exact say_acts s dest rfl
  | ask id tag body => exact say_acts s _ rfl

/-- **Any number of tasks** are made of acts. -/
theorem Works.acts {ins lost : List WorkUnit} (h : Works s ins lost s') : Acts input s s' := by
  induction h with
  | done s => exact .refl
  | next first later ih => exact first.acts.trans ih

/-- Looking for work is an act. -/
theorem trySteal_acts (s : Server) : Acts input s s.trySteal := by
  unfold trySteal
  split
  · exact .refl
  split
  · exact .refl
  · exact (note_acts s s.shard _ s.votes s.stats).trans (say_acts _ _ rfl)

/-- Sharing units with a peer is made of acts. -/
theorem onStealRequest_acts (s : Server) (source : Rank) (wanted : List WorkType) (load : Load) :
    Acts input s (s.onStealRequest source wanted load) := by
  obtain ⟨wanted', peers, stats, load', e⟩ := onStealRequest_eq s source wanted load
  rw [e]
  have noted : Acts input s { s with peers, stats } := note_acts s s.shard peers s.votes stats
  exact (noted.tail (.share _ wanted')).trans (say_acts _ source rfl)

/-! ## Stopping -/

/-- Parked requests are refused one by one. -/
theorem refuseAll_acts (parked : List Parked) (s : Server) :
    Acts input s (parked.foldl (fun s p => s.respond p.rank p.tag (.error .shutdown)) s) := by
  induction parked generalizing s with
  | nil => exact .refl
  | cons p parked ih => exact (refuse_acts s p.rank p.tag _).trans (ih _)

/-- A server that has stopped answers what it had parked, and drops its waits and its backlog. -/
theorem stopped_acts (running : s.isShuttingDown = false) :
    Acts input { s with phase := .shuttingDown, waiting := {} } s.beginShutdown := by
  have answered : Acts input { s with phase := .shuttingDown, waiting := {} } _ :=
    refuseAll_acts s.waiting.drain.1 _
  generalize rest : s.waiting.drain.1.foldl (fun s p => s.respond p.rank p.tag (.error .shutdown))
    { s with phase := .shuttingDown, waiting := {} } = s₁ at answered
  obtain ⟨shard, stats, e⟩ : ∃ shard stats, s.beginShutdown =
      { s₁ with backlog := s₁.backlog.drain.2, shard, stats } := by
    rw [← rest]
    exact ⟨_, _, if_neg (Bool.eq_false_iff.1 running)⟩
  rw [e]
  exact answered.trans ((note_acts s₁ shard s₁.peers s₁.votes stats).tail (.drop _))

/-- **The end of the run**, as the master begins it. -/
theorem initiateShutdown_acts (master : s.isMaster = true) : Acts input s s.initiateShutdown := by
  unfold initiateShutdown
  split
  · exact .refl
  · rename_i running
    rw [Bool.not_eq_true] at running
    have still : (s.sendAll s.otherServers .shutdown).isShuttingDown = false := by
      rw [sendAll_eq rfl]
      exact running
    exact .head (.endRun s running master) (stopped_acts still)

/-- The master acts on a verdict. -/
theorem actOn_acts (master : s.isMaster = true) (verdict : Option Verdict) :
    Acts input s (s.actOn verdict) := by
  unfold actOn
  split
  · exact initiateShutdown_acts master
  · exact .refl

/-! ## Requests -/

/-- A worker asks for the end of the run. -/
theorem onServerShutdown_acts (s : Server) (source : Rank) (tag : UInt64) :
    Acts input s (s.onServerShutdown source tag) := by
  have told : Acts input s (if s.isMaster then s.initiateShutdown
      else s.send s.topology.master .shutdownRequested) := by
    split
    · rename_i master
      exact initiateShutdown_acts master
    · exact say_acts s _ rfl
  exact told.trans (respond_acts _ source tag fun u hu => nomatch hu)

/-- A put. -/
theorem onPut_acts (s : Server) (source : Rank) (tag : UInt64) (u : WorkUnit) :
    Acts input s (s.onPut source tag u) := by
  unfold onPut
  split
  · exact refuse_acts s source tag _
  · have noted (stats : ServerStats) : Acts input s { s with stats } :=
      note_acts s s.shard s.peers s.votes stats
    refine ((noted _).trans (submit_works _ u).1.acts).trans (respond_acts _ source tag ?_)
    intro v hv
    obtain ⟨_, -, e⟩ := map_eq_ok hv
    cases e

/-- An operation on data, with its effects. -/
theorem onData_acts {op : Operation} (h : s.onData source tag op = .ok s') : Acts input s s' := by
  obtain ⟨o, performed, h⟩ := bind_eq_ok h
  obtain ⟨s₁, hs₁, h⟩ := bind_eq_ok h
  cases h
  obtain ⟨⟨s₂, more⟩, hs₂, hs₁⟩ := bind_eq_ok hs₁
  cases hs₁
  have changed : Acts input s { s with shard := o.shard } :=
    note_acts s o.shard s.peers s.votes s.stats
  have noticed := changed.trans (notifyAll_works _ o.effects.notices).acts
  have stored := noticed.trans (storeReferences_works hs₂).acts
  exact (stored.trans (notifyAll_works s₂ more).acts).trans
    (respond_acts _ source tag (Shard.perform_ne_work performed))

/-- A worker that leaves. -/
theorem onFinalize_acts (s : Server) (source : Rank) (tag : UInt64) :
    Acts input s (s.onFinalize source tag) := by
  unfold onFinalize
  split
  · rename_i attached
    exact .head (.occupy s source .finalized attached)
      (respond_acts _ source tag fun u hu => nomatch hu)
  · exact refuse_acts s source tag _

theorem noteBusy_acts (s : Server) (source : Rank) : Acts input s (s.noteBusy source) := by
  unfold noteBusy
  split
  · exact .refl
  · exact .refl
  · rename_i state _ found
    split
    · exact .refl
    · refine .single (.occupy s source .busy ?_)
      rw [Table.contains, found]
      rfl

/-- **A request for work** is met from the backlog, or parked, or refused. -/
theorem onGet_serves (running : s.isShuttingDown = false) {type : WorkType}
    (asked : input = .message source (.request tag (.get type))) :
    Serves s input (s.onGet source tag type) := by
  unfold onGet
  split
  · exact .acts (refuse_acts s source tag _)
  split
  · exact .acts (refuse_acts s source tag _)
  rename_i attached
  replace attached := Decidable.not_not.1 attached
  have noted (stats : ServerStats) : Acts input s { s with stats } :=
    note_acts s s.shard s.peers s.votes stats
  split
  · rename_i u backlog popped
    exact .hand asked (noted { s.stats with getsServed := s.stats.getsServed + 1 }) running attached
      popped .refl
  · rename_i backlog unmet
    exact .park asked (noted { s.stats with requestsParked := s.stats.requestsParked + 1 }) running
      attached unmet (trySteal_acts _)

/-- **A request that is carried out.** -/
theorem onOwnRequest_serves (running : s.isShuttingDown = false) {body : Request}
    (asked : input = .message source (.request tag body))
    (h : s.onOwnRequest source tag body = .ok s') : Serves s input s' := by
  cases body with
  | get type =>
    cases h
    exact onGet_serves running asked
  | put u =>
    cases h
    exact .acts (onPut_acts s source tag u)
  | data op => exact .acts (onData_acts h)
  | serverIdle =>
    cases h
    exact .acts (respond_acts s source tag fun u hu => nomatch hu)
  | serverShutdown =>
    cases h
    exact .acts (onServerShutdown_acts s source tag)
  | finalize =>
    cases h
    exact .acts (onFinalize_acts s source tag)

/-- **A request**, carried out or refused. -/
theorem onRequest_serves {body : Request} (asked : input = .message source (.request tag body))
    (h : s.onRequest source tag body = .ok s') : Serves s input s' := by
  unfold onRequest at h
  split at h
  · cases h
    split
    · exact .acts (onFinalize_acts s source tag)
    · exact .acts (refuse_acts s source tag _)
  rename_i running
  split at h
  · cases h
    exact .acts (refuse_acts s source tag _)
  · obtain ⟨s₁, hs₁, h⟩ := bind_eq_ok h
    cases h
    rw [Bool.not_eq_true] at running
    exact (onOwnRequest_serves running asked hs₁).after (noteBusy_acts s₁ source)

/-! ## Messages and ticks -/

/-- A report, on which the master may act. -/
theorem onIdleReply_acts {round : UInt64} {report : IdleReport}
    (h : s.onIdleReply source round report = .ok s') : Acts input s s' := by
  unfold onIdleReply at h
  split at h
  · rename_i leads
    obtain ⟨⟨votes, verdict⟩, -, h⟩ := bind_eq_ok h
    cases h
    have master : ({ s with votes } : Server).isMaster = true := (Bool.and_eq_true_iff.1 leads).1
    exact (note_acts s s.shard s.peers votes s.stats).trans (actOn_acts master verdict)
  · cases h
    exact .refl

/-- **Every message** is handled by acts. -/
theorem dispatch_serves (h : s.dispatch source m = .ok s') : Serves s (.message source m) s' := by
  cases m with
  | request tag body => exact onRequest_serves rfl h
  | response | abort =>
    cases h
    exact .acts .refl
  | forwardPut u =>
    cases h
    exact .acts (accept_works s u).acts
  | stealRequest wanted load =>
    cases h
    exact .acts (onStealRequest_acts s source wanted load)
  | stealResponse units load =>
    cases h
    refine .acts (.trans ?_ (acceptAll_works _ units).acts)
    exact note_acts s s.shard _ s.votes _
  | idleQuery round =>
    cases h
    exact .acts (say_acts s source rfl)
  | idleReply round report => exact .acts (onIdleReply_acts h)
  | shutdown =>
    cases h
    by_cases already : s.isShuttingDown = true
    · rw [beginShutdown, if_pos already]
      exact .acts .refl
    · rw [Bool.not_eq_true] at already
      exact .acts (.head (.obey s source already rfl) (stopped_acts already))
  | shutdownRequested =>
    cases h
    split
    · rename_i master
      exact .acts (initiateShutdown_acts master)
    · exact .acts .refl

/-- A vote that the master opens. -/
theorem startVote_acts (master : s.isMaster = true) (h : s.startVote = .ok s') :
    Acts input s s' := by
  obtain ⟨⟨votes, round⟩, -, h⟩ := bind_eq_ok h
  have noted (votes : Quiescence) (stats : ServerStats) : Acts input s { s with votes, stats } :=
    note_acts s s.shard s.peers votes stats
  simp only at h
  split at h
  · obtain ⟨⟨votes', verdict⟩, -, h⟩ := bind_eq_ok h
    cases h
    refine (noted votes' _).trans (actOn_acts ?_ verdict)
    exact master
  · cases h
    exact (noted votes _).trans (sendAll_acts _ _ rfl)

/-- The time for a vote. -/
theorem onIdleTick_acts {flow : Flow} (h : s.onIdleTick = .ok (s', flow)) : Acts input s s' := by
  unfold onIdleTick at h
  split at h
  · rename_i opens
    obtain ⟨s₁, hs₁, h⟩ := bind_eq_ok h
    cases h
    simp only [Bool.and_eq_true] at opens
    exact startVote_acts opens.1.1.1 hs₁
  · cases h
    exact .refl

/-- **Everything that happens to a server** is handled by acts. -/
theorem step_serves {flow : Flow} (h : s.step input = .ok (s', flow)) : Serves s input s' := by
  cases input with
  | message source m =>
    have counted : Acts (.message source m) s (s.countArrival source m) := by
      rw [countArrival_eq]
      exact .single (.note s s.shard s.peers s.votes s.nextTag _ _ s.stats)
    exact .before counted (dispatch_serves (handle_eq_ok h).1)
  | stealTick =>
    cases h
    exact .acts (trySteal_acts s)
  | idleTick => exact .acts (onIdleTick_acts h)

end Server

end WorkPool
