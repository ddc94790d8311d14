import WorkPool.Proofs.Server.Steps

/-!
# Deeds: everything that a server does

Whatever happens to a server, it does one thing after the other, and there are few things that it
can do. A `Deed` is a task of work on units and data, or the server notes something, says
something, turns a unit down, hands one out, parks a request, shares units with a peer, or stops.
`Deeds` are sequences of them, with the units that came in and those that were **refused**.

A step is a sequence of deeds, and may end with a look for work if it left the backlog alone
(`Does`). The functions of a server are taken apart here, in `step_does`: which units come in, and
which are refused, is read off the message. What holds of every step of a server is then proved
for each deed.
-/

namespace WorkPool

/-! ## What comes in and what is refused -/

namespace Message

/-- Whether a message moves no unit and asks for none. -/
def isPlain : Message → Bool
  | .forwardPut _ | .stealRequest .. | .stealResponse .. | .response _ (.granted (.work _)) => false
  | _ => true

/-- An answer other than a unit is plain. -/
theorem isPlain_ofResult {tag : UInt64} {r : Except Error Reply} (h : ∀ u, r ≠ .ok (.work u)) :
    (Message.response tag (.ofResult r)).isPlain = true := by
  cases r with
  | error e => rfl
  | ok reply =>
    cases reply with
    | work u => exact absurd rfl (h u)
    | _ => rfl

/-- The units that a message brings. -/
def brings : Message → List WorkUnit
  | .request _ (.put u) => [u]
  | m => m.carried

/-- The tag of the request that a message refuses. -/
def refuses? : Message → Option UInt64
  | .response tag (.refused _) => some tag
  | _ => none

/-- A message that refuses something is a response that says so. -/
theorem eq_of_refuses? {m : Message} {tag : UInt64} (h : m.refuses? = some tag) :
    ∃ e, m = .response tag (.refused e) := by
  unfold refuses? at h
  split at h
  · cases h
    exact ⟨_, rfl⟩
  · cases h

end Message

/-- The unit that a request puts, if what is sent acknowledges it. -/
def Server.accepted (source : Rank) (m : Message) (out : List (Rank × Message)) : List WorkUnit :=
  match m with
  | .request tag (.put u) => if (source, .response tag (.granted .ack)) ∈ out then [u] else []
  | _ => []

/-- The unit that a request puts, if what is sent refuses the request. -/
def Server.rejected (source : Rank) (m : Message) (out : List (Rank × Message)) : List WorkUnit :=
  match m with
  | .request tag (.put u) =>
    if (source, some tag) ∈ out.map fun p => (p.1, p.2.refuses?) then [u] else []
  | _ => []

namespace Server

variable {s s₁ s' s'' : Server} {source : Rank} {m : Message}
  {ins refused ins' refused' : List WorkUnit}

/-- The units that an operation on data makes of notices: those of the operation itself, and those
that follow from members stored here. -/
def noticesOf (s : Server) (source : Rank) (op : Operation) : List WorkUnit :=
  match s.shard.perform source op with
  | .error _ => []
  | .ok o =>
    match ({ s with shard := o.shard }.notifyAll o.effects.notices).storeReferences
        o.effects.references with
    | .error _ => []
    | .ok (_, more) => s.noticeUnits (o.effects.notices ++ more)

/-- What is lost of them. -/
def spillsOf (s : Server) (source : Rank) (op : Operation) : List WorkUnit :=
  match s.shard.perform source op with
  | .error _ => []
  | .ok o =>
    let s := { s with shard := o.shard }
    match (s.notifyAll o.effects.notices).storeReferences o.effects.references with
    | .error _ => []
    | .ok (s', more) => s.spillsNotices o.effects.notices ++ s'.spillsNotices more

/-- The units that a server makes of notices when it handles a message. -/
def noticed (s : Server) (source : Rank) : Message → List WorkUnit
  | .request _ (.data op) =>
    if (s.wrongOwner? (.data op)).isNone then s.noticesOf source op else []
  | _ => []

/-- The units that a server loses when it handles a message. -/
def lost (s : Server) (source : Rank) : Message → List WorkUnit
  | .forwardPut u => s.spills u
  | .stealResponse units load =>
    { s with
      peers := s.peers.complete source load
      stats := { s.stats with stolenIn := s.stats.stolenIn + units.length } }.spillsAll units
  | .request _ (.data op) =>
    if (s.wrongOwner? (.data op)).isNone then s.spillsOf source op else []
  | _ => []

/-- What a server makes of notices, if it still carries out requests. -/
def made (s : Server) (source : Rank) : Message → List WorkUnit
  | .request tag body => if s.isShuttingDown then [] else s.noticed source (.request tag body)
  | _ => []

/-- The units that find the backlog full: those that come from servers, and those made of notices
if the server still carries out requests. -/
def overflow (s : Server) (source : Rank) : Message → List WorkUnit
  | .request tag body => if s.isShuttingDown then [] else s.lost source (.request tag body)
  | m => s.lost source m

/-- What a server has added to what it sends. -/
def said (s s' : Server) : List (Rank × Message) := s'.outbox.drop s.outbox.length

/-- What a server has said is what it has added to its outbox. -/
theorem said_eq {new : List (Rank × Message)} (h : s'.outbox = s.outbox ++ new) :
    s.said s' = new := by
  rw [said, h, List.drop_left]

/-- The units that are dropped if the server stops. -/
def drained (s s' : Server) : List WorkUnit := if s'.phase = s.phase then [] else s.backlog.units

/-! ## Deeds -/

/-- One thing that a server does, with the units that come in and those that are refused. -/
inductive Deed : Server → List WorkUnit → List WorkUnit → Server → Prop where
  /-- work on units and data -/
  | work {s s' : Server} {ins refused : List WorkUnit} (task : Task s ins refused s') :
    Deed s ins refused s'
  /-- something is noted -/
  | note (s : Server) (shard : Shard) (votes : Quiescence) (workers : Table Rank WorkerState)
    (stats : ServerStats) : Deed s [] [] { s with shard, votes, workers, stats }
  /-- something is said -/
  | say (s : Server) (dest : Rank) (m : Message) (plain : m.isPlain = true) :
    Deed s [] [] (s.send dest m)
  /-- a unit from a worker is turned down -/
  | turnDown (s : Server) (dest : Rank) (tag : UInt64) (e : Error) (u : WorkUnit) :
    Deed s [u] [u] (s.respond dest tag (.error e))
  /-- a request for work is met -/
  | hand (s : Server) (dest : Rank) (tag : UInt64) (type : WorkType) {u : WorkUnit}
    {backlog : Backlog} (stats : ServerStats)
    (popped : s.backlog.popFor dest type = (some u, backlog)) :
    Deed s [] [] ({ s with backlog, stats }.respond dest tag (.ok (.work u)))
  /-- a request for work that cannot be met is parked -/
  | park (s : Server) (p : Parked) {backlog : Backlog} (workers : Table Rank WorkerState)
    (stats : ServerStats) (unmet : s.backlog.popFor p.rank p.type = (none, backlog)) :
    Deed s [] [] { s with waiting := s.waiting.park p, workers, stats }
  /-- units go to a peer -/
  | share (s : Server) (dest : Rank) (wanted : List WorkType) (load : Load) (peers : Peers)
    (stats : ServerStats) :
    Deed s [] [] ({ s with backlog := (s.backlog.steal wanted).2, peers, stats }.send dest
      (.stealResponse (s.backlog.steal wanted).1 load))
  /-- the server stops serving -/
  | stop (s : Server) : Deed s [] [] { s with phase := .shuttingDown, waiting := {} }
  /-- the backlog is dropped -/
  | drop (s : Server) : Deed s [] s.backlog.units { s with backlog := s.backlog.drain.2 }

/-- One deed after the other. -/
inductive Deeds : Server → List WorkUnit → List WorkUnit → Server → Prop where
  | done (s : Server) : Deeds s [] [] s
  | next {s s₁ s' : Server} {ins refused ins' refused' : List WorkUnit}
    (first : Deed s ins refused s₁) (later : Deeds s₁ ins' refused' s') :
    Deeds s (ins ++ ins') (refused ++ refused') s'

/-- A whole step: it may end with a look for work, if the backlog was left alone. -/
inductive Does : Server → List WorkUnit → List WorkUnit → Server → Prop where
  | only {s s' : Server} {ins refused : List WorkUnit} (deeds : Deeds s ins refused s') :
    Does s ins refused s'
  | looking {s s₁ : Server} {ins refused : List WorkUnit} (deeds : Deeds s ins refused s₁)
    (backlog : s₁.backlog = s.backlog) (workers : Table Rank WorkerState) :
    Does s ins refused { s₁.trySteal with workers }

/-- A single deed. -/
theorem Deed.deeds (h : Deed s ins refused s') : Deeds s ins refused s' := by
  have one := Deeds.next h (.done s')
  rwa [List.append_nil, List.append_nil] at one

/-- Deeds after deeds: what comes in and what is refused adds up. -/
theorem Deeds.trans (h : Deeds s ins refused s') (h' : Deeds s' ins' refused' s'') :
    Deeds s (ins ++ ins') (refused ++ refused') s'' := by
  induction h with
  | done => exact h'
  | next first later ih =>
    rw [List.append_assoc, List.append_assoc]
    exact .next first (ih h')

/-- No unit comes in with the first deeds. -/
theorem Deeds.first (h : Deeds s [] [] s') (h' : Deeds s' ins refused s'') :
    Deeds s ins refused s'' :=
  h.trans h'

/-- No unit comes in with the last deeds. -/
theorem Deeds.last (h : Deeds s ins refused s') (h' : Deeds s' [] [] s'') :
    Deeds s ins refused s'' := by
  have both := h.trans h'
  rwa [List.append_nil, List.append_nil] at both

/-- Tasks are deeds. -/
theorem Works.deeds (h : Works s ins refused s') : Deeds s ins refused s' := by
  induction h with
  | done s => exact .done s
  | next first later ih => exact .next (.work first) ih

/-! ## What deeds keep -/

/-- What a server keeps, and what it counts, whatever it does. -/
structure Steady (s s' : Server) : Prop where
  rank : s'.rank = s.rank
  topology : s'.topology = s.topology
  activity : s'.activity = s.activity
  received : s'.received = s.received
  /-- what is sent is counted -/
  sent : s'.sent + countedIn s.topology s.outbox = s.sent + countedIn s.topology s'.outbox
  /-- nothing that was to be sent is taken back -/
  outbox : s.outbox <+: s'.outbox

theorem Steady.refl (s : Server) : Steady s s := ⟨rfl, rfl, rfl, rfl, rfl, List.prefix_refl _⟩

/-- Steady twice over. -/
theorem Steady.trans (h : Steady s s') (h' : Steady s' s'') : Steady s s'' where
  rank := h'.rank.trans h.rank
  topology := h'.topology.trans h.topology
  activity := h'.activity.trans h.activity
  received := h'.received.trans h.received
  sent := by
    have first := h.sent
    have later := h'.sent
    rw [h.topology] at later
    omega
  outbox := h.outbox.trans h'.outbox

/-- A server that has served is steady. -/
theorem Served.steady (h : Served s s') : Steady s s' := by
  obtain ⟨new, hnew, -⟩ := h.outbox
  exact ⟨h.rank, h.topology, h.activity, h.received, h.sent, ⟨new, hnew.symm⟩⟩

theorem steady_send (s : Server) (dest : Rank) (m : Message) : Steady s (s.send dest m) :=
  ⟨rfl, rfl, rfl, rfl, sent_send s dest m, List.prefix_append ..⟩

/-- **Every deed** leaves a server who and where it is. -/
theorem Deed.steady (h : Deed s ins refused s') : Steady s s' := by
  cases h with
  | work task => exact task.served.steady
  | note | park | stop | drop => exact ⟨rfl, rfl, rfl, rfl, rfl, List.prefix_refl _⟩
  | say dest m plain => exact steady_send s dest m
  | turnDown dest tag e u => exact steady_send s dest _
  | @hand dest tag type u backlog stats popped =>
    have taken : Steady s { s with backlog, stats } := ⟨rfl, rfl, rfl, rfl, rfl, List.prefix_refl _⟩
    exact taken.trans (steady_send _ dest _)
  | share dest wanted load peers stats =>
    have taken : Steady s { s with backlog := (s.backlog.steal wanted).2, peers, stats } :=
      ⟨rfl, rfl, rfl, rfl, rfl, List.prefix_refl _⟩
    exact taken.trans (steady_send _ dest _)

/-- Any number of deeds leaves a server who and where it is. -/
theorem Deeds.steady (h : Deeds s ins refused s') : Steady s s' := by
  induction h with
  | done s => exact .refl s
  | next first later ih => exact first.steady.trans ih

/-- **Whatever a server does**, it counts what it sends. -/
theorem Does.steady (h : Does s ins refused s') : Steady s s' := by
  cases h with
  | only deeds => exact deeds.steady
  | looking deeds backlog workers =>
    have looked := deeds.steady.trans (served_trySteal _).steady
    exact ⟨looked.rank, looked.topology, looked.activity, looked.received, looked.sent,
      looked.outbox⟩

/-- Which units are to be held here does not change. -/
theorem Steady.holds (h : Steady s s') (u : WorkUnit) : s'.holds u = s.holds u := by
  simp only [Server.holds, holder, h.rank, h.topology]

/-- The room for units does not change. -/
theorem Deed.capacity (h : Deed s ins refused s') : s'.backlog.capacity = s.backlog.capacity := by
  cases h with
  | work task =>
    cases task with
    | place u held =>
      unfold place
      split
      · rfl
      · exact Backlog.capacity_push s.backlog _
    | note | forward | ask => rfl
  | hand dest tag type stats popped => exact Backlog.capacity_popFor popped
  | share dest wanted load peers stats => exact Backlog.capacity_steal s.backlog wanted
  | note | say | turnDown | park | stop | drop => rfl

/-- There is room for as many units as ever. -/
theorem Deeds.capacity (h : Deeds s ins refused s') :
    s'.backlog.capacity = s.backlog.capacity := by
  induction h with
  | done s => rfl
  | next first later ih => exact ih.trans first.capacity

theorem Does.capacity (h : Does s ins refused s') : s'.backlog.capacity = s.backlog.capacity := by
  cases h with
  | only deeds => exact deeds.capacity
  | @looking s₁ ins refused deeds backlog workers =>
    have looked : s₁.trySteal.backlog = s₁.backlog := by
      unfold trySteal
      split
      · rfl
      split <;> rfl
    show s₁.trySteal.backlog.capacity = s.backlog.capacity
    rw [looked, backlog]

/-! ## Saying and noting -/

/-- An answer other than a unit brings nothing in. -/
theorem respond_deeds (s : Server) (dest : Rank) (tag : UInt64) {r : Except Error Reply}
    (h : ∀ u, r ≠ .ok (.work u)) : Deeds s [] [] (s.respond dest tag r) :=
  (Deed.say s dest _ (Message.isPlain_ofResult h)).deeds

theorem refuse_deeds (s : Server) (dest : Rank) (tag : UInt64) (e : Error) :
    Deeds s [] [] (s.respond dest tag (.error e)) := (Deed.say s dest _ rfl).deeds

/-- A plain message to all brings nothing in. -/
theorem sendAll_deeds (plain : m.isPlain = true) (s : Server) (dest : List Rank) :
    Deeds s [] [] (s.sendAll dest m) := by
  unfold sendAll
  induction dest generalizing s with
  | nil => exact .done s
  | cons r dest ih => exact (Deed.say s r m plain).deeds.first (ih _)

/-- Nothing is dropped by a server that goes on as before. -/
theorem Deeds.still (h : Deeds s ins refused s') (phase : s'.phase = s.phase) :
    Deeds s ins (refused ++ s.drained s') s' := by
  rw [drained, if_pos phase, List.append_nil]
  exact h

/-- A server that stays in its phase has dropped nothing. -/
theorem Does.still (h : Does s ins refused s') (phase : s'.phase = s.phase) :
    Does s ins (refused ++ s.drained s') s' := by
  rw [drained, if_pos phase, List.append_nil]
  exact h

/-- Noting that a worker is busy changes nothing for the units. -/
theorem Does.noteBusy (h : Does s ins refused s') (source : Rank) :
    Does s ins refused (s'.noteBusy source) := by
  obtain ⟨workers, e⟩ := noteBusy_eq s' source
  rw [e]
  cases h with
  | only deeds => exact .only (deeds.last (Deed.note s' s'.shard s'.votes workers s'.stats).deeds)
  | looking deeds backlog _ => exact .looking deeds backlog workers

/-! ## Stopping -/

theorem refuseAll_backlog (parked : List Parked) (s : Server) :
    (parked.foldl (fun s p => s.respond p.rank p.tag (.error .shutdown)) s).backlog =
      s.backlog := by
  induction parked generalizing s with
  | nil => rfl
  | cons p parked ih => exact ih _

/-- Refusing all parked requests is plain. -/
theorem refuseAll_deeds (parked : List Parked) (s : Server) :
    Deeds s [] [] (parked.foldl (fun s p => s.respond p.rank p.tag (.error .shutdown)) s) := by
  induction parked generalizing s with
  | nil => exact .done s
  | cons p parked ih => exact (refuse_deeds s p.rank p.tag _).first (ih _)

/-- **A server that stops** drops its backlog. -/
theorem beginShutdown_deeds (s : Server) :
    Deeds s [] (s.drained s.beginShutdown) s.beginShutdown := by
  by_cases already : s.isShuttingDown
  · have same : s.beginShutdown = s := if_pos already
    rw [same]
    exact (Deeds.done s).still rfl
  · have dropped : s.drained s.beginShutdown = s.backlog.units := by
      refine if_neg fun same => already ?_
      rw [isShuttingDown, ← same, phase_beginShutdown]
      rfl
    have stopped := (Deed.stop s).deeds.first (refuseAll_deeds s.waiting.drain.1 _)
    have backlog := refuseAll_backlog s.waiting.drain.1
      { s with phase := .shuttingDown, waiting := {} }
    generalize answered : s.waiting.drain.1.foldl
      (fun s p => s.respond p.rank p.tag (.error .shutdown))
      { s with phase := .shuttingDown, waiting := {} } = s₁ at stopped backlog
    obtain ⟨shard, stats, e⟩ : ∃ shard stats, s.beginShutdown =
        { s₁ with backlog := s₁.backlog.drain.2, shard, stats } := by
      rw [← answered]
      exact ⟨_, _, if_neg already⟩
    have dropping := (Deed.drop s₁).deeds.last (Deed.note _ shard s₁.votes s₁.workers stats).deeds
    rw [backlog] at dropping
    rw [dropped, e, backlog]
    exact stopped.first dropping

/-- **The end of the run** drops what is queued, and that is refused. -/
theorem initiateShutdown_deeds (s : Server) :
    Deeds s [] (s.drained s.initiateShutdown) s.initiateShutdown := by
  by_cases already : s.isShuttingDown
  · have same : s.initiateShutdown = s := if_pos already
    rw [same]
    exact (Deeds.done s).still rfl
  · have told := sendAll_deeds (m := .shutdown) rfl s s.otherServers
    have stopped := told.first (beginShutdown_deeds _)
    have drops : (s.sendAll s.otherServers .shutdown).drained = s.drained := by
      rw [sendAll_eq rfl]
      rfl
    rw [drops] at stopped
    rwa [initiateShutdown, if_neg already]

/-- A verdict may end the run. -/
theorem actOn_deeds (s : Server) (verdict : Option Verdict) :
    Deeds s [] (s.drained (s.actOn verdict)) (s.actOn verdict) := by
  unfold actOn
  split
  · exact initiateShutdown_deeds s
  · exact (Deeds.done s).still rfl

/-- A worker may end the run. -/
theorem onServerShutdown_deeds (s : Server) (source : Rank) (tag : UInt64) :
    Deeds s [] (s.drained (s.onServerShutdown source tag)) (s.onServerShutdown source tag) := by
  have told : Deeds s [] (s.drained (if s.isMaster then s.initiateShutdown
      else s.send s.topology.master .shutdownRequested)) (if s.isMaster then s.initiateShutdown
      else s.send s.topology.master .shutdownRequested) := by
    split
    · exact initiateShutdown_deeds s
    · exact (Deed.say s s.topology.master .shutdownRequested rfl).deeds.still rfl
  exact told.last (respond_deeds _ source tag fun u hu => nomatch hu)

/-! ## Requests -/

/-- A request for work hands out what is queued, or is parked, and the server looks for work. -/
theorem onGet_does (s : Server) (source : Rank) (tag : UInt64) (type : WorkType) :
    Does s [] [] (s.onGet source tag type) := by
  unfold onGet
  split
  · exact .only (refuse_deeds s source tag _)
  split
  · exact .only (refuse_deeds s source tag _)
  split
  · rename_i u backlog popped
    exact .only (Deed.hand s source tag type _ popped).deeds
  · rename_i backlog unmet
    exact .looking (Deed.park s ⟨source, tag, type⟩ _ _ unmet).deeds rfl _

/-- Among some messages there are no answers but units. -/
def AnswersWork (out : List (Rank × Message)) : Prop :=
  ∀ dest tag answer, (dest, .response tag answer) ∈ out → ∃ u, answer = .granted (.work u)

theorem answersWork_nil : AnswersWork [] := fun _ _ _ sent => nomatch sent

/-- Tasks answer nothing but requests for work. -/
theorem Served.answersWork (h : Served s s') :
    ∃ new, s'.outbox = s.outbox ++ new ∧ AnswersWork new := by
  obtain ⟨new, hnew, kinds⟩ := h.outbox
  refine ⟨new, hnew, fun dest tag answer sent => ?_⟩
  rcases kinds _ sent with errand | ⟨u, work, -⟩
  · exact errand.elim
  · obtain ⟨tag', e⟩ := Message.eq_of_work? work
    cases e
    exact ⟨u, rfl⟩

/-- After work, a put is acknowledged or refused by the answer to it. -/
theorem AnswersWork.put_answered {out : List (Rank × Message)} (h : AnswersWork out) (source : Rank)
    (tag : UInt64) (u : WorkUnit) (r : Except Error Unit) :
    accepted source (.request tag (.put u))
        (out ++ [(source, .response tag (.ofResult (r.map fun _ => .ack)))]) =
      (if r.isOk then [u] else []) ∧
    rejected source (.request tag (.put u))
        (out ++ [(source, .response tag (.ofResult (r.map fun _ => .ack)))]) =
      (if r.isOk then [] else [u]) := by
  cases r with
  | ok =>
    constructor
    · exact if_pos (List.mem_append_right _ List.mem_cons_self)
    · refine if_neg fun sent => ?_
      obtain ⟨⟨dest, m⟩, sent, e⟩ := List.mem_map.1 sent
      obtain ⟨refusal, rfl⟩ := Message.eq_of_refuses? (congrArg Prod.snd e)
      rcases List.mem_append.1 sent with sent | sent
      · obtain ⟨u, e⟩ := h _ _ _ sent
        cases e
      · cases List.mem_singleton.1 sent
  | error e =>
    constructor
    · refine if_neg fun sent => ?_
      rcases List.mem_append.1 sent with sent | sent
      · obtain ⟨u, e⟩ := h _ _ _ sent
        cases e
      · cases List.mem_singleton.1 sent
    · exact if_pos (List.mem_map.2 ⟨_, List.mem_append_right _ List.mem_cons_self, rfl⟩)

/-- Refusing any request; if it is a put, its unit is turned down. -/
theorem refuse_does (s : Server) (source : Rank) (tag : UInt64) (e : Error) (body : Request) :
    Does s (Message.request tag body).brings
      (rejected source (.request tag body) (s.said (s.respond source tag (.error e))))
      (s.respond source tag (.error e)) := by
  cases body with
  | put u =>
    have answered : rejected source (.request tag (.put u))
        [(source, .response tag (.ofResult (.error e)))] = [u] :=
      (answersWork_nil.put_answered source tag u (.error e)).2
    rw [said_eq rfl, answered]
    exact .only (Deed.turnDown s source tag e u).deeds
  | _ => exact .only (refuse_deeds s source tag e)

/-- The unit of a put is submitted, or turned down at once; either way a result is answered. -/
theorem onPut_cases (s : Server) (source : Rank) (tag : UInt64) (u : WorkUnit) :
    ∃ (s₁ : Server) (out : List (Rank × Message)) (r : Except Error Unit),
      s₁.outbox = s.outbox ++ out ∧ AnswersWork out ∧
      s.onPut source tag u = s₁.respond source tag (r.map fun _ => .ack) ∧
      Deeds s [u] (if r.isOk then [] else [u]) (s.onPut source tag u) := by
  cases checked : s.checkPut u with
  | error e =>
    have answered : s.onPut source tag u = s.respond source tag (.error e) := by
      simp only [onPut, checked]
    refine ⟨s, [], .error e, (List.append_nil _).symm, answersWork_nil, answered, ?_⟩
    rw [answered]
    exact (Deed.turnDown s source tag e u).deeds
  | ok =>
    let s₀ : Server := { s with stats := { s.stats with puts := s.stats.puts + 1 } }
    have answered : s.onPut source tag u =
        (s₀.submit u).1.respond source tag ((s₀.submit u).2.map fun _ => .ack) := by
      simp only [onPut, checked]
      rfl
    have noted : Works s [] [] s₀ := (Task.note s s.shard s.peers s.nextTag _ id).works
    obtain ⟨works, result⟩ := submit_works s₀ u
    have submitted := noted.trans works
    obtain ⟨out, hout, only⟩ := submitted.served.answersWork
    rw [spills_eq] at submitted
    refine ⟨(s₀.submit u).1, out, (s₀.submit u).2, hout, only, answered, ?_⟩
    rw [answered]
    refine submitted.deeds.last (respond_deeds _ source tag fun v hv => ?_)
    obtain ⟨_, -, e⟩ := map_eq_ok hv
    cases e

/-- **A put is acknowledged or refused**, and it is refused exactly if its unit is neither here
nor sent on. -/
theorem onPut_deeds (s : Server) (source : Rank) (tag : UInt64) (u : WorkUnit) :
    Deeds s [u] (rejected source (.request tag (.put u)) (s.said (s.onPut source tag u)))
      (s.onPut source tag u) ∧
    accepted source (.request tag (.put u)) (s.said (s.onPut source tag u)) ++
      rejected source (.request tag (.put u)) (s.said (s.onPut source tag u)) = [u] := by
  obtain ⟨s₁, out, r, hout, only, answered, deeds⟩ := onPut_cases s source tag u
  have said : s.said (s.onPut source tag u) =
      out ++ [(source, .response tag (.ofResult (r.map fun _ => .ack)))] := by
    refine said_eq ?_
    rw [answered, ← List.append_assoc, ← hout]
    rfl
  obtain ⟨accepted, rejected⟩ := only.put_answered source tag u r
  rw [said, accepted, rejected]
  refine ⟨deeds, ?_⟩
  cases r <;> rfl

/-- **An operation on data** makes units of notices. -/
theorem onData_deeds {tag : UInt64} {op : Operation} (h : s.onData source tag op = .ok s') :
    Deeds s (s.noticesOf source op) (s.spillsOf source op) s' := by
  obtain ⟨o, performed, h⟩ := bind_eq_ok h
  obtain ⟨s₁, applied, h⟩ := bind_eq_ok h
  cases h
  obtain ⟨⟨s₂, more⟩, stored, applied⟩ := bind_eq_ok applied
  cases applied
  have first := notifyAll_works { s with shard := o.shard } o.effects.notices
  have between := storeReferences_works stored
  have later := notifyAll_works s₂ more
  have same : s₂.noticeUnits = s.noticeUnits :=
    noticeUnits_congr ((first.trans between).served.rank) ((first.trans between).served.settings)
  have units : s.noticesOf source op =
      s.noticeUnits o.effects.notices ++ [] ++ s₂.noticeUnits more := by
    rw [same]
    simp only [noticesOf, performed, stored, noticeUnits, List.map_append, List.append_nil]
  have lost : s.spillsOf source op =
      spillsNotices { s with shard := o.shard } o.effects.notices ++ [] ++
        s₂.spillsNotices more := by
    simp only [spillsOf, performed, stored, List.append_nil]
  rw [units, lost]
  have noted := (Deed.note s o.shard s.votes s.workers s.stats).deeds
  have carriedOut := noted.first ((first.trans between).trans later).deeds
  exact carriedOut.last (respond_deeds _ source tag (Shard.perform_ne_work performed))

/-- A worker that leaves takes no unit with it. -/
theorem onFinalize_deeds (s : Server) (source : Rank) (tag : UInt64) :
    Deeds s [] [] (s.onFinalize source tag) := by
  unfold onFinalize
  split
  · have noted := (Deed.note s s.shard s.votes (s.workers.insert source .finalized) s.stats).deeds
    exact noted.first (respond_deeds _ source tag fun u hu => nomatch hu)
  · exact refuse_deeds s source tag _

/-- **A request that is carried out** brings in what it puts and the notices that are made of it. -/
theorem onOwnRequest_does {tag : UInt64} {body : Request} (own : s.wrongOwner? body = none)
    (h : s.onOwnRequest source tag body = .ok s') :
    Does s ((Message.request tag body).brings ++ s.noticed source (.request tag body))
      (rejected source (.request tag body) (s.said s') ++
        (s.lost source (.request tag body) ++ s.drained s')) s' := by
  cases body with
  | get type =>
    cases h
    exact (onGet_does s source tag type).still (onGet_handled s source tag type).phase
  | put u =>
    cases h
    exact .only ((onPut_deeds s source tag u).1.still (onPut_handled s source tag u).phase)
  | data op =>
    rw [noticed, lost, own]
    exact .only ((onData_deeds h).still (onData_handled h).phase)
  | serverIdle =>
    cases h
    refine .only ((respond_deeds s source tag fun u hu => ?_).still rfl)
    cases hu
  | serverShutdown =>
    cases h
    exact .only (onServerShutdown_deeds s source tag)
  | finalize =>
    cases h
    exact .only ((onFinalize_deeds s source tag).still (onFinalize_handled s source tag).phase)

/-- **A request** is answered or parked. A server that shuts down, or does not own the datum,
refuses it. -/
theorem onRequest_does {tag : UInt64} {body : Request}
    (h : s.onRequest source tag body = .ok s') :
    Does s ((Message.request tag body).brings ++ s.made source (.request tag body))
      (rejected source (.request tag body) (s.said s') ++
        (s.overflow source (.request tag body) ++ s.drained s')) s' := by
  unfold onRequest at h
  split at h
  · rename_i stopped
    have unmade : s.made source (.request tag body) = [] := if_pos stopped
    have unlost : s.overflow source (.request tag body) = [] := if_pos stopped
    rw [unmade, unlost, List.append_nil]
    cases h
    by_cases leaves : body = .finalize
    · subst leaves
      exact .only ((onFinalize_deeds s source tag).still (onFinalize_handled s source tag).phase)
    · rw [if_neg leaves]
      exact (refuse_does s source tag _ body).still rfl
  rename_i serves
  have made : s.made source (.request tag body) = s.noticed source (.request tag body) :=
    if_neg serves
  have lost : s.overflow source (.request tag body) = s.lost source (.request tag body) :=
    if_neg serves
  rw [made, lost]
  split at h
  · rename_i id owner wrong
    cases h
    cases body with
    | data op =>
      rw [noticed, Server.lost, wrong]
      exact (refuse_does s source tag _ (.data op)).still rfl
    | _ => cases wrong
  · rename_i own
    obtain ⟨s₁, hs₁, h⟩ := bind_eq_ok h
    cases h
    have does := (onOwnRequest_does own hs₁).noteBusy source
    obtain ⟨workers, e⟩ := noteBusy_eq s₁ source
    rw [e] at does ⊢
    exact does

/-! ## Messages and ticks -/

/-- What is shared with a peer was queued. -/
theorem onStealRequest_deeds (s : Server) (source : Rank) (wanted : List WorkType) (load : Load) :
    Deeds s [] [] (s.onStealRequest source wanted load) := by
  obtain ⟨wanted', peers, stats, load', e⟩ := onStealRequest_eq s source wanted load
  rw [e]
  exact (Deed.share s source wanted' load' peers stats).deeds

/-- A report may complete a vote, and end the run. -/
theorem onIdleReply_deeds {round : UInt64} {report : IdleReport}
    (h : s.onIdleReply source round report = .ok s') : Deeds s [] (s.drained s') s' := by
  unfold onIdleReply at h
  split at h
  · obtain ⟨⟨votes, verdict⟩, -, h⟩ := bind_eq_ok h
    cases h
    have noted := (Deed.note s s.shard votes s.workers s.stats).deeds
    exact noted.first (actOn_deeds { s with votes } verdict)
  · cases h
    exact (Deeds.done s).still rfl

/-- **Every message** is handled by deeds. What it brings comes in, and so does what is made of
notices; a unit is refused if its put is, if it finds the backlog full, or if the server stops. -/
theorem dispatch_does (h : s.dispatch source m = .ok s') :
    Does s (m.brings ++ s.made source m)
      (rejected source m (s.said s') ++ (s.overflow source m ++ s.drained s')) s' := by
  cases m with
  | request tag body => exact onRequest_does h
  | forwardPut u =>
    cases h
    exact .only ((accept_works s u).deeds.still (accept_works s u).served.phase)
  | stealResponse units load =>
    cases h
    have noted := (Task.note s s.shard (s.peers.complete source load) s.nextTag
      { s.stats with stolenIn := s.stats.stolenIn + units.length } id).works
    have accepted := noted.trans (acceptAll_works _ units)
    have brought : (Message.stealResponse units load).brings ++
        s.made source (.stealResponse units load) = units := List.append_nil units
    rw [brought]
    exact .only (accepted.deeds.still accepted.served.phase)
  | stealRequest wanted load =>
    cases h
    exact .only ((onStealRequest_deeds s source wanted load).still rfl)
  | idleQuery round =>
    cases h
    exact .only ((Deed.say s source (.idleReply round s.idleReport) rfl).deeds.still rfl)
  | idleReply round report => exact .only (onIdleReply_deeds h)
  | shutdown =>
    cases h
    exact .only (beginShutdown_deeds s)
  | shutdownRequested =>
    cases h
    split
    · exact .only (initiateShutdown_deeds s)
    · exact .only ((Deeds.done s).still rfl)
  | response | abort =>
    cases h
    exact .only ((Deeds.done s).still rfl)

/-- A vote that a single server opens may end the run. -/
theorem startVote_deeds (h : s.startVote = .ok s') : Deeds s [] (s.drained s') s' := by
  obtain ⟨⟨votes, round⟩, -, h⟩ := bind_eq_ok h
  have noted (votes : Quiescence) (stats : ServerStats) :=
    (Deed.note s s.shard votes s.workers stats).deeds
  simp only at h
  split at h
  · obtain ⟨⟨votes', verdict⟩, -, h⟩ := bind_eq_ok h
    cases h
    exact (noted votes' _).first (actOn_deeds _ verdict)
  · cases h
    refine ((noted votes _).first (sendAll_deeds (m := .idleQuery round) rfl _ _)).still ?_
    rw [sendAll_eq rfl]

/-- The time for a vote may end the run. -/
theorem onIdleTick_deeds {flow : Flow} (h : s.onIdleTick = .ok (s', flow)) :
    Deeds s [] (s.drained s') s' := by
  unfold onIdleTick at h
  split at h
  · obtain ⟨s₁, hs₁, h⟩ := bind_eq_ok h
    cases h
    exact startVote_deeds hs₁
  · cases h
    exact (Deeds.done s).still rfl

/-- The state in which a server handles what happens: a message has been counted. -/
def arrived (s : Server) : Input → Server
  | .message source m => s.countArrival source m
  | .stealTick | .idleTick => s

/-- The units that come in with what happens: those that a message brings, and those made of
notices. -/
def takesIn (s : Server) : Input → List WorkUnit
  | .message source m => m.brings ++ (s.countArrival source m).made source m
  | .stealTick | .idleTick => []

/-- **Everything that happens to a server** is handled by deeds. -/
theorem step_takes {input : Input} {flow : Flow} (h : s.step input = .ok (s', flow)) :
    ∃ refused, Does (s.arrived input) (s.takesIn input) refused s' := by
  cases input with
  | message source m =>
    exact ⟨_, dispatch_does (handle_eq_ok h).1⟩
  | stealTick =>
    cases h
    exact ⟨[], .looking (.done s) rfl _⟩
  | idleTick => exact ⟨_, .only (onIdleTick_deeds h)⟩

/-- **Every step** is made of such deeds. -/
theorem step_does {input : Input} {flow : Flow} (h : s.step input = .ok (s', flow)) :
    ∃ ins refused, Does (s.arrived input) ins refused s' := ⟨_, step_takes h⟩

end Server

end WorkPool
