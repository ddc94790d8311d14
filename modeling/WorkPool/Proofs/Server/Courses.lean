import WorkPool.Proofs.Server.Routing

/-!
# Courses: a server goes on, or stops

A step has one of three outcomes. The server **goes on** in its phase: it counts no unit as
discarded, and a worker that has left is left alone, unless a unit goes to a request that it still
has parked (`Goes`). Or the server **stops** serving: it drops its backlog, counts it, and leaves
every worker that has left alone (`Halts`). Or a worker asks for work, and **is granted** it or
waits for it (`Grants`).

The first two are the `Course` of a step, and the functions of a server are taken apart here to see
which it is (`step_course`, `step_grants`). What holds of a whole run then follows by induction over
its steps, which are listed in `Server.steps` (`steps_induction`).
-/

namespace WorkPool

/-- What some messages hand to a rank. -/
def handedTo (x : Rank) (messages : List (Rank × Message)) : List Handed :=
  (handsIn messages).filter fun d => d.rank == x

@[simp] theorem handedTo_append (x : Rank) (a b : List (Rank × Message)) :
    handedTo x (a ++ b) = handedTo x a ++ handedTo x b := by
  rw [handedTo, handsIn_append, List.filter_append]
  rfl

/-- What is handed to a worker is read off the units that are handed out. -/
theorem handedTo_congr {a b : List (Rank × Message)} (h : handsIn a = handsIn b) (x : Rank) :
    handedTo x a = handedTo x b := by
  rw [handedTo, h]
  rfl

namespace Server

variable {input : Input} {flow : Flow} {s s₁ s' : Server} {source x : Rank} {tag : UInt64}
  {m : Message}

/-! ## One worker -/

/-- A worker is left alone: if it has left, it has left still, and nothing is handed to it. -/
structure Spares (x : Rank) (s s' : Server) : Prop where
  finalized : s.workers.find? x = some .finalized → s'.workers.find? x = some .finalized
  handed : handedTo x s'.outbox = handedTo x s.outbox

/-- Units go to requests that a worker had parked. -/
structure Meets (x : Rank) (s s' : Server) : Prop where
  parked : s'.parkedFor x < s.parkedFor x
  handed : (handedTo x s.outbox).length < (handedTo x s'.outbox).length

/-- A worker is left alone and keeps its place in the line, or its requests are met. -/
def Regards (x : Rank) (s s' : Server) : Prop :=
  Spares x s s' ∧ s'.parkedFor x = s.parkedFor x ∨ Meets x s s'

/-- Sparing a worker twice spares it. -/
theorem Spares.trans (h : Spares x s s₁) (h' : Spares x s₁ s') : Spares x s s' :=
  ⟨fun left => h'.finalized (h.finalized left), h'.handed.trans h.handed⟩

/-- A worker that is regarded in two stages is regarded in one. -/
theorem Regards.trans (h : Regards x s s₁) (h' : Regards x s₁ s') : Regards x s s' := by
  rcases h with ⟨spares, same⟩ | meets <;> rcases h' with ⟨spares', same'⟩ | meets'
  · exact .inl ⟨spares.trans spares', same'.trans same⟩
  · exact .inr ⟨same ▸ meets'.parked, spares.handed ▸ meets'.handed⟩
  · exact .inr ⟨same' ▸ meets.parked, spares'.handed ▸ meets.handed⟩
  · exact .inr ⟨meets'.parked.trans meets.parked, meets.handed.trans meets'.handed⟩

/-- A worker has been handed no less afterwards. -/
theorem Regards.length_le (h : Regards x s s') :
    (handedTo x s.outbox).length ≤ (handedTo x s'.outbox).length := by
  rcases h with ⟨spares, -⟩ | meets
  · rw [spares.handed]
  · exact Nat.le_of_lt meets.handed

/-! ## Going on -/

/-- A server goes on as before. -/
structure Goes (s s' : Server) : Prop where
  phase : s'.phase = s.phase
  discarded : s'.stats.unitsDiscarded = s.stats.unitsDiscarded
  regards : ∀ x, Regards x s s'

/-- Going on, and going on from there. -/
theorem Goes.trans (h : Goes s s₁) (h' : Goes s₁ s') : Goes s s' :=
  ⟨h'.phase.trans h.phase, h'.discarded.trans h.discarded,
    fun x => (h.regards x).trans (h'.regards x)⟩

/-- A server that spares every worker goes on. -/
theorem goes_of_spares (phase : s'.phase = s.phase)
    (discarded : s'.stats.unitsDiscarded = s.stats.unitsDiscarded)
    (waiting : s'.waiting = s.waiting) (spares : ∀ x, Spares x s s') : Goes s s' := by
  refine ⟨phase, discarded, fun x => .inl ⟨spares x, ?_⟩⟩
  rw [parkedFor, waiting]
  rfl

/-- Whatever a server notes about other things. -/
theorem goes_note (phase : s'.phase = s.phase)
    (discarded : s'.stats.unitsDiscarded = s.stats.unitsDiscarded)
    (waiting : s'.waiting = s.waiting) (workers : s'.workers = s.workers)
    (outbox : handsIn s'.outbox = handsIn s.outbox) : Goes s s' := by
  refine goes_of_spares phase discarded waiting fun x => ⟨fun left => ?_, handedTo_congr outbox x⟩
  rw [workers]
  exact left

theorem Goes.refl (s : Server) : Goes s s := goes_note rfl rfl rfl rfl rfl

/-- Counting is going on, if the units that were discarded stay as many. -/
theorem goes_stats (s : Server) (stats : ServerStats)
    (same : stats.unitsDiscarded = s.stats.unitsDiscarded) : Goes s { s with stats } :=
  goes_note rfl same rfl rfl rfl

/-- A message that hands out no unit. -/
theorem send_goes (s : Server) (dest : Rank) (h : m.hands? dest = none) :
    Goes s (s.send dest m) :=
  goes_note rfl rfl rfl rfl (handsIn_send s dest h)

/-- An answer other than a unit. -/
theorem respond_goes (s : Server) (dest : Rank) (tag : UInt64) {r : Except Error Reply}
    (h : ∀ u, r ≠ .ok (.work u)) : Goes s (s.respond dest tag r) :=
  send_goes s dest (Message.hands?_of_isOrdinary (Message.isOrdinary_ofResult h) dest)

theorem refuse_goes (s : Server) (dest : Rank) (tag : UInt64) (e : Error) :
    Goes s (s.respond dest tag (.error e)) := send_goes s dest rfl

/-- A unit that is handed out is handed to one rank. -/
theorem handedTo_respond (s : Server) (dest : Rank) (tag : UInt64) (u : WorkUnit) (x : Rank) :
    handedTo x (s.respond dest tag (.ok (.work u))).outbox =
      handedTo x s.outbox ++ if dest = x then [⟨dest, tag, u⟩] else [] := by
  rw [handedTo, handsIn_respond, List.filter_append, handedTo]
  by_cases same : dest = x <;> simp [same]

/-! ### Units and data -/

/-- **A unit goes to a parked request**, or whoever waits is left alone. -/
theorem place_goes (s : Server) (u : WorkUnit) : Goes s (s.place u).1 := by
  unfold place
  split
  · rename_i p waiting matched
    refine ⟨rfl, rfl, fun x => ?_⟩
    have taken : s.parkedFor x =
        waiting.all.countP (fun p => p.rank == x) + if p.rank == x then 1 else 0 := by
      rw [parkedFor, (WaitingList.takeMatch_some matched).countP_eq, List.countP_cons]
    by_cases same : p.rank = x
    · rw [if_pos (beq_iff_eq.2 same)] at taken
      refine .inr ⟨taken ▸ Nat.lt_succ_self _, ?_⟩
      rw [handedTo_respond, if_pos same, List.length_append]
      exact Nat.lt_succ_self _
    · rw [if_neg (by simpa using same)] at taken
      refine .inl ⟨⟨fun left => ?_, ?_⟩, taken.symm⟩
      · exact (Table.find?_insert_ne s.workers (Ne.symm same) .busy).trans left
      · rw [handedTo_respond, if_neg same]
        exact List.append_nil _
  · exact goes_note rfl rfl rfl rfl rfl

/-- A unit that is submitted is passed on, queued, or handed to a worker that waits. -/
theorem submit_goes (s : Server) (u : WorkUnit) : Goes s (s.submit u).1 := by
  unfold submit
  split
  · exact place_goes s u
  split
  · refine (goes_stats s _ ?_).trans (send_goes _ _ rfl)
    rfl
  split
  · exact place_goes s _
  · exact place_goes s u

/-- One unit after the other. -/
theorem acceptAll_goes (s : Server) (units : List WorkUnit) : Goes s (units.foldl accept s) := by
  induction units generalizing s with
  | nil => exact .refl s
  | cons u units ih => exact (submit_goes s u).trans (ih _)

/-- Notices go as units. -/
theorem notifyAll_goes (s : Server) (notices : List (Rank × Notice)) :
    Goes s (s.notifyAll notices) := by
  induction notices generalizing s with
  | nil => exact .refl s
  | cons n notices ih =>
    refine ((goes_stats s _ ?_).trans (submit_goes _ _)).trans (ih _)
    rfl

/-- Storing members hands out nothing. -/
theorem storeReferences_goes {references : List (DatumId × Bytes)}
    {notices : List (Rank × Notice)} (h : s.storeReferences references = .ok (s', notices)) :
    Goes s s' := by
  induction references generalizing s notices with
  | nil =>
    cases h
    exact .refl _
  | cons r references ih =>
    obtain ⟨⟨s₁, first⟩, stored, h⟩ := bind_eq_ok h
    obtain ⟨⟨s₂, later⟩, rest, h⟩ := bind_eq_ok h
    cases h
    refine .trans ?_ (ih rest)
    simp only [storeReference] at stored
    split at stored
    · obtain ⟨o, -, stored⟩ := bind_eq_ok stored
      cases stored
      exact goes_note rfl rfl rfl rfl rfl
    · cases stored
      exact goes_note rfl rfl rfl rfl (handsIn_send _ _ rfl)

theorem trySteal_goes (s : Server) : Goes s s.trySteal := by
  obtain ⟨peers, out, e, asks⟩ := trySteal_eq s
  rw [e]
  refine goes_note rfl rfl rfl rfl ?_
  have none : handsIn out = [] := by
    refine List.filterMap_eq_nil_iff.2 fun p hp => ?_
    obtain ⟨wanted, load, asked⟩ := asks p hp
    rw [asked]
    rfl
  rw [handsIn_append, none, List.append_nil]

/-! ### Requests -/

/-- A put, whether it is taken or refused. -/
theorem onPut_goes (s : Server) (source : Rank) (tag : UInt64) (u : WorkUnit) :
    Goes s (s.onPut source tag u) := by
  unfold onPut
  split
  · exact refuse_goes s source tag _
  · refine ((goes_stats s _ ?_).trans (submit_goes _ u)).trans
      (respond_goes _ source tag fun v hv => ?_)
    · rfl
    · obtain ⟨_, -, e⟩ := map_eq_ok hv
      cases e

/-- An operation on data, with its notices. -/
theorem onData_goes {op : Operation} (h : s.onData source tag op = .ok s') : Goes s s' := by
  obtain ⟨o, performed, h⟩ := bind_eq_ok h
  obtain ⟨s₁, applied, h⟩ := bind_eq_ok h
  cases h
  obtain ⟨⟨s₂, more⟩, stored, applied⟩ := bind_eq_ok applied
  cases applied
  have noted : Goes s { s with shard := o.shard } := goes_note rfl rfl rfl rfl rfl
  have first := (notifyAll_goes _ o.effects.notices).trans (storeReferences_goes stored)
  have carriedOut := first.trans (notifyAll_goes s₂ more)
  exact (noted.trans carriedOut).trans
    (respond_goes _ source tag (Shard.perform_ne_work performed))

/-- **Who leaves** has left, and nobody comes back. -/
theorem onFinalize_spares (s : Server) (source : Rank) (tag : UInt64) (x : Rank) :
    Spares x s (s.onFinalize source tag) := by
  unfold onFinalize
  split
  · refine ⟨fun left => ?_, handedTo_congr (handsIn_send _ source rfl) x⟩
    by_cases same : x = source
    · rw [same]
      exact Table.find?_insert_self ..
    · exact (Table.find?_insert_ne s.workers same _).trans left
  · exact ⟨id, handedTo_congr (handsIn_send s source rfl) x⟩

/-- A worker that leaves is answered, and nobody is handed anything. -/
theorem onFinalize_goes (s : Server) (source : Rank) (tag : UInt64) :
    Goes s (s.onFinalize source tag) := by
  refine goes_of_spares ?_ ?_ ?_ (onFinalize_spares s source tag)
  all_goals
    unfold onFinalize
    split <;> rfl

/-- Noting that a worker is busy leaves everybody alone. -/
theorem noteBusy_spares (s : Server) (source x : Rank) : Spares x s (s.noteBusy source) := by
  refine ⟨fun left => ?_, ?_⟩
  · unfold noteBusy
    split
    · exact left
    · exact left
    rename_i state here found
    split
    · exact left
    · by_cases same : x = source
      · rw [same] at left
        exact (here (Option.some.inj (found.symm.trans left))).elim
      · exact (Table.find?_insert_ne s.workers same _).trans left
  · obtain ⟨workers, e⟩ := noteBusy_eq s source
    rw [e]

theorem noteBusy_goes (s : Server) (source : Rank) : Goes s (s.noteBusy source) := by
  have spares := noteBusy_spares s source
  obtain ⟨workers, e⟩ := noteBusy_eq s source
  rw [e] at spares ⊢
  exact goes_of_spares rfl rfl rfl spares

/-- Units that are shared go to a peer, not to a worker. -/
theorem onStealRequest_goes (s : Server) (source : Rank) (wanted : List WorkType) (load : Load) :
    Goes s (s.onStealRequest source wanted load) :=
  goes_note rfl rfl rfl rfl (handsIn_send _ source rfl)

/-- Units that a peer shares are accepted one after the other. -/
theorem onStealResponse_goes (s : Server) (source : Rank) (units : List WorkUnit) (load : Load) :
    Goes s (s.onStealResponse source units load) := by
  refine .trans ?_ (acceptAll_goes _ units)
  exact goes_note rfl rfl rfl rfl rfl

/-! ### Requests for work -/

/-- A worker asks for work: it is handed a unit, or waits from now on. -/
structure Grants (x : Rank) (s s' : Server) : Prop where
  phase : s'.phase = s.phase
  discarded : s'.stats.unitsDiscarded = s.stats.unitsDiscarded
  others : ∀ y, y ≠ x → Regards y s s'
  granted : s'.workers.find? x = some .parked ∧ s'.waiting.isParked x = true ∨
    (handedTo x s.outbox).length < (handedTo x s'.outbox).length

/-- A request for work that is refused. -/
theorem onGet_refused {type : WorkType}
    (h : ¬ (s.settings.accepts type = true ∧ s.workers.contains source = true)) :
    Goes s (s.onGet source tag type) := by
  unfold onGet
  split
  · exact refuse_goes s source tag _
  rename_i accepted
  have accepts : s.settings.accepts type = true := by
    by_contra unknown
    rw [checkType, if_neg unknown] at accepted
    cases accepted
  rw [if_pos fun attached => h ⟨accepts, attached⟩]
  exact refuse_goes s source tag _

/-- A worker whose request is parked waits from now on. -/
theorem park_grants (s : Server) (p : Parked) (stats : ServerStats)
    (same : stats.unitsDiscarded = s.stats.unitsDiscarded) :
    Grants p.rank s ({ s with waiting := s.waiting.park p, stats }.setWorker p.rank .parked) where
  phase := rfl
  discarded := same
  others y other := by
    refine .inl ⟨⟨fun left => ?_, rfl⟩, ?_⟩
    · exact (Table.find?_insert_ne s.workers other .parked).trans left
    · show (s.waiting.park p).all.countP _ = _
      rw [(WaitingList.park_perm s.waiting p).countP_eq, List.countP_cons,
        if_neg (by simpa using Ne.symm other)]
      rfl
  granted := by
    refine .inl ⟨Table.find?_insert_self .., WaitingList.isParked_iff.2 ⟨p, ?_, rfl⟩⟩
    exact (WaitingList.park_perm s.waiting p).mem_iff.2 List.mem_cons_self

/-- **A request for work** of an attached worker is met or parked. -/
theorem onGet_grants {type : WorkType} (accepts : s.settings.accepts type = true)
    (attached : s.workers.contains source = true) : Grants source s (s.onGet source tag type) := by
  have known : s.checkType type = .ok () := if_pos accepts
  unfold onGet
  simp only [known, attached, not_true_eq_false, if_false]
  split
  · refine ⟨rfl, rfl, fun y other => .inl ⟨⟨id, ?_⟩, rfl⟩, .inr ?_⟩
    · rw [handedTo_respond, if_neg (Ne.symm other)]
      exact List.append_nil _
    · rw [handedTo_respond, if_pos rfl, List.length_append]
      exact Nat.lt_succ_self _
  · have parked := park_grants s ⟨source, tag, type⟩
      { s.stats with requestsParked := s.stats.requestsParked + 1 } rfl
    have looked := trySteal_goes ({ s with
      waiting := s.waiting.park ⟨source, tag, type⟩
      stats := { s.stats with requestsParked := s.stats.requestsParked + 1 } }.setWorker source
        .parked)
    obtain ⟨peers, out, e, -⟩ := trySteal_eq ({ s with
      waiting := s.waiting.park ⟨source, tag, type⟩
      stats := { s.stats with requestsParked := s.stats.requestsParked + 1 } }.setWorker source
        .parked)
    refine ⟨looked.phase.trans parked.phase, looked.discarded.trans parked.discarded,
      fun y other => (parked.others y other).trans (looked.regards y), ?_⟩
    rw [e]
    exact parked.granted.imp_right fun handed => absurd handed (Nat.lt_irrefl _)

/-- A grant after going on. -/
theorem Goes.grants (h : Goes s s₁) (h' : Grants x s₁ s') : Grants x s s' :=
  ⟨h'.phase.trans h.phase, h'.discarded.trans h.discarded,
    fun y other => (h.regards y).trans (h'.others y other),
    h'.granted.imp_right fun handed => Nat.lt_of_le_of_lt (h.regards x).length_le handed⟩

/-- Whoever waits is not taken to be at work. -/
theorem Grants.noteBusy (h : Grants x s s') (source : Rank) : Grants x s (s'.noteBusy source) := by
  have goes := noteBusy_goes s' source
  refine ⟨goes.phase.trans h.phase, goes.discarded.trans h.discarded,
    fun y other => (h.others y other).trans (goes.regards y), ?_⟩
  rcases h.granted with ⟨waits, parked⟩ | handed
  · refine .inl ?_
    unfold Server.noteBusy
    split
    · exact ⟨waits, parked⟩
    · exact ⟨waits, parked⟩
    split
    · exact ⟨waits, parked⟩
    · rename_i unparked
      have other : x ≠ source := by
        rintro rfl
        exact unparked parked
      exact ⟨(Table.find?_insert_ne s'.workers other .busy).trans waits, parked⟩
  · exact .inr (Nat.lt_of_lt_of_le handed (goes.regards x).length_le)

/-! ## Stopping -/

/-- A server stops serving: it drops its backlog, and counts it. -/
structure Halts (s s' : Server) : Prop where
  running : s.phase = .running
  ended : s'.phase = .shuttingDown
  discarded : s'.stats.unitsDiscarded = s.stats.unitsDiscarded + s.backlog.units.length
  backlog : s'.backlog = s.backlog.drain.2
  spares : ∀ x, Spares x s s'

/-- A server goes on or stops. -/
def Course (s s' : Server) : Prop := Goes s s' ∨ Halts s s'

/-- Noting other things first makes no difference. -/
theorem Course.noted (h : Course s₁ s') (phase : s₁.phase = s.phase)
    (discarded : s₁.stats.unitsDiscarded = s.stats.unitsDiscarded)
    (backlog : s₁.backlog = s.backlog) (waiting : s₁.waiting = s.waiting)
    (workers : s₁.workers = s.workers) (outbox : handsIn s₁.outbox = handsIn s.outbox) :
    Course s s' := by
  have first := goes_note phase discarded waiting workers outbox
  rcases h with goes | halts
  · exact .inl (first.trans goes)
  · refine .inr ⟨phase ▸ halts.running, halts.ended, ?_, backlog ▸ halts.backlog, fun x => ?_⟩
    · rw [halts.discarded, discarded, backlog]
    · refine .trans ⟨fun left => ?_, handedTo_congr outbox x⟩ (halts.spares x)
      rw [workers]
      exact left

/-- Nor does leaving everybody alone afterwards. -/
theorem Course.sparing (h : Course s s₁) (goes : Goes s₁ s') (backlog : s'.backlog = s₁.backlog)
    (spares : ∀ x, Spares x s₁ s') : Course s s' := by
  rcases h with first | halts
  · exact .inl (first.trans goes)
  · exact .inr ⟨halts.running, goes.phase.trans halts.ended, goes.discarded.trans halts.discarded,
      backlog.trans halts.backlog, fun x => (halts.spares x).trans (spares x)⟩

/-- Refusing what is parked sends answers, and does nothing else. -/
theorem refuseAll_eq (parked : List Parked) (s : Server) :
    ∃ sent, parked.foldl (fun s p => s.respond p.rank p.tag (.error .shutdown)) s = { s with
      sent
      outbox := s.outbox ++ parked.map fun p =>
        (p.rank, .response p.tag (.ofResult (.error .shutdown))) } := by
  induction parked generalizing s with
  | nil => exact ⟨s.sent, by simp⟩
  | cons p parked ih =>
    obtain ⟨sent, e⟩ := ih (s.respond p.rank p.tag (.error .shutdown))
    refine ⟨sent, e.trans ?_⟩
    simp [respond, send]

/-- Those who are refused are handed nothing. -/
theorem handsIn_refusals (parked : List Parked) :
    handsIn (parked.map fun p => (p.rank, .response p.tag (.ofResult (.error .shutdown)))) =
      [] := by
  refine List.filterMap_eq_nil_iff.2 fun q hq => ?_
  obtain ⟨p, -, rfl⟩ := List.mem_map.1 hq
  rfl

theorem length_drain (b : Backlog) : b.drain.1.length = b.units.length :=
  (List.mergeSort_perm _ _).length_eq

/-- **A shutdown** counts what it drops. -/
theorem beginShutdown_course (s : Server) : Course s s.beginShutdown := by
  by_cases already : s.isShuttingDown = true
  · have same : s.beginShutdown = s := if_pos already
    rw [same]
    exact .inl (.refl s)
  have running : s.phase = .running := by
    cases phase : s.phase with
    | running => rfl
    | shuttingDown => exact absurd (by rw [isShuttingDown, phase]; rfl) already
  obtain ⟨sent, e⟩ := refuseAll_eq s.waiting.drain.1
    { s with phase := .shuttingDown, waiting := s.waiting.drain.2 }
  have stopped : ∃ shard invalidated, s.beginShutdown = { s with
      phase := .shuttingDown
      waiting := s.waiting.drain.2
      sent
      outbox := s.outbox ++ s.waiting.drain.1.map fun p =>
        (p.rank, .response p.tag (.ofResult (.error .shutdown)))
      shard
      backlog := s.backlog.drain.2
      stats := { s.stats with
        subscriptionsInvalidated := s.stats.subscriptionsInvalidated + invalidated
        unitsDiscarded := s.stats.unitsDiscarded + s.backlog.drain.1.length } } := by
    refine ⟨s.shard.invalidate.1, s.shard.invalidate.2, ?_⟩
    rw [beginShutdown, if_neg already]
    dsimp only
    rw [e]
  obtain ⟨shard, invalidated, stopped⟩ := stopped
  rw [stopped]
  refine .inr ⟨running, rfl, ?_, rfl, fun x => ⟨id, handedTo_congr ?_ x⟩⟩
  · rw [← length_drain]
  · rw [handsIn_append, handsIn_refusals, List.append_nil]

/-- A message to all that moves no work hands out nothing. -/
theorem sendAll_handsIn (s : Server) (dest : List Rank) (hm : m.movesWork = false) :
    handsIn (s.sendAll dest m).outbox = handsIn s.outbox := by
  have none : handsIn (dest.map fun r => (r, m)) = [] := by
    refine List.filterMap_eq_nil_iff.2 fun q hq => ?_
    obtain ⟨r, -, rfl⟩ := List.mem_map.1 hq
    cases m with
    | response => cases hm
    | _ => rfl
  rw [sendAll_eq hm, handsIn_append, none, List.append_nil]

/-- **The end of the run**: a server that serves stops, and one that has stopped goes on as before.
-/
theorem initiateShutdown_course (s : Server) : Course s s.initiateShutdown := by
  unfold initiateShutdown
  split
  · exact .inl (.refl s)
  · have told := sendAll_handsIn s s.otherServers (m := .shutdown) rfl
    have stops := beginShutdown_course (s.sendAll s.otherServers .shutdown)
    rw [sendAll_eq rfl] at told stops ⊢
    exact stops.noted rfl rfl rfl rfl rfl told

/-- A verdict ends the run, or nothing happens. -/
theorem actOn_course (s : Server) (verdict : Option Verdict) : Course s (s.actOn verdict) := by
  unfold actOn
  split
  · exact initiateShutdown_course s
  · exact .inl (.refl s)

theorem respond_sparing (s : Server) (dest : Rank) (tag : UInt64) {r : Except Error Reply}
    (h : ∀ u, r ≠ .ok (.work u)) (x : Rank) : Spares x s (s.respond dest tag r) := by
  refine ⟨id, handedTo_congr ?_ x⟩
  exact handsIn_send s dest (Message.hands?_of_isOrdinary (Message.isOrdinary_ofResult h) dest)

/-- A worker may end the run, and is answered. -/
theorem onServerShutdown_course (s : Server) (source : Rank) (tag : UInt64) :
    Course s (s.onServerShutdown source tag) := by
  have told : Course s (if s.isMaster then s.initiateShutdown
      else s.send s.topology.master .shutdownRequested) := by
    split
    · exact initiateShutdown_course s
    · exact .inl (send_goes s _ rfl)
  have ack (u : WorkUnit) : (Except.ok Reply.ack : Except Error Reply) ≠ .ok (.work u) := by
    intro same
    cases same
  exact told.sparing (respond_goes _ source tag ack) rfl (respond_sparing _ source tag ack)

/-! ## Messages and ticks -/

/-- A server is to take up a request for work: it serves, and an attached worker asks for a type
that there is. -/
def Admits (s : Server) (x : Rank) (input : Input) : Prop :=
  ∃ tag type, input = .message x (.request tag (.get type)) ∧ s.isShuttingDown = false ∧
    s.settings.accepts type = true ∧ s.workers.contains x = true

/-- Whom a server admits does not depend on what it has counted. -/
theorem admits_countArrival :
    (s.countArrival source m).Admits x (.message source m) ↔ s.Admits x (.message source m) := by
  rw [countArrival_eq]
  rfl

/-- A request that grants nobody work. -/
theorem onOwnRequest_course {body : Request} (running : s.isShuttingDown = false)
    (ungranted : ¬ s.Admits source (.message source (.request tag body)))
    (h : s.onOwnRequest source tag body = .ok s') : Course s s' := by
  cases body with
  | get type =>
    cases h
    refine .inl (onGet_refused fun granted => ungranted ?_)
    exact ⟨tag, type, rfl, running, granted⟩
  | put u => cases h; exact .inl (onPut_goes s source tag u)
  | data op => exact .inl (onData_goes h)
  | serverIdle =>
    cases h
    refine .inl (respond_goes s source tag fun u hu => ?_)
    cases hu
  | serverShutdown => cases h; exact onServerShutdown_course s source tag
  | finalize => cases h; exact .inl (onFinalize_goes s source tag)

/-- A request for work is handled as such while the server serves. -/
theorem onRequest_get (running : s.isShuttingDown = false) (source : Rank) (tag : UInt64)
    (type : WorkType) : s.onRequest source tag (.get type) =
      .ok ((s.onGet source tag type).noteBusy source) := by
  rw [onRequest, running]
  rfl

/-- A request that grants nobody work, also if it is refused. -/
theorem onRequest_course {body : Request}
    (ungranted : ¬ s.Admits source (.message source (.request tag body)))
    (h : s.onRequest source tag body = .ok s') : Course s s' := by
  unfold onRequest at h
  split at h
  · cases h
    split
    · exact .inl (onFinalize_goes s source tag)
    · exact .inl (refuse_goes s source tag _)
  rename_i running
  rw [Bool.not_eq_true] at running
  split at h
  · cases h
    exact .inl (refuse_goes s source tag _)
  · obtain ⟨s₁, hs₁, h⟩ := bind_eq_ok h
    cases h
    have backlog : (s₁.noteBusy source).backlog = s₁.backlog := by
      obtain ⟨workers, e⟩ := noteBusy_eq s₁ source
      rw [e]
    exact (onOwnRequest_course running ungranted hs₁).sparing (noteBusy_goes s₁ source) backlog
      (noteBusy_spares s₁ source)

/-- A report may complete a vote, and end the run. -/
theorem onIdleReply_course {round : UInt64} {report : IdleReport}
    (h : s.onIdleReply source round report = .ok s') : Course s s' := by
  unfold onIdleReply at h
  split at h
  · obtain ⟨⟨votes, verdict⟩, -, h⟩ := bind_eq_ok h
    cases h
    exact (actOn_course { s with votes } verdict).noted rfl rfl rfl rfl rfl rfl
  · cases h
    exact .inl (.refl s)

/-- **Every message** but a request for work that is taken up. -/
theorem dispatch_course (ungranted : ¬ s.Admits source (.message source m))
    (h : s.dispatch source m = .ok s') : Course s s' := by
  cases m with
  | request tag body => exact onRequest_course ungranted h
  | response | abort => cases h; exact .inl (.refl s)
  | forwardPut u => cases h; exact .inl (submit_goes s u)
  | stealRequest wanted load => cases h; exact .inl (onStealRequest_goes s source wanted load)
  | stealResponse units load => cases h; exact .inl (onStealResponse_goes s source units load)
  | idleQuery round => cases h; exact .inl (send_goes s source rfl)
  | idleReply round report => exact onIdleReply_course h
  | shutdown => cases h; exact beginShutdown_course s
  | shutdownRequested =>
    cases h
    split
    · exact initiateShutdown_course s
    · exact .inl (.refl s)

/-- A vote that a single server opens may end the run at once. -/
theorem startVote_course (h : s.startVote = .ok s') : Course s s' := by
  obtain ⟨⟨votes, round⟩, -, h⟩ := bind_eq_ok h
  simp only at h
  split at h
  · obtain ⟨⟨votes', verdict⟩, -, h⟩ := bind_eq_ok h
    cases h
    exact (actOn_course _ verdict).noted rfl rfl rfl rfl rfl rfl
  · cases h
    have asked := sendAll_handsIn { s with
      votes, stats := { s.stats with voteRounds := s.stats.voteRounds + 1 } } s.otherServers
      (m := .idleQuery round) rfl
    rw [sendAll_eq rfl] at asked ⊢
    exact .inl (goes_note rfl rfl rfl rfl asked)

/-- **A step goes on or stops**, unless a request for work is taken up. -/
theorem step_course (hstep : s.step input = .ok (s', flow)) (ungranted : ∀ x, ¬ s.Admits x input) :
    Course s s' := by
  cases input with
  | message source m =>
    have course := dispatch_course (admits_countArrival.not.2 (ungranted source))
      (handle_eq_ok hstep).1
    rw [countArrival_eq] at course
    exact course.noted rfl rfl rfl rfl rfl rfl
  | stealTick =>
    cases hstep
    exact .inl (trySteal_goes s)
  | idleTick =>
    change s.onIdleTick = .ok (s', flow) at hstep
    unfold onIdleTick at hstep
    split at hstep
    · obtain ⟨s₁, hs₁, hstep⟩ := bind_eq_ok hstep
      cases hstep
      exact startVote_course hs₁
    · cases hstep
      exact .inl (.refl s)

/-- **Whoever is admitted** is granted what it asks for. -/
theorem dispatch_grants (admits : s.Admits source (.message source m))
    (h : s.dispatch source m = .ok s') : Grants source s s' := by
  obtain ⟨tag, type, e, running, accepts, attached⟩ := admits
  cases e
  cases (onRequest_get running source tag type).symm.trans h
  exact (onGet_grants accepts attached).noteBusy source

/-- **A request for work that is taken up** is granted. -/
theorem step_grants (hstep : s.step input = .ok (s', flow)) (admits : s.Admits x input) :
    Grants x s s' := by
  obtain ⟨tag, type, rfl, -⟩ := id admits
  have granted := dispatch_grants (admits_countArrival.2 admits) (handle_eq_ok hstep).1
  have counted : Goes s (s.countArrival x (.request tag (.get type))) := by
    rw [countArrival_eq]
    exact goes_note rfl rfl rfl rfl rfl
  exact counted.grants granted

/-- A step leaves the phase of a server and its count of discarded units, unless it stops it. -/
theorem step_goes_or_halts (hstep : s.step input = .ok (s', flow)) :
    s'.phase = s.phase ∧ s'.stats.unitsDiscarded = s.stats.unitsDiscarded ∨ Halts s s' := by
  by_cases asked : ∃ x, s.Admits x input
  · obtain ⟨x, admits⟩ := asked
    have grants := step_grants hstep admits
    exact .inl ⟨grants.phase, grants.discarded⟩
  · exact (step_course hstep (not_exists.1 asked)).imp_left fun goes => ⟨goes.phase, goes.discarded⟩

/-! ## The steps of a run -/

/-- The steps of a run, each with the states before and after it. If one of them faults, they are
those before it. -/
def steps (s : Server) : List Turn → List (Server × Input × Server)
  | [] => []
  | .step input :: turns =>
    match s.step input with
    | .ok (s', _) => (s, input, s') :: s'.steps turns
    | .error _ => []
  | .passOn :: turns => s.takeOutbox.1.steps turns

/-- The first step of a run, and the others. -/
theorem steps_step (hstep : s.step input = .ok (s', flow)) (turns : List Turn) :
    s.steps (.step input :: turns) = (s, input, s') :: s'.steps turns := by
  rw [steps, hstep]

/-- **A run keeps what its steps keep**, of its states and of the steps so far. -/
theorem steps_induction {P : Server → Traffic → List (Server × Input × Server) → Prop}
    (hstep : ∀ s t past input s' flow, P s t past → s.step input = .ok (s', flow) →
      P s' { t with handled := t.handled ++ input.messages } (past ++ [(s, input, s')]))
    (hpass : ∀ s t past, P s t past →
      P s.takeOutbox.1 { t with sent := t.sent ++ s.takeOutbox.2 } past)
    {t t' : Traffic} {turns : List Turn} {past : List (Server × Input × Server)}
    (start : P s t past) (h : s.serve t turns = .ok (s', t')) :
    P s' t' (past ++ s.steps turns) := by
  induction turns generalizing s t past with
  | nil =>
    cases h
    rw [steps, List.append_nil]
    exact start
  | cons next turns ih =>
    obtain ⟨⟨s₁, t₁⟩, first, h⟩ := bind_eq_ok h
    cases next with
    | step input =>
      obtain ⟨⟨s₁, flow⟩, stepped, first⟩ := bind_eq_ok first
      cases first
      have later := ih (hstep s t past input s₁ flow start stepped) h
      rwa [List.append_assoc, List.singleton_append, ← steps_step stepped] at later
    | passOn =>
      cases first
      exact ih (hpass s t past start) h

end Server

end WorkPool
