import WorkPool.Proofs.Server.Dispatch
import WorkPool.Proofs.Topology

/-!
# Routing: where servers send and keep units

A unit that names a rank is passed on to the one server that must hold it. What a server passes on
was given to it in the same step, and goes to another server (`step_forwards`). What a server keeps
for a worker is for one that is attached to it (`Homed`), and only attached workers wait there and
are handed units (`Serving`).

`LivesAt` are the states that the server of a rank can be in, whatever messages and ticks it has
handled; what is known of all of them is collected in `Stationed`.
-/

namespace WorkPool

/-- The unit that a message passes on. -/
def Message.forwards? : Message → Option WorkUnit
  | .forwardPut u => some u
  | _ => none

/-- A plain message passes no unit on. -/
theorem Message.forwards?_of_isPlain {m : Message} (h : m.isPlain = true) :
    m.forwards? = none := by
  cases m with
  | forwardPut => cases h
  | _ => rfl

/-- What some messages pass on, and to whom. -/
def forwardsIn (messages : List (Rank × Message)) : List (Rank × WorkUnit) :=
  messages.filterMap fun p => p.2.forwards?.map fun u => (p.1, u)

@[simp] theorem forwardsIn_append (a b : List (Rank × Message)) :
    forwardsIn (a ++ b) = forwardsIn a ++ forwardsIn b := List.filterMap_append

namespace Server

variable {s s₁ s' : Server} {ins ins' lost : List WorkUnit} {u : WorkUnit} {target : Rank}

/-- A message that passes no unit on. -/
theorem forwardsIn_send (s : Server) (dest : Rank) {m : Message} (h : m.forwards? = none) :
    forwardsIn (s.send dest m).outbox = forwardsIn s.outbox := by
  apply filterMap_send
  rw [h, Option.map_none]

theorem holder_congr (topology : s'.topology = s.topology) : s'.holder = s.holder := by
  funext target
  rw [holder, holder, topology]

/-- A unit with a target is held by the holder of that. -/
theorem holds_of_target (named : u.target = some target) :
    s.holds u = (s.holder target == s.rank) := by
  simp [holds, named]

/-! ## What is passed on -/

/-- A unit that a server was given is passed on to another server, the one that must hold it. -/
structure Passed (s : Server) (ins : List WorkUnit) (f : Rank × WorkUnit) : Prop where
  given : f.2 ∈ ins
  leads : f.2.target.map s.holder = some f.1
  away : f.1 ≠ s.rank

/-- What a server passes on while it is given some units. -/
def Forwards (s : Server) (ins : List WorkUnit) (s' : Server) : Prop :=
  ∃ new, forwardsIn s'.outbox = forwardsIn s.outbox ++ new ∧ ∀ f ∈ new, s.Passed ins f

/-- Who passes nothing on passes on only what is due. -/
theorem forwards_nothing (same : forwardsIn s'.outbox = forwardsIn s.outbox) :
    Forwards s ins s' :=
  ⟨[], by rw [same, List.append_nil], fun _ hf => nomatch hf⟩

/-- What is passed on adds up. -/
theorem Forwards.trans (h : Forwards s ins s₁) (steady : Steady s s₁)
    (h' : Forwards s₁ ins' s') : Forwards s (ins ++ ins') s' := by
  obtain ⟨new, hnew, passed⟩ := h
  obtain ⟨new', hnew', passed'⟩ := h'
  refine ⟨new ++ new', by rw [hnew', hnew, List.append_assoc], ?_⟩
  intro f hf
  rcases List.mem_append.1 hf with hf | hf
  · obtain ⟨given, leads, away⟩ := passed f hf
    exact ⟨List.mem_append_left _ given, leads, away⟩
  · obtain ⟨given, leads, away⟩ := passed' f hf
    rw [holder_congr steady.topology] at leads
    rw [steady.rank] at away
    exact ⟨List.mem_append_right _ given, leads, away⟩

/-- **A task** passes on what came in and is to be held elsewhere. -/
theorem Task.forwards (task : Task s ins lost s') : Forwards s ins s' := by
  cases task with
  | note => exact forwards_nothing rfl
  | place u held =>
    apply forwards_nothing
    rw [Server.place]
    split
    · exact forwardsIn_send _ _ rfl
    · rfl
  | forward dest u leads away =>
    refine ⟨[(dest, u)], forwardsIn_append _ _, ?_⟩
    intro f hf
    rw [List.mem_singleton.1 hf]
    exact ⟨List.mem_cons_self, leads, away⟩
  | ask id tag body => exact forwards_nothing (forwardsIn_send s _ rfl)

/-- **Every deed** passes on only what it was given. -/
theorem Deed.forwards (deed : Deed s ins lost s') : Forwards s ins s' := by
  cases deed with
  | work task => exact task.forwards
  | note | park | stop | drop => exact forwards_nothing rfl
  | say dest m plain =>
    exact forwards_nothing (forwardsIn_send s dest (Message.forwards?_of_isPlain plain))
  | turnDown | hand | share => exact forwards_nothing (forwardsIn_send _ _ rfl)

/-- **Any number of deeds** pass on what came in and is to be held elsewhere. -/
theorem Deeds.forwards (deeds : Deeds s ins lost s') : Forwards s ins s' := by
  induction deeds with
  | done => exact forwards_nothing rfl
  | next first later ih => exact first.forwards.trans first.steady ih

/-- Looking for work passes nothing on. -/
theorem forwardsIn_trySteal (s : Server) : forwardsIn s.trySteal.outbox = forwardsIn s.outbox := by
  obtain ⟨peers, out, e, asks⟩ := trySteal_eq s
  have none : forwardsIn out = [] := by
    apply List.filterMap_eq_nil_iff.2
    intro p hp
    obtain ⟨wanted, load, e⟩ := asks p hp
    rw [e]
    rfl
  rw [e, forwardsIn_append, none, List.append_nil]

/-- **Whatever a server does**, it passes on what came in and is to be held elsewhere. -/
theorem Does.forwards (does : Does s ins lost s') : Forwards s ins s' := by
  cases does with
  | only deeds => exact deeds.forwards
  | @looking s₁ _ _ deeds backlog workers =>
    obtain ⟨new, hnew, passed⟩ := deeds.forwards
    exact ⟨new, (forwardsIn_trySteal s₁).trans hnew, passed⟩

theorem arrived_same (s : Server) (input : Input) :
    (s.arrived input).rank = s.rank ∧ (s.arrived input).topology = s.topology := by
  cases input with
  | message source m =>
    rw [arrived, countArrival_eq]
    exact ⟨rfl, rfl⟩
  | stealTick | idleTick => exact ⟨rfl, rfl⟩

/-- **Every step** passes on only what it was given, to the server that must hold it. -/
theorem step_forwards {input : Input} {flow : Flow} (hstep : s.step input = .ok (s', flow)) :
    ∀ f ∈ forwardsIn (s.said s'), s.Passed (s.takesIn input) f := by
  intro f hf
  obtain ⟨refused, does⟩ := step_takes hstep
  obtain ⟨rank, topology⟩ := arrived_same s input
  obtain ⟨out, hout⟩ := does.steady.outbox
  obtain ⟨new, hnew, passed⟩ := does.forwards
  rw [(arrived_eq s input).2] at hout hnew
  rw [said_eq hout.symm] at hf
  rw [← hout, forwardsIn_append, List.append_cancel_left_eq] at hnew
  rw [hnew] at hf
  obtain ⟨given, leads, away⟩ := passed f hf
  rw [holder_congr topology] at leads
  rw [rank] at away
  exact ⟨given, leads, away⟩

/-- What is passed on is not to be held here. -/
theorem Passed.not_held {f : Rank × WorkUnit} (h : s.Passed ins f) : s.holds f.2 = false := by
  obtain ⟨target, named, leads⟩ := Option.map_eq_some_iff.1 h.leads
  rw [holds_of_target named, beq_eq_false_iff_ne, leads]
  exact h.away

/-- A step that is given one unit, and holds it, passes nothing on. -/
theorem forwardsIn_said_of_holds {input : Input} {flow : Flow}
    (hstep : s.step input = .ok (s', flow)) (given : s.takesIn input = [u])
    (held : s.holds u = true) : forwardsIn (s.said s') = [] := by
  apply List.eq_nil_iff_forall_not_mem.2
  intro f hf
  have passed := step_forwards hstep f hf
  have unit := passed.given
  rw [given] at unit
  have away := passed.not_held
  rw [List.mem_singleton.1 unit, held] at away
  cases away

/-- A put that names a rank outside the run is refused. -/
theorem checkPut_outside (named : u.target = some target)
    (outside : s.topology.contains target = false) : ∃ e, s.checkPut u = .error e := by
  cases known : s.checkType u.type with
  | error e => exact ⟨e, by simp [checkPut, known, bind, Except.bind]⟩
  | ok => exact ⟨_, by simp [checkPut, known, named, outside, bind, Except.bind]; rfl⟩

/-- A put for a rank outside the run is refused. -/
theorem onRequest_put_outside {source : Rank} {tag : UInt64} (named : u.target = some target)
    (outside : s.topology.contains target = false)
    (h : s.onRequest source tag (.put u) = .ok s') :
    ∃ e, s'.outbox = s.outbox ++ [(source, .response tag (.ofResult (.error e)))] := by
  rw [onRequest] at h
  split at h
  · cases h
    exact ⟨_, rfl⟩
  · obtain ⟨e, refused⟩ := checkPut_outside named outside
    have answered : s.onPut source tag u = s.respond source tag (.error e) := by
      rw [onPut, refused]
    obtain ⟨s₁, hs₁, h⟩ := bind_eq_ok h
    cases h
    cases hs₁
    obtain ⟨workers, same⟩ := noteBusy_eq (s.onPut source tag u) source
    rw [same, answered]
    exact ⟨e, rfl⟩

/-- **A put is not passed on** where its unit must be held, and neither is one that names a rank
outside the run. -/
theorem forwardsIn_said_put {source : Rank} {tag : UInt64} {flow : Flow}
    (hstep : s.step (.message source (.request tag (.put u))) = .ok (s', flow))
    (held : ∀ target, u.target = some target → s.topology.contains target = true →
      s.holder target = s.rank) : forwardsIn (s.said s') = [] := by
  cases holds : s.holds u with
  | true => exact forwardsIn_said_of_holds hstep (by simp [takesIn, made, noticed]; rfl) holds
  | false =>
    obtain ⟨target, named⟩ : ∃ target, u.target = some target := by
      cases named : u.target with
      | none =>
        rw [Server.holds, named] at holds
        cases holds
      | some target => exact ⟨target, rfl⟩
    have outside : s.topology.contains target = false := by
      rw [Bool.eq_false_iff]
      intro inside
      rw [holds_of_target named, held target named inside, beq_self_eq_true] at holds
      cases holds
    have same := (arrived_same s (.message source (.request tag (.put u)))).2
    obtain ⟨e, sent⟩ := onRequest_put_outside named (by rw [← same] at outside; exact outside)
      (handle_eq_ok hstep).1
    rw [outbox_countArrival] at sent
    rw [said_eq sent]
    rfl

/-! ## What is kept -/

/-- A server keeps no unit that names another one or that is for a worker of another one. -/
def Homed (s : Server) : Prop :=
  ∀ u ∈ s.backlog.units, ∀ target, u.target = some target →
    s.topology.isServer target = false ∧ s.topology.homeServer target = s.rank

/-- Units may be taken away. -/
theorem Homed.mono (h : s.Homed) (steady : Steady s s')
    (sub : ∀ u ∈ s'.backlog.units, u ∈ s.backlog.units) : s'.Homed := by
  intro u hu target named
  rw [steady.topology, steady.rank]
  exact h u (sub u hu) target named

/-- Where a unit must be held, it is for anybody or for a worker whose home that is. -/
theorem target_settled (held : s.holds u = true)
    (named : (u.settled s.topology).target = some target) :
    s.topology.isServer target = false ∧ s.topology.homeServer target = s.rank := by
  rw [WorkUnit.settled] at named
  split at named
  · rename_i target' named'
    split at named
    · cases named
    · rename_i other
      obtain rfl : target' = target := Option.some.inj (named'.symm.trans named)
      rw [holds_of_target named', beq_iff_eq, holder, if_neg other] at held
      exact ⟨Bool.eq_false_iff.2 other, held⟩
  · rename_i none
    rw [none] at named
    cases named

/-- A unit that is to be held here may be placed here. -/
theorem Homed.place (h : s.Homed) (held : s.holds u = true) :
    (s.place (u.settled s.topology)).1.Homed := by
  have steady := (served_place s (u.settled s.topology)).steady
  intro v hv target named
  rw [steady.topology, steady.rank]
  rw [Server.place] at hv
  split at hv
  · exact h v hv target named
  · by_cases full : s.backlog.capacity ≤ s.backlog.size
    · have hv : v ∈ (s.backlog.push (u.settled s.topology)).1.units := hv
      rw [(Backlog.push_refused full).1] at hv
      exact h v hv target named
    · obtain ⟨-, perm, -⟩ := Backlog.push_granted (u := u.settled s.topology)
        (Nat.lt_of_not_le full)
      rcases List.mem_cons.1 (perm.mem_iff.1 hv) with rfl | before
      · exact target_settled held named
      · exact h v before target named

/-- A task keeps units at home. -/
theorem Task.homed (task : Task s ins lost s') (h : s.Homed) : s'.Homed := by
  have steady := task.served.steady
  cases task with
  | place u held => exact h.place held
  | note | forward | ask => exact h.mono steady fun _ hu => hu

/-- **Every deed** keeps a server's units at home. -/
theorem Deed.homed (deed : Deed s ins lost s') (h : s.Homed) : s'.Homed := by
  have steady := deed.steady
  cases deed with
  | work task => exact task.homed h
  | note | say | turnDown | park | stop => exact h.mono steady fun _ hu => hu
  | hand dest tag type stats popped =>
    exact h.mono steady fun v hv =>
      (Backlog.popFor_some popped).mem_iff.2 (List.mem_cons_of_mem _ hv)
  | share dest wanted load peers stats =>
    exact h.mono steady fun v hv =>
      (Backlog.steal_perm s.backlog wanted).mem_iff.2 (List.mem_append_right _ hv)
  | drop => exact h.mono steady fun _ hu => nomatch hu

/-- Deeds keep units at home. -/
theorem Deeds.homed (deeds : Deeds s ins lost s') (h : s.Homed) : s'.Homed := by
  induction deeds with
  | done => exact h
  | next first later ih => exact ih (first.homed h)

/-- **Whatever a server does** keeps units at home. -/
theorem Does.homed (does : Does s ins lost s') (h : s.Homed) : s'.Homed := by
  have steady := does.steady
  cases does with
  | only deeds => exact deeds.homed h
  | @looking s₁ _ _ deeds backlog workers =>
    refine h.mono steady fun v hv => ?_
    obtain ⟨peers, out, e, -⟩ := trySteal_eq s₁
    rw [e] at hv
    rw [← backlog]
    exact hv

/-! ## Every run -/

/-- The states that the server of a rank can be in, whatever has happened to it. -/
def LivesAt (settings : Settings) (r : Rank) (s : Server) : Prop :=
  ∃ s₀ turns t, Server.new r settings = .ok (.ok s₀) ∧ s₀.serve {} turns = .ok (s, t)

/-- A server is where it should be, serves the workers attached there, and keeps only units that
are for them. -/
structure Stationed (settings : Settings) (r : Rank) (s : Server) : Prop where
  rank : s.rank = r
  topology : s.topology = settings.topology
  serving : s.Serving (settings.topology.attached r)
  homed : s.Homed

variable {settings : Settings} {r : Rank}

/-- A new server is at its station. -/
theorem stationed_new (h : Server.new r settings = .ok (.ok s)) : Stationed settings r s := by
  have serving := serving_new h
  obtain ⟨isServer, -, h⟩ := bind_eq_ok h
  split at h
  · cases h
    exact ⟨rfl, rfl, serving, fun _ hu => nomatch hu⟩
  · cases h

/-- **One turn** leaves a server at its station. -/
theorem Stationed.turn (h : Stationed settings r s) {t t' : Traffic} {next : Turn}
    (hturn : s.turn t next = .ok (s', t')) : Stationed settings r s' := by
  have serving := h.serving.turn hturn
  cases next with
  | step input =>
    obtain ⟨⟨s₁, flow⟩, hstep, hturn⟩ := bind_eq_ok hturn
    cases hturn
    obtain ⟨ins, refused, does⟩ := step_does hstep
    obtain ⟨rank, topology⟩ := arrived_same s input
    have homed : (s.arrived input).Homed := by
      intro u hu target named
      rw [(arrived_eq s input).1] at hu
      rw [rank, topology]
      exact h.homed u hu target named
    exact ⟨(does.steady.rank.trans rank).trans h.rank,
      (does.steady.topology.trans topology).trans h.topology, serving, does.homed homed⟩
  | passOn =>
    cases hturn
    exact ⟨h.rank, h.topology, serving, h.homed⟩

/-- **Whatever has happened to a server**, it is where it should be. -/
theorem LivesAt.stationed (h : LivesAt settings r s) : Stationed settings r s := by
  obtain ⟨s₀, turns, t, hnew, hserve⟩ := h
  exact serve_induction (P := fun s _ => Stationed settings r s)
    (fun _ _ _ _ _ stationed hturn => stationed.turn hturn) (stationed_new hnew) hserve

/-- There is a server for every rank of a server, and for no other. -/
theorem exists_livesAt_iff (fits : settings.topology.Fits) :
    (∃ s, LivesAt settings r s) ↔ settings.topology.isServer r = true := by
  have checked := Topology.checkedIsServer_eq fits r
  constructor
  · rintro ⟨s, s₀, turns, t, hnew, -⟩
    obtain ⟨isServer, told, hnew⟩ := bind_eq_ok hnew
    cases checked.symm.trans told
    split at hnew
    · assumption
    · cases hnew
  · intro server
    obtain ⟨s, hnew⟩ : ∃ s, Server.new r settings = .ok (.ok s) := by
      rw [Server.new, checked, server]
      exact ⟨_, rfl⟩
    exact ⟨s, s, [], {}, hnew, rfl⟩

/-- A worker is in the table of its home, and in no other. -/
theorem Stationed.contains_worker_iff (h : Stationed settings r s) {w : Rank}
    (worker : settings.topology.isWorker w = true) :
    s.workers.contains w = true ↔ r = settings.topology.homeServer w := by
  rw [h.serving.workers, Topology.mem_attached_iff]
  exact and_iff_right worker

/-- A unit is held by its target, if that is a server, and otherwise by the home of the target. -/
theorem Stationed.holder_eq (h : Stationed settings r s) (target : Rank) :
    s.holder target = if settings.topology.isServer target then target
      else settings.topology.homeServer target := by
  rw [holder, h.topology]

/-- A unit for a worker is placed at the worker's home, and sent there from everywhere else. -/
theorem Stationed.submit_worker (h : Stationed settings r s) {w : Rank}
    (worker : settings.topology.isWorker w = true) (named : u.target = some w) :
    (r = settings.topology.homeServer w → s.submit u = s.place u) ∧
      (r ≠ settings.topology.homeServer w → (s.submit u).1.outbox =
        s.outbox ++ [(settings.topology.homeServer w, .forwardPut u)]) := by
  have other := Topology.isServer_of_isWorker worker
  have home : s.holder w = settings.topology.homeServer w := by
    rw [h.holder_eq, other]
    rfl
  constructor
  · intro here
    have held : s.holds u = true := by
      rw [holds_of_target named, home, h.rank, here, beq_self_eq_true]
    have settled : u.settled s.topology = u := by
      simp [WorkUnit.settled, named, h.topology, other]
    rw [submit_held held, settled]
  · intro elsewhere
    have sent : s.holds u = false := by
      rw [holds_of_target named, home, h.rank, beq_eq_false_iff_ne]
      exact Ne.symm elsewhere
    obtain ⟨stats, dest, ⟨leads, -⟩, e⟩ := submit_forwarded sent
    rw [named, Option.map_some, home] at leads
    cases leads
    rw [e]
    rfl

end Server

end WorkPool
