import WorkPool.Proofs.Server.Acts
import WorkPool.Proofs.World.History

/-!
# Shutdown: the end of a run reaches every server once

Only the master ends a run, and it does so once: in one step it tells every other server and stops.
Another server stops when it is told. `Server.Heeds` says so of a single step.

In a world nobody but the master tells of the end (`Agreed`). For every other server there is then,
once the master has stopped, one thing that says so: either the message is still in flight, or the
server has stopped. Both together are one as soon as the master has stopped, and none before, and
every step keeps that.
-/

namespace WorkPool

/-! ## What servers tell -/

/-- Whom some messages tell of the end of the run. -/
def toldIn (out : List (Rank × Message)) : List Rank :=
  out.filterMap fun p => if p.2 = .shutdown then some p.1 else none

@[simp] theorem toldIn_append (a b : List (Rank × Message)) :
    toldIn (a ++ b) = toldIn a ++ toldIn b := List.filterMap_append

theorem toldIn_map (dest : List Rank) : toldIn (dest.map fun r => (r, .shutdown)) = dest := by
  simp [toldIn, List.filterMap_map]

namespace Server

variable {input : Input} {s s₁ s' : Server}

/-- A message other than that the run ends tells nobody so. -/
theorem toldIn_send (s : Server) (dest : Rank) {m : Message} (h : m ≠ .shutdown) :
    toldIn (s.send dest m).outbox = toldIn s.outbox := by
  have nobody : toldIn [(dest, m)] = [] := by simp [toldIn, h]
  rw [send, toldIn_append, nobody, List.append_nil]

/-- What a step of a server has to do with the end of the run. -/
inductive Heeds (input : Input) (s s' : Server) : Prop where
  /-- nothing -/
  | goesOn (phase : s'.phase = s.phase) (told : toldIn s'.outbox = toldIn s.outbox)
  /-- the master stops, and tells the others -/
  | ends (running : s.phase = .running) (stopped : s'.phase = .shuttingDown)
    (master : s.isMaster = true) (told : toldIn s'.outbox = toldIn s.outbox ++ s.otherServers)
  /-- a server is told, and stops -/
  | obeys (running : s.phase = .running) (stopped : s'.phase = .shuttingDown) (source : Rank)
    (heard : input = .message source .shutdown) (told : toldIn s'.outbox = toldIn s.outbox)

theorem Heeds.congr (h : Heeds input s s₁) (phase : s'.phase = s₁.phase)
    (told : toldIn s'.outbox = toldIn s₁.outbox) : Heeds input s s' := by
  cases h with
  | goesOn phase' told' => exact .goesOn (phase.trans phase') (told.trans told')
  | ends running stopped master told' =>
    exact .ends running (phase.trans stopped) master (told.trans told')
  | obeys running stopped source heard told' =>
    exact .obeys running (phase.trans stopped) source heard (told.trans told')

/-- Whoever still serves has done nothing about the end. -/
theorem Heeds.running (h : Heeds input s s₁) (running : s₁.isShuttingDown = false) :
    s.phase = .running ∧ toldIn s₁.outbox = toldIn s.outbox := by
  have serves : s₁.phase = .running := by
    cases phase : s₁.phase with
    | running => rfl
    | shuttingDown =>
      rw [isShuttingDown, phase] at running
      cases running
  cases h with
  | goesOn phase told => exact ⟨phase.symm.trans serves, told⟩
  | ends _ stopped | obeys _ stopped => cases serves.symm.trans stopped

/-- **One more act** of a step. -/
theorem Heeds.act (h : Heeds input s s₁) (rank : s₁.rank = s.rank)
    (topology : s₁.topology = s.topology) (act : Act input s₁ s') : Heeds input s s' := by
  cases act with
  | note | queue | share | drop | occupy => exact h.congr rfl rfl
  | say dest m ordinary =>
    refine h.congr rfl (toldIn_send s₁ dest ?_)
    rintro rfl
    cases ordinary
  | meet => exact h.congr rfl (toldIn_send _ _ nofun)
  | endRun running master =>
    obtain ⟨serves, told⟩ := h.running running
    refine .ends serves rfl ?_ ?_
    · rw [isMaster, rank, topology] at master
      exact master
    · rw [sendAll_eq rfl, toldIn_append, toldIn_map, told, otherServers, rank, topology]
      rfl
  | obey source running heard =>
    obtain ⟨serves, told⟩ := h.running running
    exact .obeys serves rfl source heard told

/-- What a step keeps, and what it has to do with the end of the run. -/
structure Minds (input : Input) (s s' : Server) : Prop where
  rank : s'.rank = s.rank
  topology : s'.topology = s.topology
  heeds : Heeds input s s'

theorem Minds.refl (input : Input) (s : Server) : Minds input s s := ⟨rfl, rfl, .goesOn rfl rfl⟩

/-- A server that goes on acting still minds what it was told. -/
theorem Minds.acts (h : Minds input s s₁) (acts : Acts input s₁ s') : Minds input s s' := by
  refine acts.keep (P := Minds input s) (fun s₁ s' h act => ?_) h
  obtain ⟨rank, topology⟩ := act.same
  exact ⟨rank.trans h.rank, topology.trans h.topology, h.heeds.act h.rank h.topology act⟩

/-- **Every step** of a server: the master may end the run, and the others do as they are told. -/
theorem step_minds {flow : Flow} (h : s.step input = .ok (s', flow)) : Minds input s s' := by
  cases step_serves h with
  | acts acts => exact (Minds.refl input s).acts acts
  | @hand s₁ source tag type u backlog asked before running attached popped after =>
    have first := (Minds.refl input s).acts before
    have handed : Minds input s ({ s₁ with backlog }.respond source tag (.ok (.work u))) :=
      ⟨first.rank, first.topology, first.heeds.congr rfl (toldIn_send _ _ nofun)⟩
    exact handed.acts after
  | @park s₁ source tag type backlog asked before running attached unmet after =>
    have first := (Minds.refl input s).acts before
    have parked : Minds input s ({ s₁ with
        waiting := s₁.waiting.park ⟨source, tag, type⟩ }.setWorker source .parked) :=
      ⟨first.rank, first.topology, first.heeds.congr rfl rfl⟩
    exact parked.acts after

/-- A server that is told of the end has stopped. -/
theorem step_shutdown {source : Rank} {flow : Flow}
    (h : s.step (.message source .shutdown) = .ok (s', flow)) : s'.phase = .shuttingDown := by
  obtain ⟨dispatched, -⟩ := handle_eq_ok h
  cases dispatched
  exact phase_beginShutdown _

end Server

/-! ## What is in flight -/

/-- How many of some messages tell a rank of the end of the run. -/
def noticesTo (x : Rank) (envelopes : List Envelope) : Nat :=
  envelopes.countP fun e => e.dest == x && e.message == .shutdown

@[simp] theorem noticesTo_append (x : Rank) (a b : List Envelope) :
    noticesTo x (a ++ b) = noticesTo x a + noticesTo x b := List.countP_append

/-- Those whom a server tells have a notice on its way. -/
theorem noticesTo_post (x r : Rank) (out : List (Rank × Message)) :
    noticesTo x (post r out) = (toldIn out).count x := by
  rw [noticesTo, post, List.countP_map, toldIn, List.count, List.countP_filterMap]
  refine List.countP_congr fun p _ => ?_
  by_cases h : p.2 = .shutdown <;> simp [h]

/-- No notice is on its way to a rank. -/
theorem noticesTo_eq_zero {x : Rank} {envelopes : List Envelope} :
    noticesTo x envelopes = 0 ↔ ∀ e ∈ envelopes, e.dest = x → e.message ≠ .shutdown := by
  simp [noticesTo, List.countP_eq_zero]

theorem noticesTo_envelopes_self (r source : Rank) :
    noticesTo r (Input.envelopes r (.message source .shutdown)) = 1 := by
  simp [noticesTo, Input.envelopes]

theorem noticesTo_envelopes_ne (input : Input) {x r : Rank} (h : x ≠ r) :
    noticesTo x (input.envelopes r) = 0 := by
  rw [noticesTo_eq_zero]
  intro e he dest
  cases input with
  | message source m =>
    rw [List.mem_singleton.1 he] at dest
    exact absurd dest.symm h
  | stealTick | idleTick => cases he

theorem noticesTo_envelopes_of_ne {input : Input} (h : ∀ source, input ≠ .message source .shutdown)
    (x r : Rank) : noticesTo x (input.envelopes r) = 0 := by
  rw [noticesTo_eq_zero]
  intro e he dest
  cases input with
  | message source m =>
    rw [List.mem_singleton.1 he]
    rintro rfl
    exact h source rfl
  | stealTick | idleTick => cases he

/-- How often a server has stopped, which it does once. -/
def Phase.stopped : Phase → Nat
  | .running => 0
  | .shuttingDown => 1

theorem Server.stopped_phase (s : Server) :
    s.phase.stopped = if s.isShuttingDown then 1 else 0 := by
  cases phase : s.phase <;> simp [Server.isShuttingDown, phase, Phase.stopped]

theorem Phase.stopped_le (p : Phase) : p.stopped ≤ 1 := by cases p <;> decide

/-- The servers that are told of the end. -/
def Topology.Follows (t : Topology) (x : Rank) : Prop := t.isServer x = true ∧ x ≠ t.master

namespace World

variable {w w' : World} {sent new : List Envelope} {x r : Rank}

/-- The master tells of the end once, and whoever is told has stopped as soon as the message is no
longer in flight. -/
structure Agreed (w : World) (sent : List Envelope) : Prop extends Recorded w sent where
  source : ∀ e ∈ sent, e.message = .shutdown → e.source = w.topology.master
  told : ∀ x, w.topology.Follows x →
    noticesTo x sent = (w.servers w.topology.master).phase.stopped
  spared : ∀ x, ¬w.topology.Follows x → noticesTo x sent = 0
  heard : ∀ x, w.topology.Follows x →
    noticesTo x w.flight + (w.servers x).phase.stopped =
      (w.servers w.topology.master).phase.stopped

/-- **At the start** nobody has stopped and nobody is told to. -/
theorem Start.agreed {settings : Settings} (h : Start settings w) : w.Agreed [] := by
  have running (r : Rank) (server : w.topology.isServer r = true) :
      (w.servers r).phase.stopped = 0 := by
    rw [h.server server]
    rfl
  have master (x : Rank) (hx : w.topology.Follows x) :
      (w.servers w.topology.master).phase.stopped = 0 :=
    running _ (Topology.isServer_master (Nat.zero_lt_of_lt (Topology.serverIndex_lt hx.1)))
  refine ⟨h.recorded, nofun, fun x hx => (master x hx).symm, fun x hx => rfl, fun x hx => ?_⟩
  rw [h.flight, running x hx.1, master x hx]
  rfl

/-! ## One move -/

/-- What a move that takes some messages out of flight, and sends others, has to do with the end of
the run. -/
structure Announces (w w' : World) (taken new : List Envelope) : Prop where
  source : ∀ e ∈ new, e.message = .shutdown → e.source = w.topology.master
  told : ∀ x, w.topology.Follows x →
    (w'.servers w.topology.master).phase.stopped =
      (w.servers w.topology.master).phase.stopped + noticesTo x new
  spared : ∀ x, ¬w.topology.Follows x → noticesTo x new = 0
  heard : ∀ x, w.topology.Follows x →
    (w'.servers x).phase.stopped = (w.servers x).phase.stopped + noticesTo x taken

/-- **One move**: whoever stops has been told, or is the master, which tells all others. -/
theorem Agreed.announced (h : w.Agreed sent) (recorded : w'.Recorded (sent ++ new))
    (topology : w'.topology = w.topology) (taken : List Envelope)
    (flight : (w.flight ++ new).Perm (taken ++ w'.flight)) (announces : Announces w w' taken new) :
    w'.Agreed (sent ++ new) := by
  refine ⟨recorded, ?_, ?_, ?_, ?_⟩ <;> rw [topology]
  · intro e he
    rcases List.mem_append.1 he with he | he
    · exact h.source e he
    · exact announces.source e he
  · intro x hx
    rw [noticesTo_append, announces.told x hx, h.told x hx]
  · intro x hx
    rw [noticesTo_append, announces.spared x hx, h.spared x hx]
  · intro x hx
    have notices : noticesTo x (w.flight ++ new) = noticesTo x (taken ++ w'.flight) :=
      flight.countP_eq _
    rw [noticesTo_append, noticesTo_append] at notices
    have heard := h.heard x hx
    have heard' := announces.heard x hx
    have told := announces.told x hx
    omega

/-- Where nobody is told of the end, the master does not end the run. -/
theorem Announces.of_quiet {taken : List Envelope} (quiet : ∀ e ∈ new, e.message ≠ .shutdown)
    (master : (w'.servers w.topology.master).phase = (w.servers w.topology.master).phase)
    (heard : ∀ x, w.topology.Follows x →
      (w'.servers x).phase.stopped = (w.servers x).phase.stopped + noticesTo x taken) :
    Announces w w' taken new := by
  have none (x : Rank) : noticesTo x new = 0 := noticesTo_eq_zero.2 fun e he _ => quiet e he
  refine ⟨fun e he ends => absurd ends (quiet e he), fun x _ => ?_, fun x _ => none x, heard⟩
  rw [master, none x, Nat.add_zero]

/-- A notice in flight is for one of those that are told, and who has not stopped. -/
theorem Agreed.awaited (h : w.Agreed sent) {source : Rank}
    (flies : ⟨source, r, .shutdown⟩ ∈ w.flight) :
    w.topology.Follows r ∧ (w.servers r).phase = .running := by
  have follows : w.topology.Follows r := by
    by_contra outside
    exact noticesTo_eq_zero.1 (h.spared r outside) _ (h.flight flies) rfl rfl
  refine ⟨follows, ?_⟩
  have one : noticesTo r w.flight ≠ 0 := fun none => noticesTo_eq_zero.1 none _ flies rfl rfl
  have heard := h.heard r follows
  have once := (w.servers w.topology.master).phase.stopped_le
  cases phase : (w.servers r).phase with
  | running => rfl
  | shuttingDown =>
    rw [phase, Phase.stopped] at heard
    omega

/-- What a server sends that tells nobody of the end. -/
theorem ne_shutdown_of_toldIn {out : List (Rank × Message)} (nobody : toldIn out = [])
    {e : Envelope} (he : e ∈ post r out) : e.message ≠ .shutdown := by
  have none : noticesTo e.dest (post r out) = 0 := by rw [noticesTo_post, nobody, List.count_nil]
  exact noticesTo_eq_zero.1 none e he rfl

/-- **A server takes a step.** One that takes no step has not stopped in it. -/
theorem Agreed.serve (h : w.Agreed sent) (server : w.topology.isServer r = true) (input : Input)
    {rest : List Envelope} (taken : w.flight.Perm (input.envelopes r ++ rest)) {s : Server}
    {flow : Flow} (step : (w.servers r).step input = .ok (s, flow)) :
    Announces w ({ w with flight := rest }.served r s) (input.envelopes r) (post r s.outbox) := by
  have idle : toldIn (w.servers r).outbox = [] := by
    rw [h.outbox r server]
    rfl
  have others {x : Rank} (hx : x ≠ r) :
      (({ w with flight := rest }.served r s).servers x).phase = (w.servers x).phase := by
    rw [servers_served_ne _ s hx]
  have self : (({ w with flight := rest }.served r s).servers r).phase = s.phase := by
    rw [servers_served_self]
  have flies (source : Rank) (heard : input = .message source .shutdown) :
      (⟨source, r, .shutdown⟩ : Envelope) ∈ w.flight := by
    subst heard
    exact taken.mem_iff.2 (List.mem_append_left _ (List.mem_singleton_self _))
  cases (Server.step_minds step).heeds with
  | goesOn phase told =>
    have nobody := told.trans idle
    have same (x : Rank) :
        (({ w with flight := rest }.served r s).servers x).phase = (w.servers x).phase := by
      by_cases hx : x = r
      · rw [hx, self, phase]
      · exact others hx
    have deaf : ∀ source, input ≠ .message source .shutdown := by
      rintro source rfl
      have running := (h.awaited (flies source rfl)).2
      cases (Server.step_shutdown step).symm.trans (phase.trans running)
    refine .of_quiet (fun _ => ne_shutdown_of_toldIn nobody) (same _) fun x _ => ?_
    rw [same, noticesTo_envelopes_of_ne deaf, Nat.add_zero]
  | ends running stopped master told =>
    have lead : r = w.topology.master := by
      rw [Server.isMaster, h.rank r server, h.topology r server] at master
      exact eq_of_beq master
    rw [idle, List.nil_append, Server.otherServers, h.rank r server, h.topology r server,
      lead] at told
    refine ⟨fun e he _ => (mem_post he).1.trans lead, fun x hx => ?_, fun x hx => ?_,
      fun x hx => ?_⟩
    · have once : (toldIn s.outbox).count x = 1 := by
        rw [told]
        exact List.count_eq_one_of_mem ((Topology.nodup_serverRanks h.fits).filter _)
          (List.mem_filter.2 ⟨(Topology.mem_serverRanks h.fits).2 hx.1, bne_iff_ne.2 hx.2⟩)
      rw [← lead, self, running, stopped, noticesTo_post, once]
      rfl
    · rw [noticesTo_post, told, List.count_eq_zero]
      intro mem
      obtain ⟨mem, other⟩ := List.mem_filter.1 mem
      exact hx ⟨(Topology.mem_serverRanks h.fits).1 mem, bne_iff_ne.1 other⟩
    · have other : x ≠ r := lead ▸ hx.2
      rw [others other, noticesTo_envelopes_ne input other, Nat.add_zero]
  | obeys running stopped source heard told =>
    have nobody := told.trans idle
    have follows := (h.awaited (flies source heard)).1
    refine .of_quiet (fun _ => ne_shutdown_of_toldIn nobody) (others follows.2.symm) fun x _ => ?_
    by_cases hx : x = r
    · rw [hx, self, running, stopped, heard, noticesTo_envelopes_self]
      rfl
    · rw [others hx, noticesTo_envelopes_ne input hx, Nat.add_zero]

/-- **Whatever is done**, if nobody but a server tells of the end. -/
theorem Agreed.stirs {step : Option (Rank × Input)} (h : w.Agreed sent)
    (stirs : Stirs w step new w')
    (orderly : ∀ e ∈ new, w.topology.isServer e.source = false → e.message ≠ .shutdown) :
    w'.Agreed (sent ++ new) := by
  have recorded := h.toRecorded.stirs stirs
  have topology := stirs.topology
  cases stirs with
  | @serve r input rest s flow server taken step =>
    refine h.announced recorded topology _ ?_ (h.serve server input taken step)
    have posted := taken.append_right (post r s.outbox)
    rw [List.append_assoc] at posted
    exact posted
  | @say e workers outside =>
    have quiet : ∀ e' ∈ [e], e'.message ≠ .shutdown := by
      intro e' he
      rw [List.mem_singleton.1 he]
      exact orderly e (List.mem_singleton_self e) outside
    exact h.announced recorded topology [] (.refl _) (.of_quiet quiet rfl fun x _ => rfl)
  | @receive e rest workers outside taken =>
    refine h.announced recorded topology [e] (by rwa [List.append_nil])
      (.of_quiet nofun rfl fun x hx => ?_)
    have none : noticesTo x [e] = 0 := by
      rw [noticesTo_eq_zero]
      rintro e' he rfl
      have server := hx.1
      rw [List.mem_singleton.1 he, outside] at server
      cases server
    rw [none]
    rfl

/-! ## All runs -/

/-- Every notice in flight is the master's. -/
theorem Agreed.notices_eq (h : w.Agreed sent) (x : Rank) :
    noticesTo x w.flight = w.flight.count ⟨w.topology.master, x, .shutdown⟩ := by
  refine List.countP_congr fun e he => ?_
  rw [Bool.and_eq_true, beq_iff_eq, beq_iff_eq, beq_iff_eq]
  constructor
  · rintro ⟨dest, ends⟩
    rw [← h.source e (h.flight he) ends, ← dest, ← ends]
  · rintro rfl
    exact ⟨rfl, rfl⟩

/-- **Every run** in which nobody but the servers tells of the end. -/
theorem Agreed.moves (h : w.Agreed sent) {ms : List Move}
    (orderly : ∀ source dest, .say source dest .shutdown ∉ ms) (moved : w.moves ms = some w') :
    w'.Agreed (sent ++ w.history ms) := by
  have step (w : World) (sent : List Envelope) (next : Move) (w' : World) (h : w.Agreed sent)
      (orderly : ∀ source dest, next ≠ .say source dest .shutdown)
      (moved : w.move next = some w') : w'.Agreed (sent ++ w.sent next) := by
    refine h.stirs (move_stirs moved) fun e he outside ends => ?_
    rcases said_of_outside moved he outside with asks | said
    · rw [ends] at asks
      cases asks
    · rw [ends] at said
      exact orderly _ _ said
  refine moves_induction step (fun next mem source dest said => ?_) h moved
  exact orderly source dest (said ▸ mem)

/-- **The end of the run is agreed upon**. Nobody but the master tells of it, and it tells every
other server once; if any server has stopped, the master has, and every other server has stopped or
is yet to receive the one message that tells it to. -/
theorem shutdown_agreed {settings : Settings} {w₀ : World} (start : Start settings w₀)
    {ms : List Move} (orderly : ∀ source dest, .say source dest .shutdown ∉ ms)
    (moved : w₀.moves ms = some w) :
    (∀ r, w.topology.isServer r = true → (w.servers r).isShuttingDown = true →
      (w.servers w.topology.master).isShuttingDown = true ∧
      ∀ x, w.topology.isServer x = true → x ≠ w.topology.master →
        (w.servers x).isShuttingDown = true ∧
          w.flight.count ⟨w.topology.master, x, .shutdown⟩ = 0 ∨
        (w.servers x).isShuttingDown = false ∧
          w.flight.count ⟨w.topology.master, x, .shutdown⟩ = 1) ∧
    (∀ x, (w₀.history ms).countP (fun e => e.dest == x && e.message == .shutdown) ≤ 1) ∧
    ∀ e ∈ w₀.history ms, e.message = .shutdown → e.source = w.topology.master := by
  have agreed : w.Agreed (w₀.history ms) := start.agreed.moves orderly moved
  refine ⟨fun r server down => ?_, fun x => ?_, agreed.source⟩
  · have ended : (w.servers w.topology.master).isShuttingDown = true := by
      by_cases lead : r = w.topology.master
      · exact lead ▸ down
      · have heard := agreed.heard r ⟨server, lead⟩
        rw [Server.stopped_phase, down] at heard
        by_contra running
        rw [Server.stopped_phase, Bool.eq_false_iff.2 running] at heard
        cases heard
    refine ⟨ended, fun x hx other => ?_⟩
    have heard := agreed.heard x ⟨hx, other⟩
    rw [agreed.notices_eq, Server.stopped_phase, Server.stopped_phase, ended] at heard
    cases stopped : (w.servers x).isShuttingDown with
    | true =>
      rw [stopped] at heard
      exact .inl ⟨rfl, Nat.succ.inj heard⟩
    | false =>
      rw [stopped] at heard
      exact .inr ⟨rfl, heard⟩
  · by_cases hx : w.topology.Follows x
    · exact (agreed.told x hx).trans_le (Phase.stopped_le _)
    · exact (agreed.spared x hx).trans_le (Nat.zero_le 1)

/-- A worker ends the run of two servers by asking the one that is not the master. -/
def endedRun : List Move :=
  [.act (.ask 1 3 1 .serverShutdown), .act (.deliver 1 3), .act (.deliver 3 2)]

/-- The master has stopped, and the other server is still to be told. -/
theorem shutdown_agreed_on_the_way :
    ∃ w, (initial twoByTwo).moves endedRun = some w ∧ (w.servers 2).isShuttingDown = true ∧
      (w.servers 3).isShuttingDown = false ∧ w.flight.count ⟨2, 3, .shutdown⟩ = 1 := by
  have start : Start twoByTwo (initial twoByTwo) := start_initial rfl rfl
  have orderly : ∀ source dest, .say source dest .shutdown ∉ endedRun := by
    intro source dest said
    simp [endedRun] at said
  have ran : ((initial twoByTwo).moves endedRun).map (fun w =>
      ([2, 3].map w.topology.isServer, w.topology.master,
        [2, 3].map fun r => (w.servers r).isShuttingDown)) =
      some ([true, true], 2, [true, false]) := by decide +kernel
  obtain ⟨w, moved, seen⟩ := Option.map_eq_some_iff.1 ran
  simp only [List.map_cons, List.map_nil, Prod.mk.injEq, List.cons.injEq, and_true] at seen
  obtain ⟨⟨server, other⟩, master, down, up⟩ := seen
  obtain ⟨-, told⟩ := (shutdown_agreed start orderly moved).1 2 server down
  rw [master] at told
  rcases told 3 other (by decide) with ⟨down', -⟩ | ⟨-, one⟩
  · rw [up] at down'
    cases down'
  · exact ⟨w, moved, down, up, one⟩

end World

end WorkPool
