import WorkPool.Proofs.Server.Steps
import WorkPool.Proofs.Shard.ExactlyOnce
import WorkPool.Proofs.World

/-!
# Calm: a run that goes on

While the master serves, every server does, and no message says otherwise: only the master
can begin a shutdown. So as long as the master serves, what happens in a world is one of the
cases of `Calm`, each with what it leaves alone. Everything that holds of a run up to its end is
proved case by case over `Calm`.
-/

namespace WorkPool

/-- A server in service between two steps. -/
structure Server.InService (t : Topology) (settings : Settings) (r : Rank) (s : Server) : Prop where
  rank : s.rank = r
  topology : s.topology = t
  settings : s.settings = settings
  running : s.phase = .running
  outbox : s.outbox = []
  sound : s.shard.Sound
  counted : s.backlog.Counted
  attends : s.Attends
  /-- only ranks of the run are parked -/
  parked : ∀ x, 0 < s.parkedFor x → t.contains x = true
  fits : s.Fits

namespace Server.InService

variable {t : Topology} {settings : Settings} {r : Rank} {s s' : Server}

/-- A server stays in service when it handles a message. -/
theorem handled (hs : s.InService t settings r) {source : Rank} {m : Message}
    (known : t.contains source = true) (h : (s.countArrival source m).Handled source m s')
    (fits : s'.Fits) : ({ s' with outbox := [] } : Server).InService t settings r := by
  rw [countArrival_eq] at h
  exact {
    rank := h.rank.trans hs.rank
    topology := h.topology.trans hs.topology
    settings := h.settings.trans hs.settings
    running := h.phase.trans hs.running
    outbox := rfl
    sound := h.sound hs.sound
    counted := h.counted hs.counted
    attends := h.attends hs.attends
    parked := fun x hx => by
      by_cases own : source = x
      · exact own ▸ known
      · have before := h.parked x
        rw [beq_false_of_ne own, Bool.and_false, if_neg Bool.false_ne_true] at before
        exact hs.parked x (Nat.lt_of_lt_of_le hx before)
    fits := ⟨fits.activity, fits.sent, fits.received⟩ }

/-- And when it looks for work. -/
theorem trySteal (hs : s.InService t settings r) :
    ({ s.trySteal with outbox := [] } : Server).InService t settings r := by
  obtain ⟨peers, out, e, -⟩ := trySteal_eq s
  rw [e]
  exact { hs with
    outbox := rfl
    fits := ⟨hs.fits.activity, hs.fits.sent, hs.fits.received⟩ }

/-- And when it changes its votes. -/
theorem vote (hs : s.InService t settings r) (votes : Quiescence) (stats : ServerStats) :
    ({ s with votes, stats } : Server).InService t settings r :=
  { hs with fits := ⟨hs.fits.activity, hs.fits.sent, hs.fits.received⟩ }

end Server.InService

/-- The messages that may be in flight while no server shuts down: a worker may ask for what it
may ask for, servers send units and requests to servers only, and answers go to ranks of the
run. -/
def Topology.Routed (t : Topology) (e : Envelope) : Prop :=
  (∃ tag body, e.message = .request tag body ∧ t.mayAsk e.source e.dest body = true) ∨
    t.isServer e.source = true ∧
      match e.message with
      | .shutdown => False
      | .forwardPut _ | .request .. | .stealResponse .. => t.isServer e.dest = true
      | .response .. => t.contains e.dest = true
      | _ => True

namespace Topology

variable {t : Topology} {e : Envelope}

/-- Nobody is told of the end of the run while it goes on. -/
theorem Routed.ne_shutdown (h : t.Routed e) : e.message ≠ .shutdown := by
  intro shutdown
  rcases h with ⟨tag, body, request, -⟩ | ⟨-, h⟩
  · rw [shutdown] at request
    cases request
  · rw [shutdown] at h
    exact h

/-- What is not a request comes from a server. -/
theorem Routed.isServer_source (h : t.Routed e) (kind : e.message.isRequest = false) :
    t.isServer e.source = true := by
  rcases h with ⟨tag, body, request, -⟩ | ⟨server, -⟩
  · rw [request] at kind
    cases kind
  · exact server

/-- Units go from server to server. -/
theorem Routed.isServer_dest (h : t.Routed e) (kind : e.message.carried ≠ []) :
    t.isServer e.dest = true := by
  rcases h with ⟨tag, body, request, -⟩ | ⟨-, dest⟩
  · rw [request] at kind
    exact absurd rfl kind
  · cases message : e.message with
    | forwardPut | stealResponse =>
      rw [message] at dest
      exact dest
    | _ =>
      rw [message] at kind
      exact absurd rfl kind

theorem Routed.contains_dest (h : t.Routed e) (kind : e.message.isResponse = true) :
    t.contains e.dest = true := by
  rcases h with ⟨tag, body, request, -⟩ | ⟨-, dest⟩
  · rw [request] at kind
    cases kind
  · cases message : e.message with
    | response =>
      rw [message] at dest
      exact dest
    | _ =>
      rw [message] at kind
      cases kind

theorem Routed.contains_source (h : t.Routed e) : t.contains e.source = true := by
  rcases h with ⟨_, _, -, may⟩ | ⟨server, -⟩
  · exact contains_of_isWorker (isWorker_of_mayAsk may)
  · exact contains_of_isServer server

/-- What a server sends when it handles a message. -/
theorem Proper.routed (h : t.Proper) {s : Server} {settings : Settings} {source dest : Rank}
    {m : Message} {p : Rank × Message} (hs : s.InService t settings dest)
    (server : t.isServer dest = true) (cause : t.Routed ⟨source, dest, m⟩)
    (may : s.MaySend source m p) : t.Routed ⟨dest, p.1, p.2⟩ := by
  refine .inr ⟨server, ?_⟩
  obtain ⟨receiver, sent⟩ := p
  cases sent with
  | forwardPut u =>
    rw [Server.MaySend, hs.topology] at may
    rcases may with server | ⟨worker, rfl⟩
    · exact server
    · exact isServer_homeServer h.fits h.served worker
  | request tag body =>
    rw [Server.MaySend, hs.topology] at may
    obtain ⟨id, rfl⟩ := may
    exact h.isServer_owner id
  | response tag answer =>
    rcases may.response with waits | rfl
    · exact hs.parked receiver waits
    · exact cause.contains_source
  | stealResponse units load =>
    obtain ⟨rfl, wanted, load, rfl⟩ := may
    exact cause.isServer_source rfl
  | shutdown => exact may
  | _ => trivial

end Topology

namespace World

variable {w w' : World} {settings : Settings}

/-- Every server is in service, and every message is where it may be. -/
structure InService (settings : Settings) (w : World) : Prop where
  proper : w.topology.Proper
  servers : ∀ r, w.topology.isServer r = true →
    (w.servers r).InService w.topology settings r
  routed : ∀ e ∈ w.flight, w.topology.Routed e

@[simp] theorem servers_served_self (w : World) (r : Rank) (s : Server) :
    (w.served r s).servers r = { s with outbox := [] } := if_pos rfl

theorem servers_served_ne (w : World) {r x : Rank} (s : Server) (h : x ≠ r) :
    (w.served r s).servers x = w.servers x := if_neg h

@[simp] theorem servers_setServer_self (w : World) (r : Rank) (s : Server) :
    (w.setServer r s).servers r = s := if_pos rfl

theorem servers_setServer_ne (w : World) {r x : Rank} (s : Server) (h : x ≠ r) :
    (w.setServer r s).servers x = w.servers x := if_neg h

/-- A step that sends nothing. -/
theorem served_quiet {r : Rank} {s : Server} (h : s.outbox = []) :
    w.served r s = w.setServer r s := by
  have same : { s with outbox := [] } = s := by rw [← h]
  rw [served, same, h, send]
  simp [post, setServer]

theorem setServer_self (w : World) (r : Rank) : w.setServer r (w.servers r) = w := by
  have same : (fun x => if x = r then w.servers r else w.servers x) = w.servers := by
    funext x
    split
    · rename_i h
      rw [h]
    · rfl
  rw [setServer, same]

/-- What can happen while the master serves. -/
inductive Calm (w : World) : World → Prop where
  /-- a server handles a message that is no report -/
  | handle {source dest : Rank} {m : Message} {rest : List Envelope} {s : Server}
    (server : w.topology.isServer dest = true)
    (taken : w.flight.Perm (⟨source, dest, m⟩ :: rest))
    (kind : ∀ round report, m ≠ .idleReply round report)
    (handled : ((w.servers dest).countArrival source m).Handled source m s)
    (fits : s.Fits)
    (still : m.movesWork = false → (w.servers dest).isIdle = true →
      s.idleReport = (w.servers dest).idleReport) :
    Calm w ({ w with flight := rest }.served dest s)
  /-- a server takes up a report, or drops it -/
  | report {source dest : Rank} {round : UInt64} {report : IdleReport} {rest : List Envelope}
    {votes : Quiescence} (server : w.topology.isServer dest = true)
    (taken : w.flight.Perm (⟨source, dest, .idleReply round report⟩ :: rest))
    (recorded : votes = (w.servers dest).votes ∨ dest = w.topology.master ∧ ∃ verdict,
      (w.servers dest).votes.record source round report = .ok (votes, verdict)) :
    Calm w ({ w with flight := rest }.setServer dest { w.servers dest with votes })
  /-- a server looks for work -/
  | stealTick {r : Rank} (server : w.topology.isServer r = true) :
    Calm w (w.served r (w.servers r).trySteal)
  /-- the master has nothing to do and opens a round of votes -/
  | openRound {votes : Quiescence} {round : UInt64} {stats : ServerStats}
    (voting : (w.servers w.topology.master).votes.isVoting = false)
    (idle : (w.servers w.topology.master).isIdle = true)
    (opened : (w.servers w.topology.master).votes.openRound w.topology.master
      (w.servers w.topology.master).idleReport = .ok (votes, round)) :
    Calm w (w.served w.topology.master { w.servers w.topology.master with
      votes, stats
      outbox := (w.servers w.topology.master).otherServers.map fun r => (r, .idleQuery round) })
  /-- the only server opens and concludes a round of votes -/
  | soleRound {votes votes' : Quiescence} {round : UInt64} {verdict : Option Verdict}
    {stats : ServerStats} (idle : (w.servers w.topology.master).isIdle = true)
    (opened : (w.servers w.topology.master).votes.openRound w.topology.master
      (w.servers w.topology.master).idleReport = .ok (votes, round))
    (concluded : votes.conclude = .ok (votes', verdict)) :
    Calm w (w.setServer w.topology.master { w.servers w.topology.master with
      votes := votes', stats })
  /-- a server considers a vote, and leaves it -/
  | rest : Calm w w
  /-- a worker asks for something -/
  | ask {worker dest : Rank} {tag : UInt64} {body : Request}
    (may : w.topology.mayAsk worker dest body = true) (free : w.workers worker = .free) :
    Calm w ((w.setWorker worker (if body = .finalize then .leaving tag else .waiting tag)).send
      [⟨worker, dest, .request tag body⟩])
  /-- a worker takes up a message -/
  | receive {source worker : Rank} {m : Message} {rest : List Envelope}
    (is : w.topology.isWorker worker = true)
    (taken : w.flight.Perm (⟨source, worker, m⟩ :: rest)) :
    Calm w ({ w with flight := rest }.setWorker worker ((w.workers worker).receive m))

/-- The ranks of a run do not change. -/
theorem Calm.topology (h : Calm w w') : w'.topology = w.topology := by
  cases h <;> rfl

/-- What happens to a server: it handles a message, or it keeps everything but its votes, its peers
and what it tells of itself. Only one server takes a step. -/
theorem Calm.server_cases (h : Calm w w') (r : Rank) :
    (∃ votes peers stats outbox, w'.servers r =
      { w.servers r with votes, peers, stats, outbox }) ∨
      ∃ source m s, ((w.servers r).countArrival source m).Handled source m s ∧
        ⟨source, r, m⟩ ∈ w.flight ∧ w.topology.isServer r = true ∧
        (m.movesWork = false → (w.servers r).isIdle = true →
          s.idleReport = (w.servers r).idleReport) ∧
        w'.servers r = { s with outbox := [] } := by
  have other {w : World} : ∃ votes peers stats outbox, w.servers r =
      { w.servers r with votes, peers, stats, outbox } := ⟨_, _, _, _, rfl⟩
  have noted {w : World} {d : Rank} {s : Server} (step : ∃ votes peers stats outbox,
      s = { w.servers d with votes, peers, stats, outbox }) : ∃ votes peers stats outbox,
      (w.setServer d s).servers r = { w.servers r with votes, peers, stats, outbox } := by
    by_cases hr : r = d
    · subst hr
      rw [servers_setServer_self]
      exact step
    · rw [servers_setServer_ne w s hr]
      exact other
  cases h with
  | @handle source dest m rest s server taken kind handled fits still =>
    by_cases hr : r = dest
    · subst hr
      refine .inr ⟨source, m, s, handled, taken.mem_iff.2 List.mem_cons_self, server, still, ?_⟩
      exact servers_served_self _ _ s
    · rw [servers_served_ne _ s hr]
      exact .inl other
  | report => exact .inl (noted (w := w) ⟨_, _, _, _, rfl⟩)
  | @stealTick d server =>
    obtain ⟨peers, out, eq, -⟩ := Server.trySteal_eq (w.servers d)
    rw [eq]
    exact .inl (noted (w := w) ⟨_, _, _, _, rfl⟩)
  | openRound => exact .inl (noted (w := w) ⟨_, _, _, _, rfl⟩)
  | soleRound => exact .inl (noted (w := w) ⟨_, _, _, _, rfl⟩)
  | rest => exact .inl other
  | ask => exact .inl other
  | receive => exact .inl other

/-- Only the master takes itself for it. -/
theorem InService.master_of_isMaster (hw : w.InService settings) {r : Rank}
    (server : w.topology.isServer r = true) (h : (w.servers r).isMaster = true) :
    r = w.topology.master := by
  have inService := hw.servers r server
  rwa [Server.isMaster, inService.rank, inService.topology, beq_iff_eq] at h

/-- A server whose shutdown would show is the master. -/
theorem InService.not_over (hw : w.InService settings) {r : Rank} {s : Server} {w₁ : World}
    (server : w.topology.isServer r = true) (master : (w.servers r).isMaster = true)
    (running : ((w₁.served r s).servers w.topology.master).phase = .running) :
    s.phase ≠ .shuttingDown := by
  rw [← hw.master_of_isMaster server master, servers_served_self] at running
  intro ended
  rw [show ({ s with outbox := [] } : Server).phase = s.phase from rfl, ended] at running
  cases running

theorem mem_of_taken {e e' : Envelope} {rest : List Envelope} (h : w.flight.Perm (e :: rest))
    (he : e' ∈ rest) : e' ∈ w.flight := h.mem_iff.2 (List.mem_cons_of_mem e he)

/-- **While the master serves**, everything that happens is calm: a shutdown begins at the master,
or is told of by a message that nobody has sent. -/
theorem Happens.calm {a : Action} (h : Happens w a w') (hw : w.InService settings)
    (running : (w'.servers w.topology.master).phase = .running) : Calm w w' := by
  cases h with
  | @deliver source dest m rest s flow server oldest handled =>
    obtain ⟨dispatched, fits⟩ := Server.handle_eq_ok handled
    have taken := oldest?_perm oldest
    have inService := hw.servers dest server
    by_cases hreport : ∃ round report, m = .idleReply round report
    · obtain ⟨round, report, rfl⟩ := hreport
      rw [Server.countArrival_still rfl] at dispatched
      rcases Server.onIdleReply_cases dispatched with
        ends | rfl | ⟨master, votes, verdict, h, -, rfl⟩
      · rcases ends.cause with master | e
        · exact absurd ends.ended (hw.not_over server master running)
        · cases e
      · rw [served_quiet inService.outbox]
        exact .report server taken (.inl rfl)
      · rw [served_quiet (s := { w.servers dest with votes }) inService.outbox]
        exact .report server taken (.inr ⟨hw.master_of_isMaster server master, verdict, h⟩)
    · have kind (round : UInt64) (report : IdleReport) : m ≠ .idleReply round report :=
        fun e => hreport ⟨round, report, e⟩
      rcases Server.dispatch_handled dispatched kind with ends | handled
      · rcases ends.cause with master | e
        · have master : (w.servers dest).isMaster = true := by
            rw [Server.countArrival_eq] at master
            exact master
          exact absurd ends.ended (hw.not_over server master running)
        · exact absurd e (hw.routed _ (taken.mem_iff.2 List.mem_cons_self)).ne_shutdown
      · refine .handle server taken kind handled fits fun hm idle => ?_
        have phase := handled.phase
        rw [Server.countArrival_still hm] at dispatched phase
        exact Server.dispatch_still hm dispatched (phase.trans inService.running)
          inService.counted idle
  | stealTick server => exact .stealTick server
  | @idleTick r s flow server considered =>
    have inService := hw.servers r server
    rcases Server.onIdleTick_cases considered with rfl | ⟨master, ended | ⟨voting, idle, opened⟩⟩
    · rw [served_quiet inService.outbox, setServer_self]
      exact .rest
    · exact absurd ended (hw.not_over server master running)
    · obtain ⟨votes, round, stats, opened, concluded⟩ := opened
      cases hw.master_of_isMaster server master
      rw [inService.rank] at opened
      rcases concluded with ⟨-, votes', verdict, concluded, rfl⟩ | ⟨-, rfl⟩
      · rw [served_quiet (s := { w.servers w.topology.master with votes := votes', stats })
          inService.outbox]
        exact .soleRound idle opened concluded
      · rw [inService.outbox]
        exact .openRound voting idle opened
  | ask may free => exact .ask may free
  | receive is oldest => exact .receive is (oldest?_perm oldest)

/-! ## Staying in service -/

/-- Replacing one server by another in service. -/
theorem InService.setServer (hw : w.InService settings) {r : Rank} {s : Server}
    (hs : s.InService w.topology settings r) : (w.setServer r s).InService settings := by
  refine ⟨hw.proper, fun x server => ?_, hw.routed⟩
  by_cases hx : x = r
  · rw [hx, servers_setServer_self]
    exact hs
  · rw [servers_setServer_ne w s hx]
    exact hw.servers x server

theorem InService.setWorker (hw : w.InService settings) (r : Rank) (o : Occupation) :
    (w.setWorker r o).InService settings := ⟨hw.proper, hw.servers, hw.routed⟩

/-- What is put on its way must be routed. -/
theorem InService.send (hw : w.InService settings) {envelopes : List Envelope}
    (h : ∀ e ∈ envelopes, w.topology.Routed e) : (w.send envelopes).InService settings := by
  refine ⟨hw.proper, hw.servers, fun e he => ?_⟩
  rcases List.mem_append.1 he with he | he
  · exact hw.routed e he
  · exact h e he

/-- What is taken up was routed. -/
theorem InService.take (hw : w.InService settings) {e : Envelope} {rest : List Envelope}
    (taken : w.flight.Perm (e :: rest)) : ({ w with flight := rest } : World).InService settings :=
  ⟨hw.proper, hw.servers, fun _ he => hw.routed _ (mem_of_taken taken he)⟩

/-- What a rank puts on its way comes from it. -/
theorem mem_post {r : Rank} {out : List (Rank × Message)} {e : Envelope} (h : e ∈ post r out) :
    e.source = r ∧ (e.dest, e.message) ∈ out := by
  obtain ⟨p, hp, rfl⟩ := List.mem_map.1 h
  exact ⟨rfl, hp⟩

/-- What a server sends when it handles a message, between two steps. -/
theorem InService.sends (hw : w.InService settings) {source dest : Rank} {m : Message} {s : Server}
    (server : w.topology.isServer dest = true)
    (h : ((w.servers dest).countArrival source m).Handled source m s) {p : Rank × Message}
    (hp : p ∈ s.outbox) : (w.servers dest).MaySend source m p := by
  obtain ⟨new, hnew, kinds⟩ := h.outbox
  have outbox : s.outbox = new := by
    rw [hnew, Server.outbox_countArrival, (hw.servers dest server).outbox]
    rfl
  exact Server.maySend_countArrival (kinds p (outbox ▸ hp))

/-- **A calm world stays in service.** -/
theorem Calm.inService (h : Calm w w') (hw : w.InService settings) : w'.InService settings := by
  have master := hw.proper.isServer_master
  cases h with
  | @handle source dest m rest s server taken kind handled fits still =>
    have cause := hw.routed _ (taken.mem_iff.2 List.mem_cons_self)
    have inService := (hw.servers dest server).handled cause.contains_source handled fits
    refine ((hw.take taken).setServer inService).send fun e he => ?_
    obtain ⟨rfl, hp⟩ := mem_post he
    exact hw.proper.routed (hw.servers _ server) server cause (hw.sends server handled hp)
  | @report source dest round report rest votes server taken recorded =>
    exact (hw.take taken).setServer ((hw.servers dest server).vote votes _)
  | @stealTick r server =>
    refine (hw.setServer (hw.servers r server).trySteal).send fun e he => ?_
    obtain ⟨peers, out, eq, kinds⟩ := Server.trySteal_eq (w.servers r)
    obtain ⟨rfl, hp⟩ := mem_post he
    rw [eq, (hw.servers _ server).outbox] at hp
    obtain ⟨wanted, load, kind⟩ := kinds _ hp
    refine .inr ⟨server, ?_⟩
    rw [show e.message = .stealRequest wanted load from kind]
    trivial
  | @openRound votes round stats voting idle opened =>
    have inService := (hw.servers _ master).vote votes stats
    have fits := inService.fits
    have asking : ({ w.servers w.topology.master with votes, stats, outbox := [] } :
        Server).InService w.topology settings w.topology.master :=
      { inService with outbox := rfl, fits := ⟨fits.activity, fits.sent, fits.received⟩ }
    refine (hw.setServer asking).send fun e he => ?_
    obtain ⟨source, hp⟩ := mem_post he
    obtain ⟨r, -, eq⟩ := List.mem_map.1 hp
    refine .inr ⟨source ▸ master, ?_⟩
    rw [show e.message = .idleQuery round from (congrArg Prod.snd eq).symm]
    trivial
  | @soleRound votes votes' round verdict stats idle opened concluded =>
    exact hw.setServer ((hw.servers _ master).vote votes' stats)
  | rest => exact hw
  | @ask worker dest tag body may free =>
    refine (hw.setWorker worker _).send fun e he => ?_
    rw [List.mem_singleton.1 he]
    exact .inl ⟨tag, body, rfl, may⟩
  | receive is taken => exact (hw.take taken).setWorker _ _

/-! ## From the start on -/

/-- At the start every worker is at work. -/
theorem Start.busy (h : Start settings w) {r x : Rank} (server : w.topology.isServer r = true)
    {state : WorkerState} (hx : (w.servers r).workers.find? x = some state) : state = .busy := by
  rw [h.server server] at hx
  obtain ⟨y, -, e⟩ := List.mem_map.1 (Table.mem_of_find?_ofList hx)
  exact (congrArg Prod.snd e).symm

/-- **At the start** all servers are in service. -/
theorem Start.inService (h : Start settings w) (proper : w.topology.Proper) :
    w.InService settings := by
  refine ⟨proper, fun r server => ?_, fun e he => ?_⟩
  · have busy (x : Rank) (hx : (w.servers r).workers.find? x = some .parked) :
        WorkerState.parked = .busy := h.busy server hx
    have index := Topology.serverIndex_lt server
    have few := proper.servers_le_topId
    rw [h.topology] at index few
    have tracked : Shard.Tracked (.new (settings.topology.serverIndex r) settings) {} :=
      .new index few
    have zero : 0 < Checked.wordSize := by decide
    rw [h.server server] at busy ⊢
    exact {
      rank := rfl
      topology := h.topology.symm
      settings := rfl
      running := rfl
      outbox := rfl
      sound := ⟨tracked.waits, tracked.numbered⟩
      counted := rfl
      attends := fun x hx => absurd (busy x hx) nofun
      parked := nofun
      fits := ⟨zero, zero, zero⟩ }
  · rw [h.flight] at he
    cases he

/-- A server that has begun to shut down does not serve again: only one server takes a step, and its
phase is what it was, or the run is over. -/
theorem Happens.shuttingDown {a : Action} (h : Happens w a w') {r : Rank}
    (ended : (w.servers r).phase = .shuttingDown) : (w'.servers r).phase = .shuttingDown := by
  have served {w : World} {d : Rank} {s : Server} (ended : (w.servers r).phase = .shuttingDown)
      (step : s.phase = .shuttingDown ∨ s.phase = (w.servers d).phase) :
      ((w.served d s).servers r).phase = .shuttingDown := by
    by_cases hr : r = d
    · subst hr
      rw [servers_served_self]
      exact step.elim id fun same => same.trans ended
    · rw [servers_served_ne w s hr]
      exact ended
  cases h with
  | @deliver source dest m rest s flow server oldest handled =>
    obtain ⟨dispatched, -⟩ := Server.handle_eq_ok handled
    have counted : ((w.servers dest).countArrival source m).phase = (w.servers dest).phase :=
      Server.phase_countArrival
    refine served (w := { w with flight := rest }) ended ?_
    by_cases hreport : ∃ round report, m = .idleReply round report
    · obtain ⟨round, report, rfl⟩ := hreport
      rcases Server.onIdleReply_cases dispatched with ends | rfl | ⟨-, votes, -, -, -, rfl⟩
      · exact .inl ends.ended
      · exact .inr counted
      · exact .inr counted
    · rcases Server.dispatch_handled dispatched fun round report e => hreport ⟨round, report, e⟩
        with ends | handled
      · exact .inl ends.ended
      · exact .inr (handled.phase.trans counted)
  | @stealTick d server => exact served ended (.inr (Server.served_trySteal _).phase)
  | @idleTick d s flow server considered =>
    refine served ended ?_
    rcases Server.onIdleTick_cases considered with rfl | ⟨-, ended | ⟨-, -, opened⟩⟩
    · exact .inr rfl
    · exact .inl ended
    · obtain ⟨votes, round, stats, -, ⟨-, votes', verdict, -, rfl⟩ | ⟨-, rfl⟩⟩ := opened
      · exact .inr rfl
      · exact .inr rfl
  | ask => exact ended
  | receive => exact ended

/-- A master that serves has always served. -/
theorem running_of_run {actions : List Action} (h : w.run actions = some w')
    (running : (w'.servers w'.topology.master).phase = .running) :
    (w.servers w.topology.master).phase = .running := by
  cases phase : (w.servers w.topology.master).phase with
  | running => rfl
  | shuttingDown =>
    have ended : (w'.servers w'.topology.master).phase = .shuttingDown := by
      refine run_induction (P := fun w => (w.servers w.topology.master).phase = .shuttingDown)
        (fun w a w' ended happens => ?_) phase h
      rw [happens.topology]
      exact happens.shuttingDown ended
    cases ended.symm.trans running

/-- The first step of a run in which the master serves to the end. -/
theorem InService.run_cons (hw : w.InService settings) {a : Action} {actions : List Action}
    (h : w.run (a :: actions) = some w')
    (running : (w'.servers w'.topology.master).phase = .running) :
    ∃ w₁, w.act a = some w₁ ∧ Calm w w₁ ∧ w₁.InService settings ∧
      (w₁.servers w.topology.master).phase = .running ∧ w₁.run actions = some w' := by
  obtain ⟨w₁, hact, h⟩ := Option.bind_eq_some_iff.1 h
  have happens := act_happens hact
  have running₁ := running_of_run h running
  rw [happens.topology] at running₁
  have calm := happens.calm hw running₁
  exact ⟨w₁, hact, calm, calm.inService hw, running₁, h⟩

/-- **What calm steps keep holds as long as the master serves.** -/
theorem InService.run_calm {P : World → Prop} (hw : w.InService settings) (initial : P w)
    (step : ∀ w w', w.InService settings → P w → Calm w w' → P w') {actions : List Action}
    (h : w.run actions = some w')
    (running : (w'.servers w'.topology.master).phase = .running) :
    w'.InService settings ∧ P w' := by
  induction actions generalizing w with
  | nil =>
    cases h
    exact ⟨hw, initial⟩
  | cons a actions ih =>
    obtain ⟨w₁, -, calm, hw₁, -, h⟩ := hw.run_cons h running
    exact ih hw₁ (step w w₁ hw initial calm) h

end World

end WorkPool
