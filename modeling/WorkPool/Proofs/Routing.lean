import WorkPool.Client
import WorkPool.Proofs.Server.Routing

/-!
# Clients and servers agree on the way

Where a request goes is computed in four places: a client chooses whom it asks, a server checks
that it owns the datum it is asked about, a server works out who must hold a unit, and each server
has its own table of workers. Main statement: they agree, so that no request of a client goes
astray, no unit is passed on more than once, and a unit for a worker is kept where that worker waits
for it.

A client chooses for each operation by itself (`Client.keeper`), a server by the subject that it
reads off the request (`Operation.subject?`). The two are compared in `keeper_of_subject` and
`keeper_of_fresh`.
-/

namespace WorkPool

/-- **What has no subject** asks for a fresh id. -/
theorem Operation.subject?_eq_none_iff {op : Operation} :
    op.subject? = none ↔ op = .unique ∨ ∃ spec, op = .create spec ∧ spec.id = nullId := by
  cases op with
  | create spec => simp [Operation.subject?]
  | _ => simp [Operation.subject?]

namespace Client

variable {c c' : Client} {call : Call} {dest : Rank} {body : Request} {op : Operation}
  {id : DatumId}

/-! ## Whom a client asks -/

theorem homeServer_eq (proper : c.topology.Proper) :
    c.homeServer = .ok (c.topology.homeServer c.rank) :=
  Topology.checkedHomeServer_eq proper.fits proper.served c.rank

/-- A request goes to a server, the owner of the datum that it is about, the holder of the unit that
it puts, and the home of the client if it is for work or for a fresh id. -/
structure Addressed (c : Client) (dest : Rank) (body : Request) : Prop where
  server : c.topology.isServer dest = true
  owner : ∀ id, body.subject? = some id → dest = c.topology.owner id
  fresh : ∀ op, body = .data op → op.subject? = none → dest = c.topology.homeServer c.rank
  holder : ∀ u target, body = .put u → u.target = some target →
    c.topology.contains target = true →
      dest = if c.topology.isServer target then target else c.topology.homeServer target
  home : ∀ type, body = .get type → dest = c.topology.homeServer c.rank

theorem Addressed.congr (h : c.Addressed dest body) (topology : c'.topology = c.topology)
    (rank : c'.rank = c.rank) : c'.Addressed dest body := by
  obtain ⟨server, owner, fresh, holder, home⟩ := h
  rw [← topology] at server owner fresh holder home
  rw [← rank] at fresh home
  exact ⟨server, owner, fresh, holder, home⟩

theorem addressed_home (proper : c.topology.Proper) (free : body.subject? = none)
    (other : ∀ u, body ≠ .put u) : c.Addressed (c.topology.homeServer c.rank) body where
  server := Topology.isServer_homeServer proper.fits proper.served c.rank
  owner id about := by
    rw [free] at about
    cases about
  fresh _ _ _ := rfl
  holder u target put := absurd put (other u)
  home _ _ := rfl

theorem addressed_put {u : WorkUnit} (server : c.topology.isServer dest = true)
    (leads : ∀ target, u.target = some target → c.topology.contains target = true →
      dest = if c.topology.isServer target then target else c.topology.homeServer target) :
    c.Addressed dest (.put u) where
  server := server
  owner id about := nomatch about
  fresh op data := nomatch data
  holder v target put := by
    cases put
    exact leads target
  home type get := nomatch get

/-- **A put** goes to the holder of its unit, whether the target is a server, a worker, or outside
the run. -/
theorem holder_addressed (proper : c.topology.Proper) (u : WorkUnit) :
    ∃ dest, c.holder u.target = .ok dest ∧ c.Addressed dest (.put u) := by
  have checked (r : Rank) := Topology.checkedIsServer_eq proper.fits r
  have homes := Topology.isServer_homeServer proper.fits proper.served
  cases named : u.target with
  | none =>
    refine ⟨_, homeServer_eq proper, addressed_put (homes c.rank) ?_⟩
    intro target named'
    cases named.symm.trans named'
  | some r =>
    cases server : c.topology.isServer r with
    | true =>
      refine ⟨r, ?_, addressed_put server ?_⟩
      · simp [holder, checked, server, bind, Except.bind, pure, Except.pure]
      · intro target named' inside
        cases named.symm.trans named'
        exact (if_pos server).symm
    | false =>
      have other : ¬ c.topology.isServer r = true := Bool.eq_false_iff.1 server
      cases worker : c.topology.isWorker r with
      | true =>
        refine ⟨c.topology.homeServer r, ?_, addressed_put (homes r) ?_⟩
        · simp [holder, checked, server, worker, bind, Except.bind,
            Topology.checkedHomeServer_eq proper.fits proper.served]
        · intro target named' inside
          cases named.symm.trans named'
          exact (if_neg other).symm
      | false =>
        refine ⟨c.topology.homeServer c.rank, ?_, addressed_put (homes c.rank) ?_⟩
        · simp [holder, checked, server, worker, bind, Except.bind, homeServer_eq proper]
        · intro target named' inside
          cases named.symm.trans named'
          cases worker.symm.trans (Topology.isWorker_of_contains inside server)

/-- The client asks the owner of the datum that the server takes for the subject. -/
theorem keeper_of_subject (about : op.subject? = some id) :
    c.keeper op = c.topology.checkedOwner id := by
  cases op with
  | create spec =>
    rw [Operation.subject?] at about
    split at about
    · cases about
    · rename_i named
      cases about
      exact if_neg named
  | unique => cases about
  | _ =>
    cases about
    rfl

/-- The client asks its home where the server takes nothing for the subject. -/
theorem keeper_of_fresh (fresh : op.subject? = none) : c.keeper op = c.homeServer := by
  rcases Operation.subject?_eq_none_iff.1 fresh with rfl | ⟨spec, rfl, null⟩
  · rfl
  · exact if_pos null

/-- **An operation on data** goes to the owner of its subject. -/
theorem keeper_addressed (proper : c.topology.Proper) (op : Operation) :
    ∃ dest, c.keeper op = .ok dest ∧ c.Addressed dest (.data op) := by
  cases about : op.subject? with
  | none =>
    refine ⟨_, ?_, addressed_home proper about fun u put => nomatch put⟩
    rw [keeper_of_fresh about]
    exact homeServer_eq proper
  | some id =>
    refine ⟨c.topology.owner id, ?_, proper.isServer_owner id, ?_, ?_, ?_, ?_⟩
    · rw [keeper_of_subject about]
      exact proper.checkedOwner_eq id
    · intro id' about'
      cases about.symm.trans about'
      rfl
    · rintro _ ⟨⟩ fresh
      cases about.symm.trans fresh
    · rintro u target ⟨⟩
    · rintro type ⟨⟩

/-- A client fails to stamp an operation only if its tokens have run out. -/
theorem stamp_error {op : Operation} {fault : Fault} (h : c.stamp op = .error fault) :
    Checked.add c.lastToken 1 = .error fault := by
  cases op with
  | subscribe | refer =>
    cases next : Checked.add c.lastToken 1 with
    | ok token => simp [stamp, next, bind, Except.bind, pure, Except.pure] at h
    | error e =>
      simp only [stamp, next, bind, Except.bind] at h
      exact congrArg _ (Except.error.inj h)
  | _ => cases h

theorem stamp_same {op op' : Operation} (h : c.stamp op = .ok (c', op')) :
    c'.topology = c.topology ∧ c'.rank = c.rank := by
  cases op with
  | subscribe | refer =>
    obtain ⟨token, -, h⟩ := bind_eq_ok h
    cases h
    exact ⟨rfl, rfl⟩
  | _ =>
    cases h
    exact ⟨rfl, rfl⟩

/-- **What every call asks for** goes where it should. -/
theorem opening_addressed (proper : c.topology.Proper)
    (h : c.opening call = .ok (c', .asks dest body)) : c.Addressed dest body := by
  have home := homeServer_eq proper
  cases call with
  | rank | topology | version | barrier | abort => cases h
  | home =>
    obtain ⟨r, -, h⟩ := bind_eq_ok h
    cases h
  | put payload type priority target =>
    obtain ⟨r, hr, h⟩ := bind_eq_ok h
    cases h
    obtain ⟨dest, leads, addressed⟩ :=
      holder_addressed proper ⟨payload, target, c.rank, type, priority⟩
    cases leads.symm.trans hr
    exact addressed
  | putUnit unit =>
    obtain ⟨r, hr, h⟩ := bind_eq_ok h
    cases h
    obtain ⟨dest, leads, addressed⟩ := holder_addressed proper unit
    cases leads.symm.trans hr
    exact addressed
  | get | drain | nextNotice | serverShutdown | finalize =>
    obtain ⟨r, hr, h⟩ := bind_eq_ok h
    cases h
    cases home.symm.trans hr
    exact addressed_home proper rfl fun u put => nomatch put
  | data op =>
    obtain ⟨⟨c₁, op₁⟩, stamped, h⟩ := bind_eq_ok h
    obtain ⟨r, hr, h⟩ := bind_eq_ok h
    cases h
    obtain ⟨topology, rank⟩ := stamp_same stamped
    rw [← topology] at proper
    obtain ⟨dest, leads, addressed⟩ := keeper_addressed proper op₁
    cases leads.symm.trans hr
    exact addressed.congr topology.symm rank.symm
  | retrieveBytes id =>
    obtain ⟨r, hr, h⟩ := bind_eq_ok h
    cases h
    obtain ⟨dest, leads, addressed⟩ := keeper_addressed proper (.retrieve id false)
    cases leads.symm.trans hr
    exact addressed
  | serverIdle server =>
    obtain ⟨isServer, told, h⟩ := bind_eq_ok h
    cases (Topology.checkedIsServer_eq proper.fits server).symm.trans told
    split at h
    · rename_i known
      cases h
      exact ⟨known, fun id about => (nomatch about), fun op data => (nomatch data),
        fun u target put => (nomatch put), fun type get => (nomatch get)⟩
    · cases h

/-- **No call fails for want of a way**: only the tokens of a client can run out. -/
theorem opening_error (proper : c.topology.Proper) {fault : Fault}
    (h : c.opening call = .error fault) : Checked.add c.lastToken 1 = .error fault := by
  have home := homeServer_eq proper
  cases call with
  | rank | topology | version | barrier | abort => cases h
  | home | get | drain | nextNotice | serverShutdown | finalize =>
    simp [opening, home, bind, Except.bind, pure, Except.pure] at h
  | put payload type priority target =>
    obtain ⟨dest, leads, -⟩ := holder_addressed proper ⟨payload, target, c.rank, type, priority⟩
    simp only at leads
    simp [opening, leads, bind, Except.bind, pure, Except.pure] at h
  | putUnit unit =>
    obtain ⟨dest, leads, -⟩ := holder_addressed proper unit
    simp [opening, leads, bind, Except.bind, pure, Except.pure] at h
  | data op =>
    cases stamped : c.stamp op with
    | error e =>
      simp only [opening, stamped, bind, Except.bind] at h
      cases h
      exact stamp_error stamped
    | ok pair =>
      obtain ⟨topology, -⟩ := stamp_same stamped
      rw [← topology] at proper
      obtain ⟨dest, leads, -⟩ := keeper_addressed proper pair.2
      simp [opening, stamped, leads, bind, Except.bind, pure, Except.pure] at h
  | retrieveBytes id =>
    simp [opening, proper.checkedOwner_eq, bind, Except.bind, pure, Except.pure] at h
  | serverIdle server =>
    simp only [opening, Topology.checkedIsServer_eq proper.fits, bind, Except.bind] at h
    split at h <;> cases h

end Client

namespace Server

variable {settings : Settings} {r dest : Rank} {s s' : Server} {u : WorkUnit}

/-! ## What a request finds -/

/-- **The check of a server** lets through what is about data of its own. -/
theorem Stationed.wrongOwner?_eq_none_iff (h : Stationed settings r s) {body : Request}
    {id : DatumId} (about : body.subject? = some id) :
    s.wrongOwner? body = none ↔ r = settings.topology.owner id := by
  rw [wrongOwner?, about, h.topology, h.rank]
  simp only
  split
  · rename_i own
    exact iff_of_true rfl own.symm
  · rename_i other
    exact iff_of_false (Option.some_ne_none _) fun own => other own.symm

/-- Whoever is asked about a datum owns it. -/
theorem Stationed.owns (h : Stationed settings dest s) {c : Client} {body : Request}
    (topology : c.topology = settings.topology) (addressed : c.Addressed dest body) :
    s.wrongOwner? body = none := by
  cases about : body.subject? with
  | none => simp [wrongOwner?, about]
  | some id => exact (h.wrongOwner?_eq_none_iff about).2 (topology ▸ addressed.owner id about)

/-- Whoever is sent a unit that names a rank of the run must hold it. -/
theorem Stationed.holder_of_addressed (h : Stationed settings dest s) {c : Client}
    (topology : c.topology = settings.topology) (addressed : c.Addressed dest (.put u))
    {target : Rank} (named : u.target = some target)
    (inside : settings.topology.contains target = true) : s.holder target = dest := by
  rw [← topology] at inside
  rw [h.holder_eq, ← topology]
  exact (addressed.holder u target rfl named inside).symm

/-- What a server passes on goes to another server, and there it is passed on no more. -/
theorem Stationed.forwards_once (h : Stationed settings r s) (proper : settings.topology.Proper)
    {input : Input} {flow : Flow} (hstep : s.step input = .ok (s', flow))
    (sent : (dest, u) ∈ forwardsIn (s.said s')) :
    settings.topology.isServer dest = true ∧ dest ≠ r ∧
      ∀ s₁, LivesAt settings dest s₁ → s₁.holds u = true := by
  obtain ⟨-, leads, away⟩ := step_forwards hstep _ sent
  obtain ⟨target, named, leads⟩ := Option.map_eq_some_iff.1 leads
  rw [h.holder_eq] at leads
  simp only at named leads away
  refine ⟨?_, ?_, ?_⟩
  · rw [← leads]
    split
    · assumption
    · exact Topology.isServer_homeServer proper.fits proper.served target
  · rw [← h.rank]
    exact away
  · intro s₁ lives
    have there := lives.stationed
    rw [holds_of_target named, there.holder_eq, leads, there.rank, beq_self_eq_true]

end Server

/-- **All ways agree.** In a run whose numbers of ranks and of servers fit their words, whatever
messages and ticks its servers have handled,

* there is a server for each rank of a server; every worker is in the table of exactly one of them,
  its home; and every id has a server as its owner;
* no call of a client fails for want of a way. Whatever a client asks for, it asks a server: the
  owner of the datum that is asked about, or its home for a fresh id. That server finds nothing
  wrong with it; it has the client in its table if it is asked for work; and it must hold the unit
  that is put, if that names a rank of the run. No put is passed on;
* a server finds something wrong with what is about data of other owners, and only with that;
* what a server passes on, it passes on to another server, and that one passes it on no more; what
  it hands out goes to workers whose home it is, and a unit for a worker goes to that worker;
* a unit for a worker is placed at the worker's home, and sent there from everywhere else. The units
  that a server keeps for a rank, and the requests that it has parked, are of ranks whose home it
  is. -/
theorem routes_agree (settings : Settings) (proper : settings.topology.Proper) :
    (∀ r, (∃ s, Server.LivesAt settings r s) ↔ settings.topology.isServer r = true) ∧
    (∀ w, settings.topology.isWorker w = true →
      settings.topology.isServer (settings.topology.homeServer w) = true ∧
      ∀ r s, Server.LivesAt settings r s →
        (s.workers.contains w = true ↔ r = settings.topology.homeServer w)) ∧
    (∀ id, settings.topology.checkedOwner id = .ok (settings.topology.owner id) ∧
      settings.topology.isServer (settings.topology.owner id) = true) ∧
    (∀ (c : Client) (call : Call), c.topology = settings.topology →
      (∀ fault, c.opening call = .error fault → Checked.add c.lastToken 1 = .error fault) ∧
      ∀ c' dest body, c.opening call = .ok (c', .asks dest body) →
        settings.topology.isServer dest = true ∧
        (∀ id, body.subject? = some id → dest = settings.topology.owner id) ∧
        (∀ op, body = .data op → op.subject? = none →
          (op = .unique ∨ ∃ spec, op = .create spec ∧ spec.id = nullId) ∧
          dest = settings.topology.homeServer c.rank) ∧
        ∀ s, Server.LivesAt settings dest s →
          s.wrongOwner? body = none ∧
          (∀ type, body = .get type → settings.topology.isWorker c.rank = true →
            s.workers.contains c.rank = true) ∧
          ∀ u, body = .put u →
            (∀ target, u.target = some target → settings.topology.contains target = true →
              s.holder target = dest) ∧
            ∀ source tag s' flow,
              s.step (.message source (.request tag (.put u))) = .ok (s', flow) →
                forwardsIn (s.said s') = []) ∧
    ∀ r s, Server.LivesAt settings r s →
      (∀ body id, body.subject? = some id →
        (s.wrongOwner? body = none ↔ r = settings.topology.owner id)) ∧
      (∀ input s' flow, s.step input = .ok (s', flow) →
        (∀ dest u, (dest, u) ∈ forwardsIn (s.said s') →
          settings.topology.isServer dest = true ∧ dest ≠ r ∧
          ∀ s₁, Server.LivesAt settings dest s₁ → ∀ source s₁' flow₁,
            s₁.step (.message source (.forwardPut u)) = .ok (s₁', flow₁) →
              forwardsIn (s₁.said s₁') = []) ∧
        ∀ h ∈ handsIn (s.said s'), settings.topology.isWorker h.rank = true ∧
          r = settings.topology.homeServer h.rank ∧
          (h.unit.target = none ∨ h.unit.target = some h.rank)) ∧
      (∀ w u, settings.topology.isWorker w = true → u.target = some w →
        (r = settings.topology.homeServer w → s.submit u = s.place u) ∧
        (r ≠ settings.topology.homeServer w → (s.submit u).1.outbox =
          s.outbox ++ [(settings.topology.homeServer w, .forwardPut u)])) ∧
      (∀ u ∈ s.backlog.units, ∀ target, u.target = some target →
        settings.topology.isServer target = false ∧
        r = settings.topology.homeServer target) ∧
      ∀ p ∈ s.waiting.all, settings.topology.isWorker p.rank = true ∧
        r = settings.topology.homeServer p.rank := by
  have homes := Topology.isServer_homeServer proper.fits proper.served
  refine ⟨fun r => Server.exists_livesAt_iff proper.fits, ?_, ?_, ?_, ?_⟩
  · intro w worker
    exact ⟨homes w, fun r s lives => lives.stationed.contains_worker_iff worker⟩
  · intro id
    exact ⟨proper.checkedOwner_eq id, proper.isServer_owner id⟩
  · intro c call topology
    have properHere := proper
    rw [← topology] at properHere
    refine ⟨fun fault failed => Client.opening_error properHere failed, ?_⟩
    intro c' dest body asks
    have addressed := Client.opening_addressed properHere asks
    refine ⟨topology ▸ addressed.server, topology ▸ addressed.owner, ?_, ?_⟩
    · intro op data fresh
      exact ⟨Operation.subject?_eq_none_iff.1 fresh, topology ▸ addressed.fresh op data fresh⟩
    intro s lives
    have there := lives.stationed
    refine ⟨there.owns topology addressed, ?_, ?_⟩
    · intro type get worker
      rw [there.contains_worker_iff worker, ← topology]
      exact addressed.home type get
    · rintro u rfl
      refine ⟨fun target named inside => there.holder_of_addressed topology addressed named inside,
        ?_⟩
      intro source tag s' flow hstep
      refine Server.forwardsIn_said_put hstep ?_
      intro target named inside
      rw [there.topology] at inside
      rw [there.rank]
      exact there.holder_of_addressed topology addressed named inside
  · intro r s lives
    have there := lives.stationed
    have attached {w : Rank} (known : s.workers.contains w = true) :
        settings.topology.isWorker w = true ∧ r = settings.topology.homeServer w :=
      Topology.mem_attached_iff.1 ((there.serving.workers w).1 known)
    refine ⟨fun body id about => there.wrongOwner?_eq_none_iff about, ?_, ?_, ?_, ?_⟩
    · intro input s' flow hstep
      constructor
      · intro dest u sent
        obtain ⟨server, away, held⟩ := there.forwards_once proper hstep sent
        refine ⟨server, away, ?_⟩
        intro s₁ lives₁ source s₁' flow₁ hstep₁
        exact Server.forwardsIn_said_of_holds hstep₁ rfl (held s₁ lives₁)
      · obtain ⟨new, hnew, -, handed⟩ := there.serving.tidy.step_hands hstep
        rw [Server.said_eq hnew]
        intro h hh
        obtain ⟨known, meant⟩ := handed h hh
        exact ⟨(attached known).1, (attached known).2, meant⟩
    · intro w u worker named
      exact there.submit_worker worker named
    · intro u hu target named
      obtain ⟨other, home⟩ := there.homed u hu target named
      rw [there.topology] at other home
      exact ⟨other, there.rank.symm.trans home.symm⟩
    · intro p hp
      exact attached (there.serving.tidy.attached p (Multiset.mem_coe.2 hp))

/-- A unit for a worker is put at a server that is not the worker's home; and a client asks the
owner of a datum with a negative id. -/
theorem routes_agree_astray : ∃ s s' flow c' dest,
    Server.LivesAt { servers := 2, workers := 3, workTypes := [0] } 3 s ∧
    s.step (.message 0 (.request 0 (.put ⟨[7], some 1, 0, 0, 0⟩))) = .ok (s', flow) ∧
    forwardsIn (s.said s') = [(4, ⟨[7], some 1, 0, 0, 0⟩)] ∧
    (∃ s₁, Server.LivesAt { servers := 2, workers := 3, workTypes := [0] } 4 s₁) ∧
    (∀ s₁, Server.LivesAt { servers := 2, workers := 3, workTypes := [0] } 4 s₁ →
      s₁.workers.contains 1 = true ∧ ∀ source s₁' flow₁,
        s₁.step (.message source (.forwardPut ⟨[7], some 1, 0, 0, 0⟩)) = .ok (s₁', flow₁) →
          forwardsIn (s₁.said s₁') = []) ∧
    (Client.new 0 { servers := 2, workers := 3 }).opening (.data (.lock (-3))) =
      .ok (c', .asks dest (.data (.lock (-3)))) ∧
    dest = Topology.owner ⟨3, 2⟩ (-3) := by
  have fits : Topology.size ⟨3, 2⟩ < Checked.wordSize := by decide
  obtain ⟨servers, workers, -, clients, runs⟩ := routes_agree
    { servers := 2, workers := 3, workTypes := [0] } ⟨fits, by decide, by decide⟩
  obtain ⟨s, hnew⟩ : ∃ s, Server.new 3 { servers := 2, workers := 3, workTypes := [0] } =
    .ok (.ok s) := ⟨_, rfl⟩
  have ran : (do
      let made ← Server.new 3 { servers := 2, workers := 3, workTypes := [0] }
      let s ← made.mapError fun _ => Fault.addOverflow
      let r ← s.step (.message 0 (.request 0 (.put ⟨[7], some 1, 0, 0, 0⟩)))
      return forwardsIn (s.said r.1)) = .ok [(4, ⟨[7], some 1, 0, 0, 0⟩)] := by decide +kernel
  rw [hnew] at ran
  obtain ⟨_, ⟨⟩, ran⟩ := bind_eq_ok ran
  obtain ⟨_, ⟨⟩, ran⟩ := bind_eq_ok ran
  obtain ⟨⟨s', flow⟩, hstep, ran⟩ := bind_eq_ok ran
  have sent : forwardsIn (s.said s') = [(4, ⟨[7], some 1, 0, 0, 0⟩)] := Except.ok.inj ran
  have lives : Server.LivesAt { servers := 2, workers := 3, workTypes := [0] } 3 s :=
    ⟨s, [], {}, hnew, rfl⟩
  obtain ⟨passes, -⟩ := (runs 3 s lives).2.1 _ s' flow hstep
  obtain ⟨server, -, once⟩ := passes 4 ⟨[7], some 1, 0, 0, 0⟩ (sent ▸ List.mem_cons_self)
  obtain ⟨c', dest, asks⟩ : ∃ c' dest,
      (Client.new 0 { servers := 2, workers := 3 }).opening (.data (.lock (-3))) =
        .ok (c', .asks dest (.data (.lock (-3)))) := ⟨_, _, rfl⟩
  obtain ⟨-, owner, -⟩ := (clients _ (.data (.lock (-3))) rfl).2 c' dest _ asks
  refine ⟨s, s', flow, c', dest, lives, hstep, sent, (servers 4).2 server, ?_, asks,
    owner (-3) rfl⟩
  intro s₁ lives₁
  exact ⟨((workers 1 (by decide)).2 4 s₁ lives₁).2 (by decide), once s₁ lives₁⟩

end WorkPool
