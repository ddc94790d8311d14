import WorkPool.Proofs.Server.Units
import WorkPool.Proofs.World.Balance

/-!
# Conservation: where the units of a run are

A `Ledger` is kept along a run: which units were accepted with a put or made of notices, which
were handed to workers, and which were lost. As long as no server shuts down, every unit that
came in is in exactly one place, or lost: it is queued at one server, or in flight between two, or
was handed to one worker (`World.units_conserved`).

A run loses units exactly if a server that has no room, and no request to meet, is sent a unit by
another server or makes one of a notice: see `Server.spills`.
-/

namespace WorkPool

/-- What became of the units of a run. -/
structure Ledger where
  /-- puts that were acknowledged -/
  accepted : List WorkUnit := []
  /-- made of notices -/
  noticed : List WorkUnit := []
  /-- handed to workers -/
  delivered : List WorkUnit := []
  /-- lost for want of room -/
  lost : List WorkUnit := []

namespace Ledger

instance : Append Ledger where
  append a b := ⟨a.accepted ++ b.accepted, a.noticed ++ b.noticed, a.delivered ++ b.delivered,
    a.lost ++ b.lost⟩

theorem append_empty (log : Ledger) : log ++ ({} : Ledger) = log := by
  show mk (log.accepted ++ []) (log.noticed ++ []) (log.delivered ++ []) (log.lost ++ []) = log
  simp only [List.append_nil]

theorem append_assoc (a b c : Ledger) : a ++ b ++ c = a ++ (b ++ c) := by
  show mk (a.accepted ++ b.accepted ++ c.accepted) (a.noticed ++ b.noticed ++ c.noticed)
    (a.delivered ++ b.delivered ++ c.delivered) (a.lost ++ b.lost ++ c.lost) =
    mk (a.accepted ++ (b.accepted ++ c.accepted)) (a.noticed ++ (b.noticed ++ c.noticed))
    (a.delivered ++ (b.delivered ++ c.delivered)) (a.lost ++ (b.lost ++ c.lost))
  simp only [List.append_assoc]

/-- The units that came in. -/
def incoming (t : Topology) (log : Ledger) : Multiset WorkUnit :=
  bag t (log.accepted ++ log.noticed)

end Ledger

/-- What a server adds to the ledger when it handles a message. -/
def Server.entries (s : Server) (source : Rank) (m : Message) (s' : Server) : Ledger where
  accepted := accepted source m s'.outbox
  noticed := s.noticed source m
  delivered := workIn s'.outbox
  lost := s.lost source m

/-- **A server between two steps** accounts for what was queued, what the message carried, and
what came in with it. -/
theorem Server.InService.accounts {t : Topology} {settings : Settings} {r source : Rank}
    {m : Message} {s s' : Server} (hs : s.InService t settings r)
    (hs' : ({ s' with outbox := [] } : Server).InService t settings r)
    (h : (s.countArrival source m).dispatch source m = .ok s') :
    bag t s.backlog.units + (bag t m.carried +
        (bag t (accepted source m s'.outbox) +
          bag t ((s.countArrival source m).noticed source m))) =
      bag t s'.backlog.units + bag t (carriedIn s'.outbox) + bag t (workIn s'.outbox) +
        bag t ((s.countArrival source m).lost source m) := by
  generalize counted : s.countArrival source m = c at h ⊢
  rw [countArrival_eq] at counted
  have outbox : c.outbox = [] := by rw [← counted]; exact hs.outbox
  have topology : c.topology = t := by rw [← counted]; exact hs.topology
  have units : c.backlog.units = s.backlog.units := by rw [← counted]
  have serves : c.phase = .running := by rw [← counted]; exact hs.running
  have accounts := dispatch_accounts outbox serves h hs'.running
  rwa [topology, units] at accounts

namespace World

variable {w w' w₀ : World} {settings : Settings} {log : Ledger}

/-- What an action adds to the ledger. Units come in and go only where a server handles a
message. -/
def entries (w : World) : Action → Ledger
  | .deliver source dest =>
    match oldest? source dest w.flight with
    | none => {}
    | some (m, _) =>
      let s := (w.servers dest).countArrival source m
      match s.dispatch source m with
      | .error _ => {}
      | .ok s' => s.entries source m s'
  | _ => {}

/-- The ledger of a run. -/
def ledger : World → List Action → Ledger
  | _, [] => {}
  | w, a :: actions =>
    match w.act a with
    | none => {}
    | some w' => w.entries a ++ w'.ledger actions

/-- The units in the queues of the servers. -/
def queued (w : World) : Multiset WorkUnit := w.total fun s => bag w.topology s.backlog.units

/-- The units between two servers. -/
def travelling (w : World) : Multiset WorkUnit :=
  bag w.topology (w.flight.flatMap fun e => e.message.carried)

/-- The units in all places: queued at a server, between two, or handed to a worker. -/
def placed (w : World) (log : Ledger) : Multiset WorkUnit :=
  w.queued + w.travelling + bag w.topology log.delivered

/-- Every unit that came in is in one place, or lost. -/
def Conserved (w : World) (log : Ledger) : Prop :=
  log.incoming w.topology = w.placed log + bag w.topology log.lost

theorem Start.queued (h : Start settings w) : w.queued = 0 := by
  refine List.sum_eq_zero fun units hunits => ?_
  obtain ⟨r, hr, rfl⟩ := List.mem_map.1 hunits
  rw [h.server ((Topology.mem_serverRanks h.fits).1 hr)]
  rfl

theorem Start.conserved (h : Start settings w) : w.Conserved {} := by
  rw [Conserved, placed, h.queued, travelling, h.flight]
  rfl

/-! ## Steps that move no unit -/

theorem Conserved.congr (h : w.Conserved log) (topology : w'.topology = w.topology)
    (queued : w'.queued = w.queued) (travelling : w'.travelling = w.travelling) :
    w'.Conserved log := by
  rw [Conserved, placed, topology, queued, travelling]
  exact h

theorem Conserved.take (h : w.Conserved log) {e : Envelope} {rest : List Envelope}
    (taken : w.flight.Perm (e :: rest)) (empty : e.message.carried = []) :
    ({ w with flight := rest } : World).Conserved log := by
  have taken := bag_perm w.topology (taken.flatMap_right fun e => e.message.carried)
  rw [List.flatMap_cons, empty] at taken
  exact h.congr rfl rfl taken.symm

theorem Conserved.send (h : w.Conserved log) {new : List Envelope}
    (empty : ∀ e ∈ new, e.message.carried = []) : (w.send new).Conserved log := by
  refine h.congr rfl rfl ?_
  have none : new.flatMap (fun e => e.message.carried) = [] := List.flatMap_eq_nil_iff.2 empty
  rw [travelling, World.send, List.flatMap_append, none, List.append_nil]
  rfl

theorem Conserved.setServer (h : w.Conserved log) (hw : w.InService settings) {r : Rank}
    (server : w.topology.isServer r = true) {s : Server}
    (backlog : s.backlog = (w.servers r).backlog) : (w.setServer r s).Conserved log := by
  have same := total_setServer hw.proper.fits server s fun s => bag w.topology s.backlog.units
  rw [backlog, add_left_inj] at same
  exact h.congr rfl same rfl

/-- A server takes a step in which it keeps its units and sends none. -/
theorem Conserved.served (h : w.Conserved log) (hw : w.InService settings) {r : Rank}
    (server : w.topology.isServer r = true) {s : Server}
    (backlog : s.backlog = (w.servers r).backlog)
    (empty : ∀ p ∈ s.outbox, p.2.carried = []) : (w.served r s).Conserved log := by
  refine (h.setServer (s := { s with outbox := [] }) hw server backlog).send fun e he => ?_
  exact empty _ (mem_post he).2

/-! ## A message is handled -/

/-- **A server handles a message**: what it did with units is in the ledger. -/
theorem Conserved.deliver (h : w.Conserved log) (hw : w.InService settings) {source dest : Rank}
    {m : Message} {rest : List Envelope} {s : Server}
    (server : w.topology.isServer dest = true)
    (taken : w.flight.Perm (⟨source, dest, m⟩ :: rest))
    (dispatched : ((w.servers dest).countArrival source m).dispatch source m = .ok s)
    (hs : ({ s with outbox := [] } : Server).InService w.topology settings dest) :
    ({ w with flight := rest }.served dest s).Conserved
      (log ++ ((w.servers dest).countArrival source m).entries source m s) := by
  have accounts := (hw.servers dest server).accounts hs dispatched
  have queues := total_setServer hw.proper.fits server { s with outbox := [] }
    fun s => bag w.topology s.backlog.units
  have arrived := bag_perm w.topology (taken.flatMap_right fun e => e.message.carried)
  rw [List.flatMap_cons, bag_append] at arrived
  have posted : (post dest s.outbox).flatMap (fun e => e.message.carried) = carriedIn s.outbox := by
    rw [post, List.flatMap_map]
    rfl
  rw [Conserved, Ledger.incoming, placed, queued, travelling, bag_append] at h
  show bag w.topology ((log.accepted ++ Server.accepted source m s.outbox) ++
      (log.noticed ++ ((w.servers dest).countArrival source m).noticed source m)) =
    (w.setServer dest { s with outbox := [] }).total (fun s => bag w.topology s.backlog.units) +
      bag w.topology ((rest ++ post dest s.outbox).flatMap fun e => e.message.carried) +
      bag w.topology (log.delivered ++ workIn s.outbox) +
      bag w.topology (log.lost ++ ((w.servers dest).countArrival source m).lost source m)
  rw [List.flatMap_append, posted]
  -- the four equations add up, for each unit
  ext u
  have accounts := congrArg (Multiset.count u) accounts
  have queues := congrArg (Multiset.count u) queues
  have arrived := congrArg (Multiset.count u) arrived
  have before := congrArg (Multiset.count u) h
  simp only [bag_append, Multiset.count_add] at accounts queues arrived before ⊢
  omega

/-! ## Runs -/

/-- **Whatever happens**, the units are conserved, with its entries in the ledger. A worker is sent
no unit to hold. -/
theorem Happens.conserved {a : Action} (happens : Happens w a w') (hw : w.InService settings)
    (hw' : w'.InService settings)
    (running : (w'.servers w.topology.master).phase = .running) (h : w.Conserved log) :
    w'.Conserved (log ++ w.entries a) := by
  cases happens with
  | @deliver source dest m rest s flow server oldest handled =>
    obtain ⟨dispatched, -⟩ := Server.handle_eq_ok handled
    have hs := hw'.servers dest server
    rw [servers_served_self] at hs
    have step := h.deliver hw server (oldest?_perm oldest) dispatched hs
    simpa only [entries, oldest, dispatched] using step
  | @stealTick r server =>
    obtain ⟨peers, out, eq, kinds⟩ := Server.trySteal_eq (w.servers r)
    simp only [entries, Ledger.append_empty]
    rw [eq, (hw.servers r server).outbox]
    refine h.served hw server rfl fun p hp => ?_
    obtain ⟨wanted, load, kind⟩ := kinds p hp
    rw [kind]
    rfl
  | @idleTick r s flow server considered =>
    have outbox := (hw.servers r server).outbox
    simp only [entries, Ledger.append_empty]
    rcases Server.onIdleTick_cases considered with rfl | ⟨master, ended | ⟨-, -, opened⟩⟩
    · rw [served_quiet outbox, setServer_self]
      exact h
    · exact absurd ended (hw.not_over server master running)
    · obtain ⟨votes, round, stats, -, ⟨-, votes', verdict, -, rfl⟩ | ⟨-, rfl⟩⟩ := opened
      · rw [outbox]
        refine h.served hw server rfl fun p hp => ?_
        cases hp
      · rw [outbox]
        refine h.served hw server rfl fun p hp => ?_
        obtain ⟨x, -, rfl⟩ := List.mem_map.1 hp
        rfl
  | @ask worker dest tag body may free =>
    simp only [entries, Ledger.append_empty]
    refine Conserved.send (w := w.setWorker worker _) h fun e he => ?_
    rw [List.mem_singleton.1 he]
    rfl
  | @receive source worker m rest is oldest =>
    have taken := oldest?_perm oldest
    simp only [entries, Ledger.append_empty]
    by_cases empty : m.carried = []
    · exact h.take taken empty
    · have server := (hw.routed _ (taken.mem_iff.2 List.mem_cons_self)).isServer_dest empty
      rw [Topology.isServer_of_isWorker is] at server
      cases server

theorem Conserved.run (h : w.Conserved log) (hw : w.InService settings) {actions : List Action}
    (run : w.run actions = some w')
    (running : (w'.servers w'.topology.master).phase = .running) :
    w'.Conserved (log ++ w.ledger actions) := by
  induction actions generalizing w log with
  | nil =>
    cases run
    rw [ledger, Ledger.append_empty]
    exact h
  | cons a actions ih =>
    obtain ⟨w₁, hact, -, hw₁, running₁, run⟩ := hw.run_cons run running
    have step := (act_happens hact).conserved hw hw₁ running₁ h
    have kept := ih step hw₁ run
    rw [Ledger.append_assoc] at kept
    simpa only [ledger, hact] using kept

/-- **Units are conserved.** After any run from the start in which the master has not begun to
shut down, every unit that was accepted or made of a notice is in exactly one place or lost. So
none is missing exactly if none was lost. -/
theorem units_conserved (start : Start settings w₀) {actions : List Action}
    (run : w₀.run actions = some w)
    (running : (w.servers w.topology.master).phase = .running) :
    (w₀.ledger actions).incoming w.topology =
        w.placed (w₀.ledger actions) + bag w.topology (w₀.ledger actions).lost ∧
      ((w₀.ledger actions).incoming w.topology = w.placed (w₀.ledger actions) ↔
        (w₀.ledger actions).lost = []) := by
  have conserved : w.Conserved (w₀.ledger actions) := by
    rcases Nat.eq_zero_or_pos w₀.topology.servers.toNat with unserved | served
    · cases actions with
      | nil =>
        cases run
        exact start.conserved
      | cons a actions =>
        rw [World.run, act_of_unserved unserved start.flight] at run
        cases run
    · exact start.conserved.run (start.inService (start.proper served)) run running
  refine ⟨conserved, ?_⟩
  rw [conserved, add_eq_left, bag_eq_zero]

/-- One server with room for one unit, and two workers. -/
def crowded : Settings := { workers := 2, maxQueuedUnits := 1 }

/-- A worker subscribes to a datum of the other. The other fills the backlog, and then stores the
datum. -/
def crowdedActions : List Action :=
  [.ask 0 2 1 (.data (.create { id := 7, kind := .integer })), .deliver 0 2, .receive 2 0,
    .ask 1 2 1 (.data (.subscribe 7 none 1)), .deliver 1 2,
    .ask 0 2 2 (.put ⟨[9], none, 0, 1, 0⟩), .deliver 0 2, .receive 2 0,
    .ask 0 2 3 (.data (.store 7 (.integer 5) 1)), .deliver 0 2]

/-- The notice is lost. -/
theorem units_conserved_crowded : ∃ w, (initial crowded).run crowdedActions = some w ∧
    (w.servers w.topology.master).phase = .running ∧
    ((initial crowded).ledger crowdedActions).incoming w.topology ≠
      w.placed ((initial crowded).ledger crowdedActions) := by
  have serves : (((initial crowded).run crowdedActions).map fun w =>
      (w.servers w.topology.master).phase) = some .running := by decide +kernel
  have lost : ((initial crowded).ledger crowdedActions).lost ≠ [] := by decide +kernel
  obtain ⟨w, run, running⟩ := Option.map_eq_some_iff.1 serves
  refine ⟨w, run, running, fun whole => lost ?_⟩
  exact (units_conserved (start_initial rfl rfl) run running).2.1 whole

end World

end WorkPool
