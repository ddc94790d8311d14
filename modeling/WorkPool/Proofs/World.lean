import WorkPool.Mailboxes
import WorkPool.Proofs.Result
import WorkPool.Proofs.Topology
import WorkPool.Server

/-!
# Worlds: all runs of a set of servers and workers

A `World` is a run at one moment: the servers, what each worker is about, and the messages in
flight, in the order in which they were sent. An `Action` is anything that can happen next,
and every order of actions is a run:

* the oldest message from one rank to another is delivered (so a pair of ranks has a queue
  that loses nothing and keeps its order), or a tick comes;
* a worker that is free asks a server for something and waits; it asks for work, and for
  leave, at its home server only, and asks for nothing after that;
* a worker takes up a message. The answer to what it asked for, by its tag, sets it free;
  everything else is dropped.

A step that faults ends the server it arises in, which then takes no more part: in a world,
that step is no action at all. A server that has left, or is slow, is one that no action is
chosen for.
-/

namespace WorkPool

/-- A message on its way. -/
structure Envelope where
  /-- who sent it -/
  source : Rank
  /-- who it is for -/
  dest : Rank
  /-- what it says -/
  message : Message
  deriving DecidableEq

/-- What a worker is about. -/
inductive Occupation where
  /-- it may ask for something -/
  | free
  /-- it waits for the answer with a tag -/
  | waiting (tag : UInt64)
  /-- it has asked for leave and waits for the answer -/
  | leaving (tag : UInt64)
  /-- it has left -/
  | gone
  deriving DecidableEq

/-- What a message means to a worker. -/
def Occupation.receive : Occupation → Message → Occupation
  | .waiting tag, .response tag' _ => if tag' = tag then .free else .waiting tag
  | .leaving tag, .response tag' _ => if tag' = tag then .gone else .leaving tag
  | o, _ => o

/-- A run at one moment. -/
structure World where
  /-- the ranks of the run -/
  topology : Topology
  /-- the servers, by rank -/
  servers : Rank → Server
  /-- the workers, by rank -/
  workers : Rank → Occupation
  /-- the messages in flight, oldest first -/
  flight : List Envelope

/-- What can happen in a world. -/
inductive Action where
  /-- a server receives the oldest message from a rank -/
  | deliver (source dest : Rank)
  /-- it is time for a server to look for work -/
  | stealTick (server : Rank)
  /-- it is time for a server to consider a vote -/
  | idleTick (server : Rank)
  /-- a worker asks a server for something -/
  | ask (worker dest : Rank) (tag : UInt64) (body : Request)
  /-- a worker receives the oldest message from a rank -/
  | receive (source worker : Rank)
  deriving DecidableEq

/-- The oldest message from one rank to another, and all others. -/
def oldest? (source dest : Rank) : List Envelope → Option (Message × List Envelope)
  | [] => none
  | e :: rest =>
    if e.source = source ∧ e.dest = dest then some (e.message, rest)
    else (oldest? source dest rest).map fun (m, rest) => (m, e :: rest)

/-- What a rank sends, put on its way. -/
def post (source : Rank) (out : List (Rank × Message)) : List Envelope :=
  out.map fun p => ⟨source, p.1, p.2⟩

/-- The ranks a worker may ask for something: work, and leave, only its home server. -/
def Topology.mayAsk (t : Topology) (worker dest : Rank) (body : Request) : Bool :=
  t.isWorker worker && t.isServer dest &&
    match body with
    | .get _ | .finalize => dest == t.homeServer worker
    | _ => true

theorem Topology.isWorker_of_mayAsk {t : Topology} {worker dest : Rank} {body : Request}
    (h : t.mayAsk worker dest body = true) : t.isWorker worker = true :=
  (Bool.and_eq_true_iff.1 (Bool.and_eq_true_iff.1 h).1).1

namespace World

variable (w : World)

/-- Replace a server. -/
def setServer (r : Rank) (s : Server) : World :=
  { w with servers := fun x => if x = r then s else w.servers x }

/-- Note what a worker is about. -/
def setWorker (r : Rank) (o : Occupation) : World :=
  { w with workers := fun x => if x = r then o else w.workers x }

/-- Put messages on their way. -/
def send (envelopes : List Envelope) : World := { w with flight := w.flight ++ envelopes }

/-- A server takes a step, and what it has to send is put on its way. -/
def serve (r : Rank) (input : Input) : Option World :=
  match (w.servers r).step input with
  | .error _ => none
  | .ok (s, _) => some ((w.setServer r s.takeOutbox.1).send (post r s.takeOutbox.2))

/-- What an action makes of a world; none if it cannot happen. -/
def act : Action → Option World
  | .deliver source dest =>
    if w.topology.isServer dest then
      (oldest? source dest w.flight).bind fun (m, rest) =>
        { w with flight := rest }.serve dest (.message source m)
    else none
  | .stealTick r => if w.topology.isServer r then w.serve r .stealTick else none
  | .idleTick r => if w.topology.isServer r then w.serve r .idleTick else none
  | .ask worker dest tag body =>
    if w.topology.mayAsk worker dest body ∧ w.workers worker = .free then
      some ((w.setWorker worker (if body = .finalize then .leaving tag else .waiting tag)).send
        [⟨worker, dest, .request tag body⟩])
    else none
  | .receive source worker =>
    if w.topology.isWorker worker then
      (oldest? source worker w.flight).map fun (m, rest) =>
        { w with flight := rest }.setWorker worker ((w.workers worker).receive m)
    else none

/-- What a list of actions makes of a world. -/
def run : World → List Action → Option World
  | w, [] => some w
  | w, a :: actions => (w.act a).bind fun w => w.run actions

/-- The start of a run: there are mailboxes for all ranks, every server is new, every worker is
free, and nothing is in flight. -/
structure Start (settings : Settings) (w : World) : Prop where
  topology : w.topology = settings.topology
  mailboxes : ∃ size boxes, settings.size = .ok size ∧ Mailboxes.new size = .ok boxes
  servers : ∀ r, w.topology.isServer r = true → Server.new r settings = .ok (.ok (w.servers r))
  workers : ∀ r, w.workers r = .free
  flight : w.flight = []

end World

namespace World

variable {w : World} {settings : Settings}

/-- Where there are mailboxes for all ranks, their number fits a word, and that of the servers a
signed one. -/
theorem fits_of_mailboxes {size : UInt64} {boxes : Mailboxes} (hsize : settings.size = .ok size)
    (hboxes : Mailboxes.new size = .ok boxes) :
    settings.topology.Fits ∧ settings.topology.servers.toNat < Checked.wordSize / 2 := by
  obtain ⟨_, room, -⟩ := bind_eq_ok hboxes
  have total := Checked.add_eq_ok hsize
  have bound : size.toNat * Mailboxes.boxBytes ≤ Checked.memorySize := by
    unfold Checked.room at room
    split at room
    · assumption
    · cases room
  unfold Topology.Fits Topology.size Settings.topology
  unfold Checked.memorySize Mailboxes.boxBytes Checked.wordSize at *
  rw [UInt64.size] at *
  simp only
  omega

theorem Start.fits (h : Start settings w) : w.topology.Fits := by
  obtain ⟨size, boxes, hsize, hboxes⟩ := h.mailboxes
  rw [h.topology]
  exact (fits_of_mailboxes hsize hboxes).1

theorem Start.proper (h : Start settings w) (served : 0 < w.topology.servers.toNat) :
    w.topology.Proper := by
  obtain ⟨size, boxes, hsize, hboxes⟩ := h.mailboxes
  refine ⟨h.fits, served, ?_⟩
  rw [h.topology]
  exact (fits_of_mailboxes hsize hboxes).2

/-- A run before anything has happened. -/
def initial (settings : Settings) : World where
  topology := settings.topology
  servers r := {
    rank := r, topology := settings.topology, settings
    shard := .new (settings.topology.serverIndex r) settings
    backlog := { capacity := settings.maxQueuedUnits.toNat }
    peers := .new r settings.topology.serverRanks
    votes := { servers := settings.topology.servers }
    workers := .ofList ((settings.topology.attached r).map fun x => (x, .busy))
    stats := { rank := r } }
  workers _ := .free
  flight := []

/-- Where there are mailboxes for all ranks, a run can start. -/
theorem start_initial {size : UInt64} {boxes : Mailboxes} (hsize : settings.size = .ok size)
    (hboxes : Mailboxes.new size = .ok boxes) : Start settings (initial settings) where
  topology := rfl
  mailboxes := ⟨size, boxes, hsize, hboxes⟩
  servers r server := by
    have server : settings.topology.isServer r = true := server
    rw [Server.new, Topology.checkedIsServer_eq (fits_of_mailboxes hsize hboxes).1, server]
    rfl
  workers _ := rfl
  flight := rfl

/-- The servers of a run that starts. -/
theorem Start.server (h : Start settings w) {r : Rank} (server : w.topology.isServer r = true) :
    w.servers r = (initial settings).servers r := by
  obtain ⟨size, boxes, hsize, hboxes⟩ := h.mailboxes
  have server' : (initial settings).topology.isServer r = true := by
    rw [h.topology] at server
    exact server
  have same := (start_initial hsize hboxes).servers r server'
  exact Except.ok.inj (Except.ok.inj ((h.servers r server).symm.trans same))

end World

/-! ## Delivery -/

/-- A message that is delivered was in flight, and everything else still is. -/
theorem oldest?_perm {source dest : Rank} {m : Message} {flight rest : List Envelope}
    (h : oldest? source dest flight = some (m, rest)) :
    flight.Perm (⟨source, dest, m⟩ :: rest) := by
  induction flight generalizing rest with
  | nil => cases h
  | cons e flight ih =>
    unfold oldest? at h
    split at h
    · rename_i pair
      cases h
      obtain ⟨s, d, m⟩ := e
      obtain ⟨rfl, rfl⟩ := pair
      exact .refl _
    · obtain ⟨⟨m', rest'⟩, h', e'⟩ := Option.map_eq_some_iff.1 h
      cases e'
      exact ((ih h').cons e).trans (.swap _ _ _)

namespace World

variable {w w' : World}

/-- A server has taken a step, and what it had to send is on its way. -/
def served (w : World) (r : Rank) (s : Server) : World :=
  (w.setServer r { s with outbox := [] }).send (post r s.outbox)

theorem serve_eq_some {r : Rank} {input : Input} (h : w.serve r input = some w') :
    ∃ s flow, (w.servers r).step input = .ok (s, flow) ∧ w' = w.served r s := by
  unfold serve at h
  split at h
  · cases h
  · rename_i s flow hstep
    cases h
    exact ⟨s, flow, hstep, rfl⟩

/-- Everything that can happen, with what it did. -/
inductive Happens (w : World) : Action → World → Prop where
  /-- a server handled a message -/
  | deliver {source dest : Rank} {m : Message} {rest : List Envelope} {s : Server} {flow : Flow}
    (server : w.topology.isServer dest = true)
    (oldest : oldest? source dest w.flight = some (m, rest))
    (handled : (w.servers dest).handle source m = .ok (s, flow)) :
    Happens w (.deliver source dest) ({ w with flight := rest }.served dest s)
  /-- a server looked for work -/
  | stealTick {r : Rank} (server : w.topology.isServer r = true) :
    Happens w (.stealTick r) (w.served r (w.servers r).trySteal)
  /-- a server considered a vote -/
  | idleTick {r : Rank} {s : Server} {flow : Flow} (server : w.topology.isServer r = true)
    (considered : (w.servers r).onIdleTick = .ok (s, flow)) :
    Happens w (.idleTick r) (w.served r s)
  /-- a worker asked for something -/
  | ask {worker dest : Rank} {tag : UInt64} {body : Request}
    (may : w.topology.mayAsk worker dest body = true) (free : w.workers worker = .free) :
    Happens w (.ask worker dest tag body)
      ((w.setWorker worker (if body = .finalize then .leaving tag else .waiting tag)).send
        [⟨worker, dest, .request tag body⟩])
  /-- a worker took up a message -/
  | receive {source worker : Rank} {m : Message} {rest : List Envelope}
    (is : w.topology.isWorker worker = true)
    (oldest : oldest? source worker w.flight = some (m, rest)) :
    Happens w (.receive source worker)
      ({ w with flight := rest }.setWorker worker ((w.workers worker).receive m))

theorem act_happens {a : Action} (h : w.act a = some w') : Happens w a w' := by
  cases a with
  | deliver source dest =>
    simp only [act] at h
    split at h
    · rename_i server
      obtain ⟨⟨m, rest⟩, oldest, h⟩ := Option.bind_eq_some_iff.1 h
      obtain ⟨s, flow, handled, rfl⟩ := serve_eq_some h
      exact .deliver server oldest handled
    · cases h
  | stealTick r =>
    simp only [act] at h
    split at h
    · rename_i server
      obtain ⟨s, flow, ticked, rfl⟩ := serve_eq_some h
      cases ticked
      exact .stealTick server
    · cases h
  | idleTick r =>
    simp only [act] at h
    split at h
    · rename_i server
      obtain ⟨s, flow, considered, rfl⟩ := serve_eq_some h
      exact .idleTick server considered
    · cases h
  | ask worker dest tag body =>
    simp only [act] at h
    split at h
    · rename_i may
      cases h
      exact .ask may.1 may.2
    · cases h
  | receive source worker =>
    simp only [act] at h
    split at h
    · rename_i worker
      obtain ⟨⟨m, rest⟩, oldest, e⟩ := Option.map_eq_some_iff.1 h
      cases e
      exact .receive worker oldest
    · cases h

/-- **A run keeps what its steps keep.** -/
theorem run_induction {P : World → Prop} (hstep : ∀ w a w', P w → Happens w a w' → P w')
    {actions : List Action} (start : P w) (h : w.run actions = some w') : P w' := by
  induction actions generalizing w with
  | nil => cases h; exact start
  | cons a actions ih =>
    obtain ⟨w₁, hact, h⟩ := Option.bind_eq_some_iff.1 h
    exact ih (hstep w a w₁ start (act_happens hact)) h

/-- The topology of a world does not change. -/
theorem Happens.topology {a : Action} (h : Happens w a w') : w'.topology = w.topology := by
  cases h <;> rfl

theorem run_topology {actions : List Action} (h : w.run actions = some w') :
    w'.topology = w.topology :=
  run_induction (P := fun w₁ => w₁.topology = w.topology)
    (fun _ _ _ same happens => happens.topology.trans same) rfl h

/-- Where there is no server, nothing ever happens. -/
theorem act_of_unserved (unserved : w.topology.servers.toNat = 0) (flight : w.flight = [])
    (a : Action) : w.act a = none := by
  have none (r : Rank) : w.topology.isServer r = false := by
    rw [← Bool.not_eq_true, Topology.isServer_iff, Topology.size]
    omega
  cases a with
  | deliver source dest => simp only [act, none dest, Bool.false_eq_true, if_false]
  | stealTick r => simp only [act, none r, Bool.false_eq_true, if_false]
  | idleTick r => simp only [act, none r, Bool.false_eq_true, if_false]
  | ask worker dest tag body =>
    refine if_neg fun may => ?_
    have dest := (Bool.and_eq_true_iff.1 (Bool.and_eq_true_iff.1 may.1).1).2
    cases (none _).symm.trans dest
  | receive source worker =>
    simp only [act, flight, oldest?, Option.map_none, ite_self]

end World

end WorkPool
