import Mathlib.Tactic.GCongr
import WorkPool.Proofs.Conservation
import WorkPool.Proofs.Server.Dispatch
import WorkPool.Proofs.World.History

/-!
# Delivery: where the units of a run end up

Units are queued, passed on, stolen and handed out, and a server takes a target off only if it names
the server itself. Along every run a record is kept of what came in (`World.intake`): what was put,
what others than servers sent to a server to hold, and what was made of notices. What is queued, in
flight between servers or handed out is never more than that (`Traced`), and that holds after a
shutdown as well, when units are dropped.

So whatever is handed to a worker came in, with the same target. Together with what one server does
(`Server.Tidy.step_hands`) that is `work_given_as_asked`: a unit that is put for a worker goes to
that worker or to nobody.
-/

namespace WorkPool

/-- The units that a message puts. -/
def Message.puts : Message → List WorkUnit
  | .request _ (.put u) => [u]
  | _ => []

theorem Message.brings_eq (m : Message) : m.brings = m.puts ++ m.carried := by
  cases m with
  | request tag body => cases body <;> rfl
  | _ => rfl

/-! ## One server -/

namespace Server

variable {input : Input} {s s' : Server} {flow : Flow}

/-- The units that come into a run with what a server takes up: what is put, what comes to it from
others than servers, and what it makes of notices. -/
def comesIn (s : Server) : Input → List WorkUnit
  | .message source m =>
    m.puts ++ (if s.topology.isServer source then [] else m.carried) ++
      (s.countArrival source m).made source m
  | .stealTick | .idleTick => []

/-- **What a server has after a step**, or has sent, it had before or took in. -/
theorem step_stock (outbox : s.outbox = []) (hstep : s.step input = .ok (s', flow)) :
    bag s.topology s'.backlog.units + bag s.topology (carriedIn s'.outbox) +
        bag s.topology (workIn s'.outbox) ≤
      bag s.topology s.backlog.units + bag s.topology (s.takesIn input) := by
  obtain ⟨refused, does⟩ := step_takes hstep
  have topology : (s.arrived input).topology = s.topology := by
    cases input with
    | message source m => exact topology_countArrival
    | stealTick | idleTick => rfl
  obtain ⟨backlog, same⟩ := arrived_eq s input
  have accounts := does.accounts (blurs_settled _)
  rw [Accounts, stock, stock, backlog, same, outbox, topology] at accounts
  have before : bag s.topology s.backlog.units + bag s.topology (s.takesIn input) =
      bag s.topology s'.backlog.units + bag s.topology (carriedIn s'.outbox) +
        bag s.topology (workIn s'.outbox) + bag s.topology refused := by
    simpa [bag, bagBy, carriedIn, workIn] using accounts
  rw [before]
  exact Multiset.le_add_right _ _

end Server

/-! ## What is on its way -/

/-- The units that some messages carry from servers. -/
def passing (t : Topology) (envelopes : List Envelope) : List WorkUnit :=
  envelopes.flatMap fun e => if t.isServer e.source then e.message.carried else []

/-- The units that servers hand out with some messages. -/
def deliveries (t : Topology) (envelopes : List Envelope) : List WorkUnit :=
  envelopes.filterMap fun e => if t.isServer e.source then e.message.work? else none

section Envelopes

variable (t : Topology)

@[simp] theorem passing_append (a b : List Envelope) :
    passing t (a ++ b) = passing t a ++ passing t b := List.flatMap_append

@[simp] theorem deliveries_append (a b : List Envelope) :
    deliveries t (a ++ b) = deliveries t a ++ deliveries t b := List.filterMap_append

theorem passing_post {r : Rank} (server : t.isServer r = true) (out : List (Rank × Message)) :
    passing t (post r out) = carriedIn out := by
  rw [passing, post, List.flatMap_map]
  simp only [server, if_true]
  rfl

theorem deliveries_post {r : Rank} (server : t.isServer r = true) (out : List (Rank × Message)) :
    deliveries t (post r out) = workIn out := by
  rw [deliveries, post, List.filterMap_map]
  simp only [Function.comp_def, server, if_true]
  rfl

/-- What is said by someone who is no server carries nothing from a server. -/
theorem passing_outside {e : Envelope} (outside : t.isServer e.source = false) :
    passing t [e] = [] ∧ deliveries t [e] = [] := by
  simp [passing, deliveries, outside]

/-- What a server takes in comes into the run, or was on its way from another server. -/
theorem bag_takesIn (s : Server) (r : Rank) (input : Input) :
    bag t (s.takesIn input) =
      bag t (s.comesIn input) + bag t (passing s.topology (input.envelopes r)) := by
  cases input with
  | message source m =>
    have carried : bag t m.carried = bag t (if s.topology.isServer source then [] else m.carried) +
        bag t (passing s.topology [⟨source, r, m⟩]) := by
      by_cases server : s.topology.isServer source = true
      · simp [passing, server]
      · simp [passing, server]
    simp only [Server.takesIn, Server.comesIn, Input.envelopes, Message.brings_eq, bag_append,
      carried]
    abel
  | stealTick | idleTick => rfl

end Envelopes

namespace World

variable {w w' w₀ : World} {settings : Settings} {sent new : List Envelope} {came : List WorkUnit}
  {step : Option (Rank × Input)}

/-! ## All runs -/

/-- The units that come into a run when a server takes a step. -/
def comesIn (w : World) : Option (Rank × Input) → List WorkUnit
  | some (r, input) => (w.servers r).comesIn input
  | none => []

/-- The units that come in in the course of some moves. -/
def intake : World → List Move → List WorkUnit
  | _, [] => []
  | w, next :: ms =>
    match w.move next with
    | none => []
    | some w' => w.comesIn (w.stepOf next) ++ w'.intake ms

/-- The units that are queued, on their way or delivered came in, and whoever is handed a unit may
receive it. -/
structure Traced (w : World) (sent : List Envelope) (came : List WorkUnit) : Prop
    extends Recorded w sent where
  serving : ∀ r, w.topology.isServer r = true → (w.servers r).Serving (w.topology.attached r)
  meant : ∀ e ∈ sent, w.topology.isServer e.source = true →
    ∀ d, e.message.hands? e.dest = some d → d.rank ∈ w.topology.attached e.source ∧ d.Meant
  units : w.queued + bag w.topology (passing w.topology w.flight) +
    bag w.topology (deliveries w.topology sent) ≤ bag w.topology came

theorem Start.traced (h : Start settings w) : w.Traced [] [] := by
  refine ⟨h.recorded, fun r server => ?_, nofun, ?_⟩
  · rw [h.topology]
    exact Server.serving_new (h.servers r server)
  · rw [h.queued, h.flight]
    exact le_rfl

/-- **A server takes a step**: the units of the world are those that it had before, or that came in.
The sums fit together for each unit. -/
theorem Traced.serve (h : w.Traced sent came) {r : Rank} (server : w.topology.isServer r = true)
    (input : Input) {rest : List Envelope} (taken : w.flight.Perm (input.envelopes r ++ rest))
    {s : Server} {flow : Flow} (hstep : (w.servers r).step input = .ok (s, flow)) :
    ({ w with flight := rest }.served r s).Traced (sent ++ post r s.outbox)
      (came ++ (w.servers r).comesIn input) := by
  have recorded := h.toRecorded.stirs (.serve input server taken hstep)
  obtain ⟨new, outbox, -, hands⟩ := (h.serving r server).tidy.step_hands hstep
  rw [h.outbox r server, List.nil_append] at outbox
  refine ⟨recorded, fun x hx => ?_, fun e he source d hd => ?_, ?_⟩
  · refine servers_served (P := (·.Serving (w.topology.attached x))) (fun self => ?_)
      fun _ => h.serving x hx
    rw [self]
    exact ((h.serving r server).step hstep).passOn
  · rcases List.mem_append.1 he with he | he
    · exact h.meant e he source d hd
    · obtain ⟨rfl, mem⟩ := mem_post he
      rw [outbox] at mem
      obtain ⟨attached, meant⟩ := hands d (List.mem_filterMap.2 ⟨_, mem, hd⟩)
      exact ⟨((h.serving _ server).workers d.rank).1 attached, meant⟩
  · have stock := Server.step_stock (h.outbox r server) hstep
    rw [h.topology r server, bag_takesIn w.topology _ r, h.topology r server] at stock
    have queues := total_setServer h.fits server { s with outbox := [] }
      fun s => bag w.topology s.backlog.units
    have flight : bag w.topology (passing w.topology w.flight) =
        bag w.topology (passing w.topology (input.envelopes r ++ rest)) :=
      bag_perm w.topology (taken.flatMap_right _)
    have units := h.units
    show (w.setServer r { s with outbox := [] }).total (fun s => bag w.topology s.backlog.units) +
        bag w.topology (passing w.topology (rest ++ post r s.outbox)) +
        bag w.topology (deliveries w.topology (sent ++ post r s.outbox)) ≤
      bag w.topology (came ++ (w.servers r).comesIn input)
    rw [passing_append, deliveries_append, passing_post _ server, deliveries_post _ server]
    rw [queued] at units
    rw [Multiset.le_iff_count] at stock units ⊢
    intro u
    have stock := stock u
    have units := units u
    have queues := congrArg (Multiset.count u) queues
    have flight := congrArg (Multiset.count u) flight
    simp only [bag_append, passing_append, Multiset.count_add] at stock units queues flight ⊢
    omega

theorem Traced.stirs (h : w.Traced sent came) (stirs : Stirs w step new w') :
    w'.Traced (sent ++ new) (came ++ w.comesIn step) := by
  have recorded := h.toRecorded.stirs stirs
  cases stirs with
  | serve input server taken hstep => exact h.serve server input taken hstep
  | @say e workers outside =>
    obtain ⟨none, nobody⟩ := passing_outside w.topology outside
    refine ⟨recorded, h.serving, fun e' he source => ?_, ?_⟩
    · rcases List.mem_append.1 he with he | he
      · exact h.meant e' he source
      · rw [List.mem_singleton.1 he, outside] at source
        cases source
    · show w.queued + bag w.topology (passing w.topology (w.flight ++ [e])) +
        bag w.topology (deliveries w.topology (sent ++ [e])) ≤ bag w.topology (came ++ [])
      rw [passing_append, deliveries_append, none, nobody, List.append_nil, List.append_nil,
        List.append_nil]
      exact h.units
  | @receive e rest workers outside taken =>
    rw [List.append_nil] at recorded ⊢
    refine ⟨recorded, h.serving, h.meant, ?_⟩
    have flight : bag w.topology (passing w.topology w.flight) =
        bag w.topology (passing w.topology ([e] ++ rest)) :=
      bag_perm w.topology (taken.flatMap_right _)
    have units := h.units
    rw [flight, passing_append, bag_append] at units
    show w.queued + bag w.topology (passing w.topology rest) +
      bag w.topology (deliveries w.topology sent) ≤ bag w.topology (came ++ [])
    rw [List.append_nil]
    refine le_trans ?_ units
    gcongr
    exact Multiset.le_add_left _ _

theorem Traced.moves (h : w.Traced sent came) {ms : List Move} (moved : w.moves ms = some w') :
    w'.Traced (sent ++ w.history ms) (came ++ w.intake ms) := by
  induction ms generalizing w sent came with
  | nil =>
    cases moved
    rw [history, intake, List.append_nil, List.append_nil]
    exact h
  | cons next ms ih =>
    obtain ⟨w₁, first, rest⟩ := Option.bind_eq_some_iff.1 moved
    have kept := ih (h.stirs (move_stirs first)) rest
    rw [List.append_assoc, List.append_assoc] at kept
    rw [history, intake, first]
    exact kept

/-- **Whatever is delivered** came in, with the same target. -/
theorem Traced.delivered (h : w.Traced sent came) {e : Envelope} (he : e ∈ sent)
    (server : w.topology.isServer e.source = true) {tag : UInt64} {u : WorkUnit}
    (work : e.message = .response tag (.granted (.work u))) :
    e.dest ∈ w.topology.attached e.source ∧ (u.target = none ∨ u.target = some e.dest) ∧
      ∃ v ∈ came, v.settled w.topology = u ∧
        ∀ x, w.topology.isWorker x = true → v.target = some x → e.dest = x := by
  obtain ⟨attached, meant⟩ := h.meant e he server ⟨e.dest, tag, u⟩ (by rw [work]; rfl)
  refine ⟨attached, meant, ?_⟩
  have worker := Topology.isWorker_of_mem_attached attached
  have settled : u.settled w.topology = u := by
    refine WorkUnit.settled_of_target fun x target => ?_
    rcases meant with free | own
    · cases free.symm.trans target
    · cases own.symm.trans target
      exact Topology.isServer_of_isWorker worker
  have delivered : u ∈ deliveries w.topology sent := by
    refine List.mem_filterMap.2 ⟨e, he, ?_⟩
    rw [if_pos server, work]
    rfl
  have counted : u ∈ bag w.topology (deliveries w.topology sent) :=
    Multiset.mem_coe.2 (List.mem_map.2 ⟨u, delivered, settled⟩)
  have arrived : u ∈ bag w.topology came :=
    Multiset.mem_of_le ((Multiset.le_add_left _ _).trans h.units) counted
  obtain ⟨v, hv, same⟩ := List.mem_map.1 (Multiset.mem_coe.1 arrived)
  refine ⟨v, hv, same, fun x hx target => ?_⟩
  have kept : v.settled w.topology = v := by
    refine WorkUnit.settled_of_target fun y target' => ?_
    cases target.symm.trans target'
    exact Topology.isServer_of_isWorker hx
  rw [kept] at same
  subst same
  rcases meant with free | own
  · cases free.symm.trans target
  · cases own.symm.trans target
    rfl

end World

/-- **Work is given as it was asked for.** For every server, whatever messages and ticks it has
handled, and whenever its outbox was passed on: the requests that it has not answered are those
parked, and

* whatever happens next, each unit that is handed out answers one request for work that was parked,
  or that has just come in, and no request is answered twice;
* the request was for the type of the unit, and came from a worker attached to this server;
* the unit is for anybody, or for that worker.

For every run of all servers and whatever others say: no more units are delivered than came in, and
whatever is delivered came in with the same target. So a unit that is put for a worker is delivered
to that worker or to nobody. -/
theorem work_given_as_asked :
    (∀ (rank : Rank) (settings : Settings) (s₀ : Server) (turns : List Server.Turn) (s : Server)
      (t : Server.Traffic), Server.new rank settings = .ok (.ok s₀) →
      s₀.serve {} turns = .ok (s, t) →
      requestsIn t.handled =
        answersIn (t.sent ++ s.outbox) + s.parked.map (fun p => (p.rank, p.tag)) ∧
      s.parked ≤ wantsIn t.handled ∧
      ∀ input s' flow, s.step input = .ok (s', flow) →
        ∃ new, s'.outbox = s.outbox ++ new ∧
          metIn new + s'.parked ≤ s.parked + wantsIn input.messages ∧
          ∀ r tag u, (r, .response tag (.granted (.work u))) ∈ new →
            ⟨r, tag, u.type⟩ ∈ s.parked + wantsIn input.messages ∧
            r ∈ settings.topology.attached rank ∧ (u.target = none ∨ u.target = some r)) ∧
    ∀ (settings : Settings) (w₀ w : World) (ms : List World.Move), World.Start settings w₀ →
      w₀.moves ms = some w →
      bag w.topology (deliveries w.topology (w₀.history ms)) ≤ bag w.topology (w₀.intake ms) ∧
      ∀ e ∈ w₀.history ms, w.topology.isServer e.source = true →
        ∀ tag u, e.message = .response tag (.granted (.work u)) →
          e.dest ∈ w.topology.attached e.source ∧ (u.target = none ∨ u.target = some e.dest) ∧
          ∃ v ∈ w₀.intake ms, v.settled w.topology = u ∧
            ∀ x, w.topology.isWorker x = true → v.target = some x → e.dest = x := by
  constructor
  · intro rank settings s₀ turns s t hnew hserve
    have accounted := (Server.accounted_new hnew).serve hserve
    have serving := (Server.serving_new hnew).serve hserve
    refine ⟨?_, accounted.parked, fun input s' flow hstep => ?_⟩
    · rw [accounted.account, answersIn_append, Server.dues]
      abel
    obtain ⟨new, outbox, met, hands⟩ := serving.tidy.step_hands hstep
    refine ⟨new, outbox, met, fun r tag u sent => ?_⟩
    have handed : ⟨r, tag, u⟩ ∈ handsIn new := List.mem_filterMap.2 ⟨_, sent, rfl⟩
    obtain ⟨attached, meant⟩ := hands _ handed
    have request : (⟨r, tag, u.type⟩ : Parked) ∈ metIn new :=
      Multiset.mem_coe.2 (List.mem_map.2 ⟨_, handed, rfl⟩)
    refine ⟨?_, (serving.workers r).1 attached, meant⟩
    exact Multiset.mem_of_le ((Multiset.le_add_right _ _).trans met) request
  · intro settings w₀ w ms start moved
    have traced : w.Traced (w₀.history ms) (w₀.intake ms) := start.traced.moves moved
    refine ⟨(Multiset.le_add_left _ _).trans traced.units, fun e he server tag u work => ?_⟩
    exact traced.delivered he server work

/-- One server with two workers. -/
def oneByTwo : Settings := { workers := 2, servers := 1, workTypes := [0] }

/-- A unit that a worker puts for the other. -/
def forOther : WorkUnit := ⟨[9], some 1, 0, 0, 0⟩

/-- A worker waits for work. Another one, of another server, puts a unit for it, and the unit is
passed on. -/
def passedOn : List World.Move :=
  [.act (.ask 1 3 1 (.get 0)), .act (.deliver 1 3), .act (.ask 0 2 1 (.put forOther)),
    .act (.deliver 0 2), .act (.deliver 2 3)]

/-- A worker waits, and is handed what the other puts for it; the same where they have different
servers. -/
theorem work_given_as_asked_other :
    (∃ s₀ s t s' flow, Server.new 2 oneByTwo = .ok (.ok s₀) ∧
      s₀.serve {} [.step (.message 1 (.request 7 (.get 0)))] = .ok (s, t) ∧
      s.step (.message 0 (.request 3 (.put forOther))) = .ok (s', flow) ∧
      (1, .response 7 (.granted (.work forOther))) ∈ s'.outbox ∧
      (⟨1, 7, 0⟩ : Parked) ∈ s.parked ∧ 1 ∈ oneByTwo.topology.attached 2) ∧
    ∃ w, (World.initial World.twoByTwo).moves passedOn = some w ∧
      deliveries w.topology ((World.initial World.twoByTwo).history passedOn) = [forOther] ∧
      bag w.topology [forOther] ≤
        bag w.topology ((World.initial World.twoByTwo).intake passedOn) := by
  constructor
  · obtain ⟨s₀, hnew⟩ : ∃ s₀, Server.new 2 oneByTwo = .ok (.ok s₀) := ⟨_, rfl⟩
    have ran : (do
        let made ← Server.new 2 oneByTwo
        let s₀ ← made.mapError fun _ => Fault.addOverflow
        let r ← s₀.serve {} [.step (.message 1 (.request 7 (.get 0)))]
        let p ← r.1.step (.message 0 (.request 3 (.put forOther)))
        return decide (r.1.outbox = [] ∧
          ((1 : Rank), Message.response 7 (.granted (.work forOther))) ∈ p.1.outbox)) =
        .ok true := by decide +kernel
    rw [hnew] at ran
    obtain ⟨_, ⟨⟩, ran⟩ := bind_eq_ok ran
    obtain ⟨_, ⟨⟩, ran⟩ := bind_eq_ok ran
    obtain ⟨⟨s, t⟩, hserve, ran⟩ := bind_eq_ok ran
    obtain ⟨⟨s', flow⟩, hstep, ran⟩ := bind_eq_ok ran
    obtain ⟨outbox, handed⟩ := of_decide_eq_true (Except.ok.inj ran)
    obtain ⟨-, -, next⟩ := work_given_as_asked.1 2 oneByTwo s₀ _ s t hnew hserve
    obtain ⟨new, hnew', -, given⟩ := next _ s' flow hstep
    rw [outbox, List.nil_append] at hnew'
    obtain ⟨asked, attached, -⟩ := given 1 7 forOther (hnew' ▸ handed)
    exact ⟨s₀, s, t, s', flow, hnew, hserve, hstep, handed,
      (Multiset.mem_add.1 asked).resolve_right (by decide), attached⟩
  · have start : World.Start World.twoByTwo (World.initial World.twoByTwo) :=
      World.start_initial rfl rfl
    have ran : ((World.initial World.twoByTwo).moves passedOn).map (fun w =>
        deliveries w.topology ((World.initial World.twoByTwo).history passedOn)) =
        some [forOther] := by decide +kernel
    obtain ⟨w, moved, delivered⟩ := Option.map_eq_some_iff.1 ran
    obtain ⟨came, -⟩ := work_given_as_asked.2 World.twoByTwo _ w passedOn start moved
    rw [delivered] at came
    exact ⟨w, moved, delivered, came⟩

end WorkPool
