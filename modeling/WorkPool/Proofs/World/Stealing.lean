import WorkPool.Proofs.Server.Steals
import WorkPool.Proofs.World.History

/-!
# Stealing: one question at a time

A server that waits for the answer of a peer has noted whom it asked. In a world, a steal of a
server is one message: the question, on its way to the peer, or the answer, on its way back. The
note and the message come and go together (`Paired`): the step that notes a peer asks it, the step
that takes the question out of flight sends the answer, and the step that takes the answer out of
flight takes the note back.

A server would take a forged answer for an answer, so nobody but the servers may send one. That
others ask a server for work does no harm: they are answered, and no server waits for it.
-/

namespace WorkPool

namespace Envelope

/-- Whether a message belongs to a steal by one rank from another: it is the question, or the
answer to it. -/
def stealsFrom (thief victim : Rank) (e : Envelope) : Bool :=
  match e.message with
  | .stealRequest .. => e.source == thief && e.dest == victim
  | .stealResponse .. => e.dest == thief && e.source == victim
  | _ => false

/-- Whether a message belongs to a steal by a rank. -/
def stealOf (thief : Rank) (e : Envelope) : Bool :=
  match e.message with
  | .stealRequest .. => e.source == thief
  | .stealResponse .. => e.dest == thief
  | _ => false

/-- A steal is from somebody. -/
theorem stealOf_iff {thief : Rank} {e : Envelope} :
    e.stealOf thief = true ↔ ∃ victim, e.stealsFrom thief victim = true := by
  obtain ⟨source, dest, m⟩ := e
  cases m <;> simp [stealOf, stealsFrom]

theorem stealsFrom_of_other {e : Envelope} (other : e.message.isSteal = false)
    (thief victim : Rank) : e.stealsFrom thief victim = false := by
  obtain ⟨source, dest, m⟩ := e
  cases m with
  | stealRequest | stealResponse => cases other
  | _ => rfl

end Envelope

/-- How many messages belong to a steal by one rank from another. -/
def probes (thief victim : Rank) (envelopes : List Envelope) : Nat :=
  envelopes.countP (Envelope.stealsFrom thief victim)

/-- How many answers of a peer are awaited. -/
def Peers.awaits (p : Peers) (victim : Rank) : Nat := if p.inFlight = some victim then 1 else 0

variable {x v r : Rank} {input : Input}

@[simp] theorem probes_append (x v : Rank) (a b : List Envelope) :
    probes x v (a ++ b) = probes x v a + probes x v b := List.countP_append

@[simp] theorem probes_nil (x v : Rank) : probes x v [] = 0 := rfl

@[simp] theorem probes_question (x v source dest : Rank) (wanted : List WorkType) (load : Load) :
    probes x v [⟨source, dest, .stealRequest wanted load⟩] =
      if source = x ∧ dest = v then 1 else 0 := by
  simp [probes, Envelope.stealsFrom, List.countP_singleton]

@[simp] theorem probes_answer (x v source dest : Rank) (units : List WorkUnit) (load : Load) :
    probes x v [⟨source, dest, .stealResponse units load⟩] =
      if dest = x ∧ source = v then 1 else 0 := by
  simp [probes, Envelope.stealsFrom, List.countP_singleton]

theorem probes_eq_zero {envelopes : List Envelope} :
    probes x v envelopes = 0 ↔ ∀ e ∈ envelopes, e.stealsFrom x v = false := by
  simp [probes, List.countP_eq_zero]

theorem probes_of_foreign {e : Envelope} (foreign : e.stealsFrom x v = false) :
    probes x v [e] = 0 :=
  probes_eq_zero.2 fun _ he => List.mem_singleton.1 he ▸ foreign

/-- Of what a server sends, only what is about steals matters. -/
theorem probes_post (x v r : Rank) (out : List (Rank × Message)) :
    probes x v (post r out) = probes x v (post r (stealsIn out)) := by
  rw [probes, probes, post, post, List.countP_map, List.countP_map, stealsIn, List.countP_filter]
  refine List.countP_congr fun p _ => ?_
  cases other : p.2.isSteal with
  | true => simp
  | false => simp [Envelope.stealsFrom_of_other (e := ⟨r, p.1, p.2⟩) other]

theorem probes_envelopes_of_other (other : input.isSteal = false) (x v r : Rank) :
    probes x v (input.envelopes r) = 0 := by
  rw [probes_eq_zero]
  intro e he
  cases input with
  | message source m =>
    rw [List.mem_singleton.1 he]
    exact Envelope.stealsFrom_of_other (e := ⟨source, r, m⟩) other x v
  | stealTick | idleTick => cases he

namespace Server

variable {p p' : Stealing}

/-- The peers of a server stay the same, and it asks nobody else. -/
theorem Steals.peers (h : Steals input p p')
    (asked : p.peers.inFlight = some v → v ∈ p.peers.ranks) :
    p'.peers.ranks = p.peers.ranks ∧ (p'.peers.inFlight = some v → v ∈ p.peers.ranks) := by
  cases h with
  | aside other same =>
    subst same
    exact ⟨rfl, asked⟩
  | asks other victim cursor wanted load idle peer asked' =>
    subst asked'
    exact ⟨rfl, fun e => Option.some.inj e ▸ peer⟩
  | gives source wanted load load' units heard given =>
    subst given
    exact ⟨rfl, asked⟩
  | hears source units load heard noted =>
    subst noted
    refine ⟨rfl, fun e => asked ?_⟩
    simp only [Peers.complete, Peers.record] at e
    split at e
    · cases e
    · exact e

/-- A step of a server passes on the steals of others. -/
theorem Steals.others (h : Steals input p p') (nothing : p.said = []) (other : x ≠ r) :
    probes x v (post r p'.said) = probes x v (input.envelopes r) := by
  cases h with
  | aside deaf same =>
    rw [same, nothing, probes_envelopes_of_other deaf]
    rfl
  | asks deaf victim cursor wanted load idle peer asked =>
    rw [asked, nothing, probes_envelopes_of_other deaf]
    simp [post, other.symm]
  | gives source wanted load load' units heard given =>
    rw [given, nothing, heard]
    simp [post, Input.envelopes, and_comm]
  | hears source units load heard noted =>
    rw [noted, nothing, heard]
    simp [post, Input.envelopes, other.symm]

/-- A step of a server notes its own steals, if an answer comes only from the peer that was
asked. -/
theorem Steals.self (h : Steals input p p') (nothing : p.said = [])
    (awaited : ∀ source units load, input = .message source (.stealResponse units load) →
      p.peers.inFlight = some source) :
    p'.peers.awaits v + probes r v (input.envelopes r) =
      p.peers.awaits v + probes r v (post r p'.said) := by
  cases h with
  | aside deaf same =>
    rw [same, nothing, probes_envelopes_of_other deaf]
    rfl
  | asks deaf victim cursor wanted load idle peer asked =>
    rw [asked, nothing, probes_envelopes_of_other deaf]
    simp [post, Peers.awaits, idle]
  | gives source wanted load load' units heard given =>
    have kept : (p.peers.record source load).awaits v = p.peers.awaits v := rfl
    rw [given, nothing, heard, kept]
    simp [post, Input.envelopes, and_comm]
  | hears source units load heard noted =>
    have from_peer := awaited source units load heard
    rw [noted, nothing, heard]
    simp [post, Input.envelopes, Peers.awaits, Peers.complete, Peers.record, from_peer]

end Server

namespace World

variable {w w' : World} {sent new : List Envelope}

/-- Every server knows its peers, and what it awaits of them is in flight. -/
structure Paired (w : World) (sent : List Envelope) : Prop extends Recorded w sent where
  peers : ∀ r, w.topology.isServer r = true → ∀ v ∈ (w.servers r).peers.ranks,
    w.topology.isServer v = true ∧ v ≠ r
  asked : ∀ r, w.topology.isServer r = true → ∀ v, (w.servers r).peers.inFlight = some v →
    v ∈ (w.servers r).peers.ranks
  awaited : ∀ r, w.topology.isServer r = true → ∀ v,
    probes r v w.flight = (w.servers r).peers.awaits v

theorem Start.paired {settings : Settings} (h : Start settings w) : w.Paired [] := by
  refine ⟨h.recorded, fun r server v hv => ?_, fun r server v asked => ?_, fun r server v => ?_⟩
  · rw [h.server server] at hv
    obtain ⟨mem, other⟩ := List.mem_filter.1 (List.mem_mergeSort.1 hv)
    rw [← h.topology] at mem
    exact ⟨(Topology.mem_serverRanks h.fits).1 mem, bne_iff_ne.1 other⟩
  · rw [h.server server] at asked
    cases asked
  · rw [h.flight, h.server server]
    rfl

/-- A message that belongs to a steal by a server is between it and the peer that it awaits. -/
theorem Paired.inFlight_eq (h : w.Paired sent) (server : w.topology.isServer r = true)
    {e : Envelope} (flies : e ∈ w.flight) (steals : e.stealsFrom r v = true) :
    (w.servers r).peers.inFlight = some v := by
  by_contra other
  have none : probes r v w.flight = 0 := (h.awaited r server v).trans (if_neg other)
  rw [probes_eq_zero.1 none e flies] at steals
  cases steals

/-- Where the notes change as what is in flight does. -/
theorem Paired.balanced (h : w.Paired sent) (recorded : w'.Recorded (sent ++ new))
    (topology : w'.topology = w.topology) (taken : List Envelope)
    (flight : (w.flight ++ new).Perm (taken ++ w'.flight))
    (peers : ∀ x, w.topology.isServer x = true →
      (w'.servers x).peers.ranks = (w.servers x).peers.ranks ∧
      ∀ v, (w'.servers x).peers.inFlight = some v → v ∈ (w.servers x).peers.ranks)
    (balance : ∀ x, w.topology.isServer x = true → ∀ v,
      (w'.servers x).peers.awaits v + probes x v taken =
        (w.servers x).peers.awaits v + probes x v new) : w'.Paired (sent ++ new) := by
  refine ⟨recorded, ?_, ?_, ?_⟩ <;> rw [topology] <;> intro x server
  · rw [(peers x server).1]
    exact h.peers x server
  · rw [(peers x server).1]
    exact (peers x server).2
  · intro v
    have counted : probes x v (w.flight ++ new) = probes x v (taken ++ w'.flight) :=
      flight.countP_eq _
    rw [probes_append, probes_append, h.awaited x server v] at counted
    have := balance x server v
    omega

/-- **A server takes a step.** -/
theorem Paired.serve (h : w.Paired sent) (server : w.topology.isServer r = true) (input : Input)
    {rest : List Envelope} (taken : w.flight.Perm (input.envelopes r ++ rest)) {s : Server}
    {flow : Flow} (step : (w.servers r).step input = .ok (s, flow))
    (recorded : ({ w with flight := rest }.served r s).Recorded (sent ++ post r s.outbox)) :
    ({ w with flight := rest }.served r s).Paired (sent ++ post r s.outbox) := by
  have steals := Server.step_steals step
  have nothing : (w.servers r).stealing.said = [] := by
    rw [Server.stealing, h.outbox r server]
    rfl
  have flight := taken.append_right (post r s.outbox)
  rw [List.append_assoc] at flight
  refine h.balanced recorded rfl (input.envelopes r) flight (fun x hx => ?_) fun x hx v => ?_
  · refine servers_served (P := fun s => s.peers.ranks = (w.servers x).peers.ranks ∧
      ∀ v, s.peers.inFlight = some v → v ∈ (w.servers x).peers.ranks) (fun self => ?_)
      fun _ => ⟨rfl, h.asked x hx⟩
    subst self
    exact ⟨(steals.peers (h.asked x hx x)).1, fun v => (steals.peers (h.asked x hx v)).2⟩
  · rw [probes_post]
    by_cases self : x = r
    · subst self
      rw [servers_served_self]
      refine steals.self nothing fun source units load heard => ?_
      subst heard
      have flies := taken.mem_iff.2 (List.mem_append_left rest (List.mem_singleton_self _))
      exact h.inFlight_eq server flies (by simp [Envelope.stealsFrom])
    · rw [servers_served_ne _ s self]
      exact congrArg _ (steals.others nothing self).symm

/-- **Whatever is done**, if nobody but a server answers a peer. Someone who is no server asks for
itself, and may not answer; a server asks servers only, and its answers go to itself. -/
theorem Paired.stirs {step : Option (Rank × Input)} (h : w.Paired sent)
    (stirs : Stirs w step new w')
    (orderly : ∀ e ∈ new, w.topology.isServer e.source = false →
      ∀ units load, e.message ≠ .stealResponse units load) :
    w'.Paired (sent ++ new) := by
  have recorded := h.toRecorded.stirs stirs
  cases stirs with
  | @serve r input rest s flow server taken step => exact h.serve server input taken step recorded
  | @say e workers outside =>
    refine h.balanced recorded rfl [] (.refl _) (fun x hx => ⟨rfl, h.asked x hx⟩) fun x hx v => ?_
    have foreign : e.stealsFrom x v = false := by
      have mute := orderly e (List.mem_singleton_self e) outside
      obtain ⟨source, dest, m⟩ := e
      cases m with
      | stealRequest =>
        have other : source ≠ x := by
          rintro rfl
          cases outside.symm.trans hx
        simp [Envelope.stealsFrom, other]
      | stealResponse units load => exact absurd rfl (mute units load)
      | _ => rfl
    rw [probes_of_foreign foreign]
    rfl
  | @receive e rest workers outside taken =>
    have flight : (w.flight ++ []).Perm ([e] ++ rest) := by rwa [List.append_nil]
    refine h.balanced recorded rfl [e] flight (fun x hx => ⟨rfl, h.asked x hx⟩) fun x hx v => ?_
    have foreign : e.stealsFrom x v = false := by
      by_contra steals
      rw [Bool.not_eq_false] at steals
      have asked := h.inFlight_eq hx (taken.mem_iff.2 List.mem_cons_self) steals
      have peer := (h.peers x hx v (h.asked x hx v asked)).1
      obtain ⟨source, dest, m⟩ := e
      cases m with
      | stealRequest =>
        simp only [Envelope.stealsFrom, Bool.and_eq_true, beq_iff_eq] at steals
        rw [← steals.2] at peer
        cases outside.symm.trans peer
      | stealResponse =>
        simp only [Envelope.stealsFrom, Bool.and_eq_true, beq_iff_eq] at steals
        rw [← steals.1] at hx
        cases outside.symm.trans hx
      | _ => cases steals
    rw [probes_of_foreign foreign]
    rfl

/-- **Every run** in which nobody but the servers answers a peer. -/
theorem Paired.moves (h : w.Paired sent) {ms : List Move}
    (orderly : ∀ source dest units load, .say source dest (.stealResponse units load) ∉ ms)
    (moved : w.moves ms = some w') : w'.Paired (sent ++ w.history ms) := by
  have step (w : World) (sent : List Envelope) (next : Move) (w' : World) (h : w.Paired sent)
      (orderly : ∀ source dest units load, next ≠ .say source dest (.stealResponse units load))
      (moved : w.move next = some w') : w'.Paired (sent ++ w.sent next) := by
    refine h.stirs (move_stirs moved) fun e he outside units load answers => ?_
    rcases said_of_outside moved he outside with asks | said
    · rw [answers] at asks
      cases asks
    · rw [answers] at said
      exact orderly _ _ _ _ said
  refine moves_induction step (fun next mem source dest units load said => ?_) h moved
  exact orderly source dest units load (said ▸ mem)

/-- **At most one steal is outstanding.** A server that awaits an answer awaits it of another
server, and one message is in flight for it: the question to that peer, or its answer. If it awaits
none, no question of its own and no answer to it is in flight. -/
theorem one_steal_outstanding {settings : Settings} {w₀ : World} (start : Start settings w₀)
    {ms : List Move}
    (orderly : ∀ source dest units load, .say source dest (.stealResponse units load) ∉ ms)
    (moved : w₀.moves ms = some w) {r : Rank} (server : w.topology.isServer r = true) :
    (∀ v, (w.servers r).peers.inFlight = some v →
      w.topology.isServer v = true ∧ v ≠ r ∧
      w.flight.countP (Envelope.stealsFrom r v) = 1 ∧
      w.flight.countP (Envelope.stealOf r) = 1) ∧
    ((w.servers r).peers.inFlight = none → ∀ e ∈ w.flight, e.stealOf r = false) := by
  have paired : w.Paired (w₀.history ms) := start.paired.moves orderly moved
  refine ⟨fun v asked => ?_, fun idle e flies => ?_⟩
  · obtain ⟨peer, other⟩ := paired.peers r server v (paired.asked r server v asked)
    have one : w.flight.countP (Envelope.stealsFrom r v) = 1 :=
      (paired.awaited r server v).trans (if_pos asked)
    refine ⟨peer, other, one, ?_⟩
    rw [← one]
    refine List.countP_congr fun e flies => ?_
    rw [Envelope.stealOf_iff]
    refine ⟨fun ⟨victim, steals⟩ => ?_, fun steals => ⟨v, steals⟩⟩
    have same := (paired.inFlight_eq server flies steals).symm.trans asked
    exact Option.some.inj same ▸ steals
  · by_contra steals
    rw [Bool.not_eq_false, Envelope.stealOf_iff] at steals
    obtain ⟨victim, steals⟩ := steals
    cases (paired.inFlight_eq server flies steals).symm.trans idle

/-- A worker asks its server for work, and the server asks the other one, which answers. -/
def stolenFrom : List Move :=
  [.act (.ask 1 3 1 (.get 0)), .act (.deliver 1 3), .act (.stealTick 3), .act (.deliver 3 2)]

/-- The answer is on its way back, and the server that looks for work once more asks nobody. -/
theorem one_steal_outstanding_answered :
    ∃ w, (initial twoByTwo).moves stolenFrom = some w ∧
      (w.servers 3).peers.inFlight = some 2 ∧ (w.servers 2).peers.inFlight = none ∧
      w.flight.countP (Envelope.stealOf 3) = 1 ∧ ∀ e ∈ w.flight, e.stealOf 2 = false := by
  have start : Start twoByTwo (initial twoByTwo) := start_initial rfl rfl
  have orderly : ∀ source dest units load,
      .say source dest (.stealResponse units load) ∉ stolenFrom := by
    intro source dest units load said
    simp [stolenFrom] at said
  have ran : ((initial twoByTwo).moves stolenFrom).map (fun w =>
      ([2, 3].map w.topology.isServer, [2, 3].map fun r => (w.servers r).peers.inFlight)) =
      some ([true, true], [none, some 2]) := by decide +kernel
  obtain ⟨w, moved, seen⟩ := Option.map_eq_some_iff.1 ran
  simp only [List.map_cons, List.map_nil, Prod.mk.injEq, List.cons.injEq, and_true] at seen
  obtain ⟨⟨server, other⟩, idle, asked⟩ := seen
  obtain ⟨-, -, -, one⟩ := (one_steal_outstanding start orderly moved other).1 2 asked
  exact ⟨w, moved, asked, idle, one, (one_steal_outstanding start orderly moved server).2 idle⟩

end World

end WorkPool
