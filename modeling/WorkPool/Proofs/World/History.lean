import WorkPool.Proofs.World.Counting

/-!
# History: everything that was sent

The messages in flight are those that have not arrived. What holds of all that was ever sent is
told along a run: `World.history` lists every message of a run, in the order in which they were
sent.

Whatever is done in a world, it is one of three things (`Stirs`): a server takes a step on what was
in flight for it or on a tick, someone who is no server says something, or something arrives at
someone who is no server. An invariant of worlds and their histories is shown for these.
-/

namespace WorkPool

theorem Server.step_same {s s' : Server} {input : Input} {flow : Flow}
    (h : s.step input = .ok (s', flow)) : s'.rank = s.rank ∧ s'.topology = s.topology := by
  obtain ⟨ins, refused, does⟩ := step_does h
  have steady := does.steady
  cases input with
  | message source m =>
    exact ⟨steady.rank.trans rank_countArrival, steady.topology.trans topology_countArrival⟩
  | stealTick | idleTick => exact ⟨steady.rank, steady.topology⟩

/-- What was in flight for a server that takes up some input. -/
def Input.envelopes (r : Rank) : Input → List Envelope
  | .message source m => [⟨source, r, m⟩]
  | .stealTick | .idleTick => []

namespace World

variable {w w' : World}

/-- What a server sends when it takes up some input. -/
def answers (w : World) (r : Rank) (input : Input) : List Envelope :=
  match (w.servers r).step input with
  | .ok (s, _) => post r s.outbox
  | .error _ => []

/-- What is sent in one move. -/
def sent (w : World) : Move → List Envelope
  | .act (.deliver source dest) =>
    match oldest? source dest w.flight with
    | some (m, _) => w.answers dest (.message source m)
    | none => []
  | .act (.stealTick r) => w.answers r .stealTick
  | .act (.idleTick r) => w.answers r .idleTick
  | .act (.ask worker dest tag body) => [⟨worker, dest, .request tag body⟩]
  | .act (.receive ..) => []
  | .say source dest m => [⟨source, dest, m⟩]

/-- Everything that is sent in the course of some moves. -/
def history : World → List Move → List Envelope
  | _, [] => []
  | w, next :: ms =>
    match w.move next with
    | none => []
    | some w' => w.sent next ++ w'.history ms

/-- The server that takes a step in a move, and what it takes up. -/
def stepOf (w : World) : Move → Option (Rank × Input)
  | .act (.deliver source dest) =>
    (oldest? source dest w.flight).map fun p => (dest, .message source p.1)
  | .act (.stealTick r) => some (r, .stealTick)
  | .act (.idleTick r) => some (r, .idleTick)
  | .act (.ask ..) | .act (.receive ..) | .say .. => none

/-- What is done in a world, with the step that a server takes and with what is sent. -/
inductive Stirs (w : World) : Option (Rank × Input) → List Envelope → World → Prop where
  /-- a server takes a step -/
  | serve {r : Rank} (input : Input) {rest : List Envelope} {s : Server} {flow : Flow}
    (server : w.topology.isServer r = true)
    (taken : w.flight.Perm (input.envelopes r ++ rest))
    (step : (w.servers r).step input = .ok (s, flow)) :
    Stirs w (some (r, input)) (post r s.outbox) ({ w with flight := rest }.served r s)
  /-- someone who is no server says something -/
  | say {e : Envelope} (workers : Rank → Occupation)
    (outside : w.topology.isServer e.source = false) :
    Stirs w none [e] { w with workers, flight := w.flight ++ [e] }
  /-- something arrives at someone who is no server -/
  | receive {e : Envelope} {rest : List Envelope} (workers : Rank → Occupation)
    (outside : w.topology.isServer e.dest = false) (taken : w.flight.Perm (e :: rest)) :
    Stirs w none [] { w with workers, flight := rest }

theorem answers_eq {r : Rank} (input : Input) {s : Server} {flow : Flow}
    (step : (w.servers r).step input = .ok (s, flow)) : w.answers r input = post r s.outbox := by
  rw [answers, step]

/-- **Every move** is one of the three. -/
theorem move_stirs {next : Move} (moved : w.move next = some w') :
    Stirs w (w.stepOf next) (w.sent next) w' := by
  cases next with
  | act a =>
    cases act_happens moved with
    | @deliver source dest m rest s flow server oldest handled =>
      have sent : w.sent (.act (.deliver source dest)) = post dest s.outbox := by
        simp only [World.sent, oldest]
        exact answers_eq (.message source m) handled
      rw [sent, stepOf, oldest]
      exact .serve (.message source m) server (oldest?_perm oldest) handled
    | @stealTick r server =>
      rw [World.sent, answers_eq .stealTick rfl]
      exact .serve .stealTick server (.refl _) rfl
    | @idleTick r s flow server considered =>
      rw [World.sent, answers_eq .idleTick considered]
      exact .serve .idleTick server (.refl _) considered
    | ask may free => exact .say _ (Topology.isServer_of_isWorker (Topology.isWorker_of_mayAsk may))
    | receive is oldest =>
      exact .receive _ (Topology.isServer_of_isWorker is) (oldest?_perm oldest)
  | say source dest m =>
    simp only [World.move] at moved
    split at moved
    · cases moved
    · rename_i outside
      cases moved
      exact .say w.workers (Bool.eq_false_iff.2 outside)

theorem source_of_answers {r : Rank} {input : Input} {e : Envelope} (he : e ∈ w.answers r input) :
    e.source = r := by
  rw [answers] at he
  split at he
  · exact (mem_post he).1
  · cases he

/-- Someone who is no server asks as a worker does, or has said it. -/
theorem said_of_outside {next : Move} (moved : w.move next = some w') {e : Envelope}
    (he : e ∈ w.sent next) (outside : w.topology.isServer e.source = false) :
    e.message.isRequest = true ∨ next = .say e.source e.dest e.message := by
  cases next with
  | act a =>
    cases act_happens moved with
    | deliver server oldest handled =>
      simp only [World.sent, oldest] at he
      rw [source_of_answers he, server] at outside
      cases outside
    | stealTick server | idleTick server =>
      rw [World.sent] at he
      rw [source_of_answers he, server] at outside
      cases outside
    | ask may free =>
      rw [List.mem_singleton.1 he]
      exact .inl rfl
    | receive is oldest => cases he
  | say source dest m =>
    rw [List.mem_singleton.1 he]
    exact .inr rfl

/-- **A run keeps what its moves keep**, of the world and of all that was sent. -/
theorem moves_induction {P : World → List Envelope → Prop} {may : Move → Prop}
    (step : ∀ w sent next w', P w sent → may next → w.move next = some w' →
      P w' (sent ++ w.sent next))
    {ms : List Move} (allowed : ∀ next ∈ ms, may next) {sent : List Envelope} (start : P w sent)
    (moved : w.moves ms = some w') : P w' (sent ++ w.history ms) := by
  induction ms generalizing w sent with
  | nil =>
    cases moved
    rw [history, List.append_nil]
    exact start
  | cons next ms ih =>
    obtain ⟨w₁, first, rest⟩ := Option.bind_eq_some_iff.1 moved
    obtain ⟨may, allowed⟩ := List.forall_mem_cons.1 allowed
    have kept := ih allowed (step w sent next w₁ start may first) rest
    rw [history, first, ← List.append_assoc]
    exact kept

theorem Stirs.topology {step : Option (Rank × Input)} {new : List Envelope}
    (h : Stirs w step new w') : w'.topology = w.topology := by
  cases h <;> rfl

/-! ## Between two moves -/

/-- A server is what it was, or the one that took a step. -/
theorem servers_served {P : Server → Prop} {r x : Rank} {s : Server}
    (self : x = r → P { s with outbox := [] }) (other : x ≠ r → P (w.servers x)) :
    P ((w.served r s).servers x) := by
  by_cases hx : x = r
  · rw [hx, servers_served_self]
    exact self hx
  · rw [servers_served_ne w s hx]
    exact other hx

/-- What holds of the servers between two moves, and of the record of what was sent. -/
structure Recorded (w : World) (sent : List Envelope) : Prop where
  fits : w.topology.Fits
  rank : ∀ r, w.topology.isServer r = true → (w.servers r).rank = r
  topology : ∀ r, w.topology.isServer r = true → (w.servers r).topology = w.topology
  outbox : ∀ r, w.topology.isServer r = true → (w.servers r).outbox = []
  flight : w.flight ⊆ sent

theorem Start.recorded {settings : Settings} (h : Start settings w) : w.Recorded [] where
  fits := h.fits
  rank r server := by
    rw [h.server server]
    rfl
  topology r server := by
    rw [h.server server, h.topology]
    rfl
  outbox r server := by
    rw [h.server server]
    rfl
  flight := by
    rw [h.flight]
    exact List.Subset.refl []

/-- **Whatever is done**, the servers have sent what they had to send, and all of it is on
record. -/
theorem Recorded.stirs {step : Option (Rank × Input)} {sent new : List Envelope}
    (h : w.Recorded sent) (stirs : Stirs w step new w') : w'.Recorded (sent ++ new) := by
  cases stirs with
  | @serve r input rest s flow server taken step =>
    obtain ⟨rank, topology⟩ := Server.step_same step
    have old : rest ⊆ sent := fun e he => h.flight (taken.mem_iff.2 (List.mem_append_right _ he))
    refine ⟨h.fits, fun x hx => ?_, fun x hx => ?_, fun x hx => ?_, ?_⟩
    · exact servers_served (P := (·.rank = x)) (fun self => self ▸ rank.trans (h.rank r server))
        fun _ => h.rank x hx
    · exact servers_served (P := (·.topology = w.topology))
        (fun _ => topology.trans (h.topology r server)) fun _ => h.topology x hx
    · exact servers_served (P := (·.outbox = [])) (fun _ => rfl) fun _ => h.outbox x hx
    · exact List.append_subset.2
        ⟨List.subset_append_of_subset_left _ old, List.subset_append_right _ _⟩
  | @say e workers outside =>
    refine ⟨h.fits, h.rank, h.topology, h.outbox, ?_⟩
    exact List.append_subset.2
      ⟨List.subset_append_of_subset_left _ h.flight, List.subset_append_right _ _⟩
  | @receive e rest workers outside taken =>
    refine ⟨h.fits, h.rank, h.topology, h.outbox, fun e he => ?_⟩
    rw [List.append_nil]
    exact h.flight (taken.mem_iff.2 (List.mem_cons_of_mem _ he))

end World

end WorkPool
