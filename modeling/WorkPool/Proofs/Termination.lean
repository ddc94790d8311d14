import WorkPool.Proofs.World.Votes

/-!
# Termination: a run that is over has nothing left to do

The master ends a run when a round of votes says so. Whatever happened before, in whatever order
messages were delivered and ticks came, there is nothing left to do at that moment: no unit is
queued or on its way anywhere, nobody asks for anything, every worker is parked at its home or has
left, and no datum is open where that matters (`World.atRest_of_terminate`).

What the votes say is read off the state before a step (`Server.verdict`), and the step acts on it
(`Server.phase_of_verdict`).
-/

namespace WorkPool

/-- What the votes of a server say when something happens to it. -/
def Server.verdict (s : Server) : Input → Option Verdict
  | .message source (.idleReply round report) =>
    if s.isMaster && !s.isShuttingDown then
      match s.votes.record source round report with
      | .ok (_, verdict) => verdict
      | .error _ => none
    else none
  | .idleTick =>
    if s.isMaster && !s.isShuttingDown && !s.votes.isVoting && s.isIdle
        && s.topology.servers == 1 then
      match s.votes.openRound s.rank s.idleReport with
      | .ok (votes, _) =>
        match votes.conclude with
        | .ok (_, verdict) => verdict
        | .error _ => none
      | .error _ => none
    else none
  | _ => none

/-- A server acts on a verdict: the run ends. -/
theorem Server.phase_of_verdict {s s' : Server} {input : Input} {flow : Flow}
    (ends : s.verdict input = some .terminate) (h : s.step input = .ok (s', flow)) :
    s'.phase = .shuttingDown := by
  unfold verdict at ends
  split at ends
  · rename_i source round report
    split at ends
    · rename_i serves
      split at ends
      · rename_i votes verdict recorded
        subst ends
        obtain ⟨dispatched, -⟩ := handle_eq_ok h
        rw [countArrival_still rfl, dispatch, onIdleReply, if_pos serves, recorded] at dispatched
        cases dispatched
        exact phase_initiateShutdown _
      · cases ends
    · cases ends
  · split at ends
    · rename_i serves
      obtain ⟨serves, alone⟩ := Bool.and_eq_true_iff.1 serves
      split at ends
      · rename_i votes round opened
        split at ends
        · rename_i votes' verdict concluded
          subst ends
          unfold step onIdleTick at h
          rw [if_pos serves] at h
          obtain ⟨s₁, started, h⟩ := bind_eq_ok h
          cases h
          rw [startVote, opened] at started
          simp only [bind, Except.bind, beq_iff_eq.1 alone, if_true, concluded] at started
          cases started
          exact phase_initiateShutdown _
        · cases ends
      · cases ends
    · cases ends
  · cases ends

namespace World

open Quiescence

variable {w w' w₀ : World} {settings : Settings}

/-- What the votes of the master say when something happens. -/
def verdict (w : World) : Action → Option Verdict
  | .deliver source dest =>
    if w.topology.isServer dest ∧ dest = w.topology.master then
      (oldest? source dest w.flight).bind fun (m, _) =>
        (w.servers dest).verdict (.message source m)
    else none
  | .idleTick r =>
    if w.topology.isServer r ∧ r = w.topology.master then (w.servers r).verdict .idleTick else none
  | _ => none

/-- A verdict is one of the master, which serves, on reports of its own or in flight. -/
theorem verdict_cases {a : Action} (h : w.verdict a = some .terminate) :
    w.topology.isServer w.topology.master = true ∧
    (w.servers w.topology.master).phase = .running ∧
    ((∃ source round report q rest,
        w.flight.Perm (⟨source, w.topology.master, .idleReply round report⟩ :: rest) ∧
        (w.servers w.topology.master).votes.record source round report =
          .ok (q, some .terminate)) ∨
      ∃ q q' round, (w.servers w.topology.master).votes.openRound
          (w.servers w.topology.master).rank (w.servers w.topology.master).idleReport =
            .ok (q, round) ∧ q.conclude = .ok (q', some .terminate)) := by
  have running {s : Server} (h : s.isShuttingDown = false) : s.phase = .running := by
    cases phase : s.phase with
    | running => rfl
    | shuttingDown =>
      rw [Server.isShuttingDown, phase] at h
      cases h
  cases a with
  | deliver source dest =>
    simp only [verdict] at h
    split at h
    · rename_i here
      obtain ⟨server, rfl⟩ := here
      obtain ⟨⟨m, rest⟩, taken, h⟩ := Option.bind_eq_some_iff.1 h
      cases m with
      | idleReply round report =>
        simp only [Server.verdict] at h
        split at h
        · rename_i serves
          simp only [Bool.and_eq_true, Bool.not_eq_true'] at serves
          split at h
          · rename_i q verdict recorded
            subst h
            exact ⟨server, running serves.2,
              .inl ⟨source, round, report, q, rest, oldest?_perm taken, recorded⟩⟩
          · cases h
        · cases h
      | _ => cases h
    · cases h
  | idleTick r =>
    simp only [verdict] at h
    split at h
    · rename_i here
      obtain ⟨server, rfl⟩ := here
      simp only [Server.verdict] at h
      split at h
      · rename_i serves
        simp only [Bool.and_eq_true, Bool.not_eq_true'] at serves
        split at h
        · rename_i q round opened
          split at h
          · rename_i q' verdict concluded
            subst h
            exact ⟨server, running serves.1.1.1.2, .inr ⟨q, q', round, opened, concluded⟩⟩
          · cases h
        · cases h
      · cases h
    · cases h
  | stealTick | ask | receive => cases h

/-- **The master acts on its verdict**: it shuts down with the action on which the votes say so. -/
theorem phase_of_verdict {a : Action} (ends : w.verdict a = some .terminate)
    (h : w.act a = some w') : (w'.servers w.topology.master).phase = .shuttingDown := by
  have shutsDown {v : World} {input : Input} (servers : v.servers = w.servers)
      (ends : (w.servers w.topology.master).verdict input = some .terminate)
      (h : v.serve w.topology.master input = some w') :
      (w'.servers w.topology.master).phase = .shuttingDown := by
    obtain ⟨s, flow, stepped, rfl⟩ := serve_eq_some h
    rw [servers] at stepped
    have stopped := Server.phase_of_verdict ends stepped
    exact (congrArg Server.phase (if_pos rfl)).trans stopped
  cases a with
  | deliver source dest =>
    simp only [verdict] at ends
    split at ends
    · rename_i here
      obtain ⟨server, rfl⟩ := here
      obtain ⟨⟨m, rest⟩, taken, ends⟩ := Option.bind_eq_some_iff.1 ends
      simp only [act, if_pos server, taken, Option.bind_some] at h
      exact shutsDown (v := { w with flight := rest }) rfl ends h
    · cases ends
  | idleTick r =>
    simp only [verdict] at ends
    split at ends
    · rename_i here
      obtain ⟨server, rfl⟩ := here
      simp only [act, if_pos server] at h
      exact shutsDown rfl ends h
    · cases ends
  | stealTick | ask | receive => cases ends

/-- **Termination is safe.** At the moment the votes of the master say that the run is over, after
any run from the start, nothing is left to do anywhere; and the master shuts down with that. The
votes say so after one more report, or after the master's own. -/
theorem atRest_of_terminate (start : Start settings w₀) {actions : List Action}
    (run : w₀.run actions = some w) {a : Action} (ends : w.verdict a = some .terminate) :
    w.AtRest settings ∧
      ∀ w', w.act a = some w' → (w'.servers w.topology.master).phase = .shuttingDown := by
  refine ⟨?_, fun w' acted => phase_of_verdict ends acted⟩
  obtain ⟨server, running, votes⟩ := verdict_cases ends
  have topology := run_topology run
  have served : 0 < w₀.topology.servers.toNat := by
    rw [topology, Topology.isServer_iff, Topology.size] at server
    omega
  have proper := start.proper served
  obtain ⟨hw, ha, polls⟩ := (start.inService proper).run_calm (P := fun w => w.Accounted ∧
      w.Polls (w.servers w.topology.master).votes)
    ⟨start.accounted proper, start.polls proper⟩
    (fun w w' hw kept calm => ⟨calm.accounted hw kept.1, calm.polls hw kept.1 kept.2⟩) run running
  have rank := (hw.servers _ server).rank
  rcases votes with ⟨source, round, report, q, rest, taken, recorded⟩ |
    ⟨q, q', round, opened, concluded⟩
  · rcases record_cases recorded with ⟨-, none⟩ | ⟨b, current, rfl, concluded⟩
    · cases none
    · have he := taken.mem_iff.2 List.mem_cons_self
      have reporter := (hw.routed _ he).isServer_source rfl
      exact ((polls.collect current he rfl reporter).idle_of_terminate hw concluded).atRest hw ha
  · rw [rank] at opened
    exact ((polls.openRound hw opened).idle_of_terminate hw concluded).atRest hw ha

/-- Two servers with a worker each. -/
def pair : Settings := { servers := 2, workers := 2 }

/-- Both workers ask for work and are parked, the servers look for work at each other, and two
rounds of votes follow; the last report is still in flight. -/
def pairActions : List Action :=
  [.ask 0 2 7 (.get 0), .deliver 0 2, .ask 1 3 7 (.get 0), .deliver 1 3,
    .deliver 2 3, .deliver 3 2, .deliver 3 2, .deliver 2 3,
    .idleTick 2, .deliver 2 3, .deliver 3 2, .idleTick 2, .deliver 2 3]

theorem atRest_of_terminate_pair : ∃ w, (initial pair).run pairActions = some w ∧
    w.verdict (.deliver 3 2) = some .terminate ∧ w.AtRest pair := by
  have votes : (((initial pair).run pairActions).bind fun w => w.verdict (.deliver 3 2)) =
      some .terminate := by decide +kernel
  obtain ⟨w, run, ends⟩ := Option.bind_eq_some_iff.1 votes
  exact ⟨w, run, ends, (atRest_of_terminate (start_initial rfl rfl) run ends).1⟩

end World

end WorkPool
