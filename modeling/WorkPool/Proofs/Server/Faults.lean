import WorkPool.Proofs.Server.Data

/-!
# Where requests fault

Whatever is asked of a server, it answers or parks the request and goes on, or it faults and is
gone. Main statement: `requests_complete_unless_overfull` — a request to increase a reference count
past its word is a fault, in every state in which the server would carry it out; and there is no
other, as long as sizes and message counts are far from the end of a word.

A fault can come only from the data (`onRequest_faults`) or from the counts of messages: the rest
of a request is carried out without arithmetic that could fail. Of the data, a server is asked for
ids of its own class only (`inClass_of_own`), so that what is known of a shard in order applies.
-/

namespace WorkPool

namespace Server

variable {s s' : Server} {settings : Settings} {r source : Rank} {tag : UInt64} {body : Request}
  {f : Fault}

/-- Whether a request has a reference count increased past its word: the server still carries out
requests, the datum is its own, and the sum does not fit. -/
def Overfills (s : Server) (body : Request) : Prop :=
  s.isShuttingDown = false ∧ s.wrongOwner? body = none ∧
    ∃ op, body = .data op ∧ s.shard.Overfull op

/-- Whether a request has more bytes counted than a word holds: those in use and those that an
operation brings, or those in use after it and the members that it passes on. -/
def Floods (s : Server) (source : Rank) (body : Request) : Prop :=
  ∃ op, body = .data op ∧ (Checked.wordSize ≤ s.shard.memory.used + op.bytes ∨
    ∃ o, s.shard.perform source op = .ok o ∧
      Checked.wordSize ≤ o.shard.memory.used + referenceBytes o.effects.references)

/-- A request comes to an end: it is answered, or it is one for work and is parked. -/
def Completes (s : Server) (source : Rank) (tag : UInt64) (body : Request) (s' : Server) : Prop :=
  (∃ answer, (source, .response tag answer) ∈ s.said s') ∨
    ∃ type, body = .get type ∧ ⟨source, tag, type⟩ ∈ s'.waiting.all

/-! ## Completion -/

theorem exists_of_mem_answersIn {out : List (Rank × Message)} (h : (source, tag) ∈ answersIn out) :
    ∃ answer, (source, .response tag answer) ∈ out := by
  obtain ⟨⟨dest, m⟩, sent, answers⟩ := List.mem_filterMap.1 (Multiset.mem_coe.1 h)
  obtain ⟨tag', responds, same⟩ := Option.map_eq_some_iff.1 answers
  cases m with
  | response tag'' answer =>
    cases responds
    cases same
    exact ⟨answer, sent⟩
  | _ => cases responds

/-- What is parked after a request was parked before, unless it is the request. -/
theorem Answers.parked_le {asked : Multiset (Rank × UInt64)}
    (h : Answers s asked (wantsIn [(source, .request tag body)]) s')
    (other : ∀ type, body = .get type → ⟨source, tag, type⟩ ∉ s'.waiting.all) :
    s'.parked ≤ s.parked := by
  have parked := h.parked
  cases body with
  | get type =>
    have one : wantsIn [(source, .request tag (.get type))] = {⟨source, tag, type⟩} := rfl
    rw [one, Multiset.add_comm, Multiset.singleton_add] at parked
    exact (Multiset.le_cons_of_notMem (other type rfl)).1 parked
  | _ => exact parked.trans_eq (Multiset.add_zero _)

/-- Whoever owes one answer more has given it, or has parked what was asked for. -/
theorem Answers.completes {new : List (Rank × Message)} (sent : s'.outbox = s.outbox ++ new)
    (h : Answers s {(source, tag)} (wantsIn [(source, .request tag body)]) s') :
    s.Completes source tag body s' := by
  by_cases waits : ∃ type, body = .get type ∧ ⟨source, tag, type⟩ ∈ s'.waiting.all
  · exact .inr waits
  have fewer := h.parked_le fun type get here => waits ⟨type, get, here⟩
  obtain ⟨met, before⟩ := Multiset.le_iff_exists_add.1
    (Multiset.map_le_map (f := fun p : Parked => (p.rank, p.tag)) fewer)
  have owed := h.dues
  rw [Server.dues, Server.dues, sent, answersIn_append, before] at owed
  have given : answersIn new = met + {(source, tag)} := by
    refine add_left_cancel (a := s'.parked.map (fun p => (p.rank, p.tag)) + answersIn s.outbox) ?_
    rw [add_assoc, owed]
    abel
  refine .inl ?_
  rw [said_eq sent]
  refine exists_of_mem_answersIn ?_
  rw [given]
  exact Multiset.mem_add.2 (.inr (Multiset.mem_singleton_self _))

/-! ## Faults -/

theorem inClass_of_own (lives : LivesAt settings r s)
    (hn : (settings.servers.toNat : Int) ≤ topId) (own : s.wrongOwner? body = none)
    {id : DatumId} (subject : body.subject? = some id) :
    InClass settings.servers (settings.topology.serverIndex r) id := by
  have stationed := lives.stationed
  simp only [wrongOwner?, subject, stationed.topology, stationed.rank] at own
  split at own
  · rename_i owner
    exact (lives.proper hn).inClass_of_owner owner
  · cases own

section

variable {index : UInt64}

theorem onData_faults {op : Operation} (order : Shard.InOrder index settings s.shard)
    (own : ∀ id, op.subject? = some id → InClass settings.servers index id)
    (h : s.onData source tag op = .error f) :
    (s.shard.Overfull op ∨ s.Floods source (.data op)) ∧ f = .addOverflow := by
  rcases bind_eq_error h with h | ⟨o, performed, h⟩
  · rcases Shard.perform_faults order own h with ⟨overfull, fault⟩ | ⟨fault, large⟩
    · exact ⟨.inl overfull, fault⟩
    · exact ⟨.inr ⟨op, rfl, .inl large⟩, fault⟩
  rcases bind_eq_error h with h | ⟨s₁, applied, h⟩
  · obtain ⟨fault, large⟩ := applyEffects_faults h
    exact ⟨.inr ⟨op, rfl, .inr ⟨o, performed, large⟩⟩, fault⟩
  · cases h

/-- **A request faults** only for a reference count that does not fit its word, or for bytes that
are too many for a word. -/
theorem onRequest_faults (order : Shard.InOrder index settings s.shard)
    (own : ∀ id, s.wrongOwner? body = none → body.subject? = some id →
      InClass settings.servers index id)
    (h : s.onRequest source tag body = .error f) :
    (s.Overfills body ∨ s.Floods source body) ∧ f = .addOverflow := by
  unfold onRequest at h
  split at h
  · cases h
  rename_i running
  split at h
  · cases h
  rename_i unowned
  rcases bind_eq_error h with h | ⟨s₁, carried, h⟩
  · cases body with
    | data op =>
      refine (onData_faults order (fun id => own id unowned) h).imp_left fun fault => ?_
      exact fault.imp_left fun overfull => ⟨Bool.eq_false_iff.2 running, unowned, op, rfl, overfull⟩
    | _ => cases h
  · cases h

/-- **A reference count increased past its word** is a fault. -/
theorem onRequest_overfills (h : s.Overfills body) (source : Rank) (tag : UInt64) :
    s.onRequest source tag body = .error .addOverflow := by
  obtain ⟨running, own, op, rfl, overfull⟩ := h
  have faulted : s.onData source tag op = .error .addOverflow := by
    rw [onData, Shard.perform_overfull overfull]
    rfl
  rw [onRequest, if_neg (Bool.eq_false_iff.1 running), own]
  change (s.onData source tag op >>= _) = _
  rw [faulted]
  rfl

end

/-! ## Requests -/

theorem overfills_countArrival {m : Message} :
    (s.countArrival source m).Overfills body ↔ s.Overfills body := by
  rw [Overfills, isShuttingDown_countArrival, wrongOwner?_countArrival, shard_countArrival,
    Overfills]

theorem floods_countArrival {m : Message} :
    (s.countArrival source m).Floods source body ↔ s.Floods source body := by
  rw [Floods, shard_countArrival, Floods]

/-- Handling a request is carrying it out, if the counts of messages fit their words. -/
theorem handle_request (s : Server) (source : Rank) (tag : UInt64) (body : Request) :
    s.handle source (.request tag body) = do
      let s' ← (s.countArrival source (.request tag body)).onRequest source tag body
      let s' ← s'.checkCounts
      return (s', s'.exitCheck) := rfl

/-- Whatever request is handled comes to an end. -/
theorem handle_completes {flow : Flow}
    (handled : s.handle source (.request tag body) = .ok (s', flow)) :
    s.Completes source tag body s' := by
  have stepped : s.step (.message source (.request tag body)) = .ok (s', flow) := handled
  obtain ⟨ins, refused, does⟩ := step_does stepped
  obtain ⟨new, sent⟩ := does.steady.outbox
  rw [(arrived_eq s _).2] at sent
  exact (step_answers stepped).completes sent.symm

/-- **Requests complete unless a reference count is overfull.** Whatever has happened to a server,
the next request is a fault if it has a reference count increased past its word. Any other is
answered or parked; or bytes or messages are more than a word counts. Ranks that are computed on
the way are always in range. -/
theorem requests_complete_unless_overfull (lives : LivesAt settings r s)
    (hn : (settings.servers.toNat : Int) ≤ topId) (source : Rank) (tag : UInt64) (body : Request) :
    (s.Overfills body → s.handle source (.request tag body) = .error .addOverflow) ∧
    (¬ s.Overfills body →
      (∃ s' flow, s.handle source (.request tag body) = .ok (s', flow) ∧
        s.Completes source tag body s') ∨
      s.handle source (.request tag body) = .error .addOverflow ∧
        (s.Floods source body ∨
          ∃ s', (s.countArrival source (.request tag body)).onRequest source tag body = .ok s' ∧
            ¬ s'.Fits)) ∧
    (∀ id, s.topology.checkedOwner id = .ok (s.topology.owner id)) ∧
    (∀ x, s.topology.checkedHomeServer x = .ok (s.topology.homeServer x)) ∧
    ∀ x, s.topology.checkedIsServer x = .ok (s.topology.isServer x) := by
  have proper := lives.proper hn
  refine ⟨?_, ?_, ?_⟩
  · intro overfills
    rw [handle_request, onRequest_overfills (overfills_countArrival.2 overfills)]
    rfl
  · intro fits
    cases carried : (s.countArrival source (.request tag body)).onRequest source tag body with
    | error f =>
      have order : Shard.InOrder (settings.topology.serverIndex r) settings
          (s.countArrival source (.request tag body)).shard := by
        rw [shard_countArrival]
        exact lives.inOrder hn
      obtain ⟨overfills | floods, rfl⟩ := onRequest_faults order (fun id own =>
        inClass_of_own lives hn ((wrongOwner?_countArrival body).symm.trans own)) carried
      · exact absurd (overfills_countArrival.1 overfills) fits
      · refine .inr ⟨?_, .inl (floods_countArrival.1 floods)⟩
        rw [handle_request, carried]
        rfl
    | ok s' =>
      by_cases counts : s'.Fits
      · have handled : s.handle source (.request tag body) = .ok (s', s'.exitCheck) := by
          rw [handle_request, carried]
          change (s'.checkCounts >>= _) = _
          rw [checkCounts_of_fits counts]
          rfl
        exact .inl ⟨s', _, handled, handle_completes handled⟩
      · refine .inr ⟨?_, .inr ⟨s', rfl, counts⟩⟩
        rw [handle_request, carried]
        change (s'.checkCounts >>= _) = _
        rw [checkCounts_of_not_fits counts]
        rfl
  · rw [lives.stationed.topology]
    exact ⟨proper.checkedOwner_eq, Topology.checkedHomeServer_eq proper.fits proper.served,
      Topology.checkedIsServer_eq proper.fits⟩

/-- One integer, with one writer. -/
def integerOnly : List Turn :=
  [.step (.message 0 (.request 1 (.data (.create { id := 7, kind := .integer }))))]

/-- As many writers more as a count holds are too many for it; what kind the datum is of can be
asked all the same. -/
theorem requests_complete_unless_overfull_integer : ∃ s s' flow,
    LivesAt { servers := 1, workers := 1, workTypes := [0] } 1 s ∧
    s.Overfills (.data (.addWriters 7 4294967295)) ∧
    s.handle 0 (.request 2 (.data (.addWriters 7 4294967295))) = .error .addOverflow ∧
    ¬ s.Overfills (.data (.kindOf 7)) ∧
    s.handle 0 (.request 3 (.data (.kindOf 7))) = .ok (s', flow) ∧
    s.Completes 0 3 (.data (.kindOf 7)) s' := by
  obtain ⟨s₀, hnew⟩ : ∃ s₀, Server.new 1 { servers := 1, workers := 1, workTypes := [0] } =
    .ok (.ok s₀) := ⟨_, rfl⟩
  have ran : (do
      let made ← Server.new 1 { servers := 1, workers := 1, workTypes := [0] }
      let s₀ ← made.mapError fun _ => Fault.addOverflow
      let p ← s₀.serve {} integerOnly
      let q ← p.1.handle 0 (.request 3 (.data (.kindOf 7)))
      return decide (p.1.isShuttingDown = false ∧
        p.1.wrongOwner? (.data (.addWriters 7 4294967295)) = none ∧
        ((p.1.shard.changeable 7).toOption.map fun d => (d.closed, d.writers)) = some (false, 1) ∧
        q.1.phase = .running) : Except Fault Bool) = .ok true := by decide +kernel
  rw [hnew] at ran
  obtain ⟨_, ⟨⟩, ran⟩ := bind_eq_ok ran
  obtain ⟨_, ⟨⟩, ran⟩ := bind_eq_ok ran
  obtain ⟨⟨s, t⟩, served, ran⟩ := bind_eq_ok ran
  obtain ⟨⟨s', flow⟩, handled, ran⟩ := bind_eq_ok ran
  obtain ⟨running, own, counted, -⟩ := of_decide_eq_true (Except.ok.inj ran)
  have lives : LivesAt { servers := 1, workers := 1, workTypes := [0] } 1 s :=
    ⟨s₀, integerOnly, t, hnew, served⟩
  have overfills : s.Overfills (.data (.addWriters 7 4294967295)) := by
    obtain ⟨d, found, counts⟩ := Option.map_eq_some_iff.1 counted
    obtain ⟨opened, writers⟩ := Prod.mk.inj counts
    refine ⟨running, own, _, rfl, d, eq_ok_of_toOption found, opened, ?_⟩
    rw [writers]
    decide
  have fits : ¬ s.Overfills (.data (.kindOf 7)) := by
    rintro ⟨-, -, op, same, overfull⟩
    cases same
    exact overfull
  have few : ((1 : UInt64).toNat : Int) ≤ topId := by decide
  have faults := (requests_complete_unless_overfull lives few 0 2 _).1 overfills
  rcases (requests_complete_unless_overfull lives few 0 3 _).2.1 fits with
    ⟨s₁, flow₁, handled₁, completes⟩ | ⟨faulted, -⟩
  · exact ⟨s, s₁, flow₁, lives, overfills, faults, fits, handled₁, completes⟩
  · cases handled.symm.trans faulted

end Server

end WorkPool
