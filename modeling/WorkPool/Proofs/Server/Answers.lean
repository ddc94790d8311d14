import Mathlib.Algebra.Order.Group.Multiset
import Mathlib.Tactic.Abel
import WorkPool.Proofs.Server.Steps

/-!
# Every request is answered once

A request makes a server owe one answer, under the tag of the request. The answer stands in the
outbox when the request has been handled, or the request is parked and the answer comes later:
from a unit that goes to it, or from the end of the run. What a server **owes**, in its outbox
or parked, is `Server.dues`.

`Answers` says what a step does to that. Work on units and data owes nothing new, whatever it
answers (`Works.answers`), a request adds one answer, and a shutdown answers all that is parked
(`beginShutdown_answers`). So `step_answers` holds of every message and tick, and the account of
a whole run follows by induction.
-/

namespace WorkPool

/-! ## Requests and answers -/

namespace Message

/-- The tag of the request that a message answers. -/
def answers? : Message → Option UInt64
  | .response tag _ => some tag
  | _ => none

/-- The tag of a request. -/
def asks? : Message → Option UInt64
  | .request tag _ => some tag
  | _ => none

/-- A request for work, as it is parked. -/
def wants? (source : Rank) : Message → Option Parked
  | .request tag (.get type) => some ⟨source, tag, type⟩
  | _ => none

/-- What wants a unit is a request for work. -/
theorem eq_of_wants? {m : Message} {source : Rank} {p : Parked} (h : m.wants? source = some p) :
    (source, m) = (p.rank, .request p.tag (.get p.type)) := by
  unfold wants? at h
  split at h
  · cases h
    rfl
  · cases h

end Message

/-- The requests among some messages, by their senders and tags. -/
def requestsIn (messages : List (Rank × Message)) : Multiset (Rank × UInt64) :=
  Multiset.ofList (messages.filterMap fun p => p.2.asks?.map fun tag => (p.1, tag))

/-- The answers among some messages, by their receivers and tags. -/
def answersIn (messages : List (Rank × Message)) : Multiset (Rank × UInt64) :=
  Multiset.ofList (messages.filterMap fun p => p.2.answers?.map fun tag => (p.1, tag))

/-- The requests for work among some messages. -/
def wantsIn (messages : List (Rank × Message)) : Multiset Parked :=
  Multiset.ofList (messages.filterMap fun p => p.2.wants? p.1)

@[simp] theorem requestsIn_append (a b : List (Rank × Message)) :
    requestsIn (a ++ b) = requestsIn a + requestsIn b := by
  simp [requestsIn, List.filterMap_append]

@[simp] theorem answersIn_append (a b : List (Rank × Message)) :
    answersIn (a ++ b) = answersIn a + answersIn b := by
  simp [answersIn, List.filterMap_append]

@[simp] theorem wantsIn_append (a b : List (Rank × Message)) :
    wantsIn (a ++ b) = wantsIn a + wantsIn b := by
  simp [wantsIn, List.filterMap_append]

/-- A message that answers nothing is no answer. -/
theorem answersIn_singleton {dest : Rank} {m : Message} (h : m.answers? = none) :
    answersIn [(dest, m)] = 0 := by
  simp [answersIn, h]

namespace Server

variable {s s₁ s' : Server} {source : Rank} {tag : UInt64} {m : Message}
  {asked asked' : Multiset (Rank × UInt64)} {wanted wanted' : Multiset Parked}

/-- The requests that a server has parked. -/
def parked (s : Server) : Multiset Parked := Multiset.ofList s.waiting.all

/-- The answers that a server owes, or has ready. -/
def dues (s : Server) : Multiset (Rank × UInt64) :=
  s.parked.map (fun p => (p.rank, p.tag)) + answersIn s.outbox

/-- A server that shuts down has nothing parked. -/
def Rests (s : Server) : Prop := s.isShuttingDown = true → s.parked = 0

/-- What a step does to the answers that a server owes: it owes one for each request, and may
park those for work. -/
structure Answers (s : Server) (asked : Multiset (Rank × UInt64)) (wanted : Multiset Parked)
    (s' : Server) : Prop where
  dues : s'.dues = s.dues + asked
  parked : s'.parked ≤ s.parked + wanted
  rests : s.Rests → s'.Rests

/-- What is asked and wanted adds up. -/
theorem Answers.trans (h : Answers s asked wanted s₁) (h' : Answers s₁ asked' wanted' s') :
    Answers s (asked + asked') (wanted + wanted') s' := by
  refine ⟨?_, ?_, fun hs => h'.rests (h.rests hs)⟩
  · rw [h'.dues, h.dues, add_assoc]
  · calc s'.parked ≤ s₁.parked + wanted' := h'.parked
      _ ≤ (s.parked + wanted) + wanted' := by gcongr; exact h.parked
      _ = s.parked + (wanted + wanted') := add_assoc _ _ _

/-- One part of a step asks nothing and parks nothing. -/
theorem Answers.then (h : Answers s 0 0 s₁) (h' : Answers s₁ asked wanted s') :
    Answers s asked wanted s' := by
  simpa only [zero_add] using h.trans h'

/-- What need not be parked may be. -/
theorem Answers.mayPark (h : Answers s asked 0 s') (wanted : Multiset Parked) :
    Answers s asked wanted s' := by
  refine ⟨h.dues, h.parked.trans ?_, h.rests⟩
  gcongr
  exact Multiset.zero_le _

/-- Whoever answers nothing and parks nothing owes what was owed. -/
theorem answers_of_eq (waiting : s'.waiting = s.waiting) (phase : s'.phase = s.phase)
    (outbox : answersIn s'.outbox = answersIn s.outbox) : Answers s 0 0 s' := by
  have parked : s'.parked = s.parked := by rw [Server.parked, Server.parked, waiting]
  refine ⟨?_, ?_, fun hs => ?_⟩
  · rw [dues, dues, parked, outbox, add_zero]
  · rw [parked, add_zero]
  · rw [Rests, isShuttingDown, phase, parked]
    exact hs

theorem Answers.refl (s : Server) : Answers s 0 0 s := answers_of_eq rfl rfl rfl

/-- A message that answers nothing. -/
theorem send_answers (s : Server) (dest : Rank) (h : m.answers? = none) :
    Answers s 0 0 (s.send dest m) := by
  refine answers_of_eq rfl rfl ?_
  rw [send, answersIn_append, answersIn_singleton h, add_zero]

/-- A message to all that moves no work. -/
theorem sendAll_answers (s : Server) (dest : List Rank) (hm : m.movesWork = false) :
    Answers s 0 0 (s.sendAll dest m) := by
  rw [sendAll_eq hm]
  refine answers_of_eq rfl rfl ?_
  have none_there : answersIn (dest.map fun r => (r, m)) = 0 := by
    have : m.answers? = none := by
      cases m with
      | response => cases hm
      | _ => rfl
    simp [answersIn, List.filterMap_map, this]
  rw [answersIn_append, none_there, add_zero]

/-- **An answer** is one more. -/
theorem respond_answers (s : Server) (dest : Rank) (tag : UInt64) (r : Except Error Reply) :
    Answers s {(dest, tag)} 0 (s.respond dest tag r) := by
  refine ⟨?_, ?_, fun hs => hs⟩
  · have one : answersIn [(dest, .response tag (.ofResult r))] = {(dest, tag)} := rfl
    rw [dues, dues, respond, send, answersIn_append, one, add_assoc]
    rfl
  · rw [add_zero]
    exact le_refl s.parked

/-! ## Work on units and data -/

/-- A unit that goes to a parked request is its answer. A server that shuts down has no request
parked that the unit could go to. -/
theorem place_answers (s : Server) (u : WorkUnit) : Answers s 0 0 (s.place u).1 := by
  unfold place
  split
  · rename_i p waiting matched
    have taken : s.parked = p ::ₘ Multiset.ofList waiting.all :=
      Multiset.coe_eq_coe.2 (WaitingList.takeMatch_some matched)
    have answered : answersIn (s.outbox ++
        [(p.rank, .response p.tag (.ofResult (.ok (.work u))))]) =
        answersIn s.outbox + {(p.rank, p.tag)} := answersIn_append _ _
    refine ⟨?_, ?_, fun hs ended => ?_⟩
    · rw [dues, dues, taken, Multiset.map_cons, ← Multiset.singleton_add]
      show (Multiset.ofList waiting.all).map _ + answersIn (s.outbox ++ _) = _
      rw [answered]
      abel
    · rw [taken, add_zero]
      exact Multiset.le_cons_self _ _
    · have none_left : s.parked = 0 := hs ended
      rw [taken] at none_left
      exact absurd none_left (Multiset.cons_ne_zero)
  · exact answers_of_eq rfl rfl rfl

/-- **Every task** leaves the answers that a server owes or has ready. -/
theorem Task.answers {ins lost : List WorkUnit} (h : Task s ins lost s') : Answers s 0 0 s' := by
  cases h with
  | note shard peers nextTag stats sound => exact answers_of_eq rfl rfl rfl
  | place u held => exact place_answers s _
  | forward dest u leads away => exact send_answers s dest rfl
  | ask id tag body => exact send_answers s _ rfl

/-- **Work on units and data** owes nothing new. -/
theorem Works.answers {ins lost : List WorkUnit} (h : Works s ins lost s') :
    Answers s 0 0 s' := by
  induction h with
  | done s => exact .refl s
  | next first later ih => exact first.answers.then ih

/-- Looking for work answers nobody. -/
theorem trySteal_answers (s : Server) : Answers s 0 0 s.trySteal := by
  obtain ⟨peers, out, e, steals⟩ := trySteal_eq s
  rw [e]
  refine answers_of_eq rfl rfl ?_
  have none_there : answersIn out = 0 := by
    have : out.filterMap (fun p => p.2.answers?.map fun tag => (p.1, tag)) = [] := by
      refine List.filterMap_eq_nil_iff.2 fun p hp => ?_
      obtain ⟨wanted, load, hp⟩ := steals p hp
      rw [hp]
      rfl
    rw [answersIn, this]
    rfl
  rw [answersIn_append, none_there, add_zero]

/-! ## Requests -/

/-- A request that is parked is owed its answer. -/
theorem park_answers (s : Server) (running : s.isShuttingDown = false) (p : Parked)
    (stats : ServerStats) :
    Answers s {(p.rank, p.tag)} {p}
      ({ s with waiting := s.waiting.park p, stats }.setWorker p.rank .parked) := by
  have parked : Multiset.ofList (s.waiting.park p).all = p ::ₘ s.parked :=
    Multiset.coe_eq_coe.2 (WaitingList.park_perm s.waiting p)
  refine ⟨?_, ?_, fun _ ended => ?_⟩
  · show (Multiset.ofList (s.waiting.park p).all).map _ + answersIn s.outbox = _
    rw [parked, Multiset.map_cons, ← Multiset.singleton_add, dues]
    abel
  · show Multiset.ofList (s.waiting.park p).all ≤ _
    rw [parked, ← Multiset.singleton_add, add_comm]
  · exact absurd ended (by rw [← Bool.not_eq_true] at running; exact running)

/-- **A request for work** is answered at once, or is outstanding. -/
theorem onGet_answers (s : Server) (running : s.isShuttingDown = false) (source : Rank)
    (tag : UInt64) (type : WorkType) :
    Answers s {(source, tag)} {⟨source, tag, type⟩} (s.onGet source tag type) := by
  unfold onGet
  split
  · exact (respond_answers s source tag _).mayPark _
  split
  · exact (respond_answers s source tag _).mayPark _
  split
  · rename_i u backlog popped
    have taken (stats : ServerStats) : Answers s 0 0 { s with backlog, stats } :=
      answers_of_eq rfl rfl rfl
    exact ((taken _).then (respond_answers _ source tag _)).mayPark _
  · simpa only [add_zero] using
      (park_answers s running ⟨source, tag, type⟩ _).trans (trySteal_answers _)

/-- A put is answered at once. -/
theorem onPut_answers (s : Server) (source : Rank) (tag : UInt64) (u : WorkUnit) :
    Answers s {(source, tag)} 0 (s.onPut source tag u) := by
  unfold onPut
  split
  · exact respond_answers s source tag _
  · have noted (stats : ServerStats) : Answers s 0 0 { s with stats } := answers_of_eq rfl rfl rfl
    exact ((noted _).then (submit_works _ u).1.answers).then (respond_answers _ source tag _)

/-- An operation on data is answered once its effects are carried out. -/
theorem onData_answers {op : Operation} (h : s.onData source tag op = .ok s') :
    Answers s {(source, tag)} 0 s' := by
  obtain ⟨o, -, h⟩ := bind_eq_ok h
  obtain ⟨s₁, hs₁, h⟩ := bind_eq_ok h
  cases h
  obtain ⟨⟨s₂, more⟩, hs₂, hs₁⟩ := bind_eq_ok hs₁
  cases hs₁
  have performed : Answers s 0 0 { s with shard := o.shard } := answers_of_eq rfl rfl rfl
  have noticed := performed.then (notifyAll_works _ o.effects.notices).answers
  have stored := noticed.then (storeReferences_works hs₂).answers
  exact (stored.then (notifyAll_works s₂ more).answers).then (respond_answers _ source tag _)

/-- A worker that leaves is answered. -/
theorem onFinalize_answers (s : Server) (source : Rank) (tag : UInt64) :
    Answers s {(source, tag)} 0 (s.onFinalize source tag) := by
  unfold onFinalize
  split
  · have left : Answers s 0 0 (s.setWorker source .finalized) := answers_of_eq rfl rfl rfl
    exact left.then (respond_answers _ source tag _)
  · exact respond_answers s source tag _

/-! ## Shutdown -/

/-- Answering parked requests one after the other. -/
theorem refuseAll_outbox (parked : List Parked) (s : Server) :
    answersIn (parked.foldl (fun s p => s.respond p.rank p.tag (.error .shutdown)) s).outbox =
      answersIn s.outbox + (Multiset.ofList parked).map fun p => (p.rank, p.tag) := by
  induction parked generalizing s with
  | nil => simp
  | cons p parked ih =>
    have one : answersIn (s.respond p.rank p.tag (.error .shutdown)).outbox =
        answersIn s.outbox + {(p.rank, p.tag)} := answersIn_append _ _
    rw [List.foldl_cons, ih, one, ← Multiset.cons_coe, Multiset.map_cons, ← Multiset.singleton_add]
    abel

theorem refuseAll_waiting (parked : List Parked) (s : Server) :
    (parked.foldl (fun s p => s.respond p.rank p.tag (.error .shutdown)) s).waiting =
      s.waiting := by
  induction parked generalizing s with
  | nil => rfl
  | cons p parked ih => exact ih _

/-- **A shutdown** answers all that is parked. -/
theorem beginShutdown_answers (s : Server) : Answers s 0 0 s.beginShutdown := by
  unfold beginShutdown
  split
  · exact .refl s
  have emptied : Multiset.ofList ((s.waiting.drain.1.foldl
      (fun (s : Server) p => s.respond p.rank p.tag (.error .shutdown))
      { s with phase := .shuttingDown, waiting := s.waiting.drain.2 }).waiting.all) = 0 := by
    rw [refuseAll_waiting]
    rfl
  have drained : Multiset.ofList s.waiting.drain.1 = s.parked :=
    Multiset.coe_eq_coe.2 (List.mergeSort_perm _ _)
  refine ⟨?_, ?_, fun _ _ => emptied⟩
  · show (Multiset.ofList _).map _ + answersIn (List.foldl _ _ _ : Server).outbox = s.dues + 0
    rw [emptied, refuseAll_outbox, drained, dues]
    simp only [Multiset.map_zero]
    abel
  · exact emptied.le.trans (Multiset.zero_le _)

/-- **The end of the run**: what was owed is ready to be sent. -/
theorem initiateShutdown_answers (s : Server) : Answers s 0 0 s.initiateShutdown := by
  unfold initiateShutdown
  split
  · exact .refl s
  · exact (sendAll_answers s _ rfl).then (beginShutdown_answers _)

/-- A verdict may bring the end. -/
theorem actOn_answers (s : Server) (verdict : Option Verdict) :
    Answers s 0 0 (s.actOn verdict) := by
  unfold actOn
  split
  · exact initiateShutdown_answers s
  · exact .refl s

/-- A worker that ends the run is answered. -/
theorem onServerShutdown_answers (s : Server) (source : Rank) (tag : UInt64) :
    Answers s {(source, tag)} 0 (s.onServerShutdown source tag) := by
  have told : Answers s 0 0 (if s.isMaster then s.initiateShutdown
      else s.send s.topology.master .shutdownRequested) := by
    split
    · exact initiateShutdown_answers s
    · exact send_answers s _ rfl
  exact told.then (respond_answers _ source tag _)

/-! ## Messages and ticks -/

/-- **A request that is carried out** is answered, or is outstanding if it is for work. -/
theorem onOwnRequest_answers {body : Request} (running : s.isShuttingDown = false)
    (h : s.onOwnRequest source tag body = .ok s') :
    Answers s {(source, tag)} (wantsIn [(source, .request tag body)]) s' := by
  cases body with
  | get type => cases h; exact onGet_answers s running source tag type
  | put u => cases h; exact onPut_answers s source tag u
  | data op => exact onData_answers h
  | serverIdle => cases h; exact respond_answers s source tag _
  | serverShutdown => cases h; exact onServerShutdown_answers s source tag
  | finalize => cases h; exact onFinalize_answers s source tag

theorem noteBusy_answers (s : Server) (source : Rank) : Answers s 0 0 (s.noteBusy source) := by
  obtain ⟨workers, e⟩ := noteBusy_eq s source
  rw [e]
  exact answers_of_eq rfl rfl rfl

/-- **A request** is answered, or parked if it is one for work. -/
theorem onRequest_answers {body : Request} (h : s.onRequest source tag body = .ok s') :
    Answers s {(source, tag)} (wantsIn [(source, .request tag body)]) s' := by
  unfold onRequest at h
  split at h
  · cases h
    split
    · exact (onFinalize_answers s source tag).mayPark _
    · exact (respond_answers s source tag _).mayPark _
  rename_i running
  split at h
  · cases h
    exact (respond_answers s source tag _).mayPark _
  · obtain ⟨s₁, hs₁, h⟩ := bind_eq_ok h
    cases h
    simpa only [add_zero] using
      (onOwnRequest_answers (by simpa using running) hs₁).trans (noteBusy_answers s₁ source)

/-- A report is no request. -/
theorem onIdleReply_answers {round : UInt64} {report : IdleReport}
    (h : s.onIdleReply source round report = .ok s') : Answers s 0 0 s' := by
  unfold onIdleReply at h
  split at h
  · obtain ⟨⟨votes, verdict⟩, -, h⟩ := bind_eq_ok h
    cases h
    have noted : Answers s 0 0 { s with votes } := answers_of_eq rfl rfl rfl
    exact noted.then (actOn_answers _ verdict)
  · cases h
    exact .refl s

/-- **Every message.** -/
theorem dispatch_answers (h : s.dispatch source m = .ok s') :
    Answers s (requestsIn [(source, m)]) (wantsIn [(source, m)]) s' := by
  cases m with
  | request tag body => exact onRequest_answers h
  | response | abort => cases h; exact .refl s
  | forwardPut u => cases h; exact (accept_works s u).answers
  | stealRequest wanted load =>
    cases h
    have taken (peers : Peers) (backlog : Backlog) (stats : ServerStats) :
        Answers s 0 0 { s with peers, backlog, stats } := answers_of_eq rfl rfl rfl
    exact (taken _ _ _).then (send_answers _ source rfl)
  | stealResponse units load =>
    cases h
    have noted (peers : Peers) (stats : ServerStats) : Answers s 0 0 { s with peers, stats } :=
      answers_of_eq rfl rfl rfl
    exact (noted _ _).then (acceptAll_works _ units).answers
  | idleQuery round => cases h; exact send_answers s source rfl
  | idleReply round report => exact onIdleReply_answers h
  | shutdown => cases h; exact beginShutdown_answers s
  | shutdownRequested =>
    cases h
    split
    · exact initiateShutdown_answers s
    · exact .refl s

/-- Opening a vote answers no request. -/
theorem startVote_answers (h : s.startVote = .ok s') : Answers s 0 0 s' := by
  obtain ⟨⟨votes, round⟩, -, h⟩ := bind_eq_ok h
  have noted (votes : Quiescence) (stats : ServerStats) : Answers s 0 0 { s with votes, stats } :=
    answers_of_eq rfl rfl rfl
  simp only at h
  split at h
  · obtain ⟨⟨votes', verdict⟩, -, h⟩ := bind_eq_ok h
    cases h
    exact (noted _ _).then (actOn_answers _ verdict)
  · cases h
    exact (noted _ _).then (sendAll_answers _ _ rfl)

end Server

/-- The message that is handled, if it is one. -/
def Input.messages : Input → List (Rank × Message)
  | .message source m => [(source, m)]
  | .stealTick | .idleTick => []

namespace Server

variable {s s' : Server} {input : Input} {flow : Flow}

/-- **Every step** owes one answer for each request. -/
theorem step_answers (h : s.step input = .ok (s', flow)) :
    Answers s (requestsIn input.messages) (wantsIn input.messages) s' := by
  cases input with
  | message source m =>
    have counted : Answers s 0 0 (s.countArrival source m) := by
      rw [countArrival_eq]
      exact answers_of_eq rfl rfl rfl
    exact counted.then (dispatch_answers (handle_eq_ok h).1)
  | stealTick =>
    cases h
    exact trySteal_answers s
  | idleTick =>
    change s.onIdleTick = .ok (s', flow) at h
    unfold onIdleTick at h
    split at h
    · obtain ⟨s₁, hs₁, h⟩ := bind_eq_ok h
      cases h
      exact startVote_answers hs₁
    · cases h
      exact .refl s

/-! ## Every run -/

/-- What went through a server: the messages it has handled, and those that were passed on from
its outbox. -/
structure Traffic where
  handled : List (Rank × Message) := []
  sent : List (Rank × Message) := []

/-- What can be done with a server. -/
inductive Turn where
  /-- something happens to it -/
  | step (input : Input)
  /-- its outbox is passed on -/
  | passOn

/-- One turn of a server, with the messages that go through it. -/
def turn (s : Server) (t : Traffic) : Turn → Except Fault (Server × Traffic)
  | .step input => do
    let (s, _) ← s.step input
    return (s, { t with handled := t.handled ++ input.messages })
  | .passOn => return (s.takeOutbox.1, { t with sent := t.sent ++ s.takeOutbox.2 })

/-- A run of one server. -/
def serve (s : Server) (t : Traffic) : List Turn → Except Fault (Server × Traffic)
  | [] => return (s, t)
  | next :: turns => do
    let (s, t) ← s.turn t next
    s.serve t turns

/-- **A run keeps what its turns keep.** -/
theorem serve_induction {P : Server → Traffic → Prop}
    (hturn : ∀ s t next s' t', P s t → s.turn t next = .ok (s', t') → P s' t') {t t' : Traffic}
    {turns : List Turn} (start : P s t) (h : s.serve t turns = .ok (s', t')) : P s' t' := by
  induction turns generalizing s t with
  | nil =>
    cases h
    exact start
  | cons next turns ih =>
    obtain ⟨⟨s₁, t₁⟩, first, h⟩ := bind_eq_ok h
    exact ih (hturn s t next s₁ t₁ start first) h

/-- Every request that was handled is answered or parked. -/
structure Accounted (s : Server) (t : Traffic) : Prop where
  account : requestsIn t.handled = answersIn t.sent + s.dues
  parked : s.parked ≤ wantsIn t.handled
  rests : s.Rests

variable {t t' : Traffic}

/-- **One turn** keeps the account; what was ready is sent when the outbox is taken. -/
theorem Accounted.turn {next : Turn} (h : Accounted s t) (hturn : s.turn t next = .ok (s', t')) :
    Accounted s' t' := by
  cases next with
  | step input =>
    obtain ⟨⟨s₁, flow⟩, hstep, hturn⟩ := bind_eq_ok hturn
    cases hturn
    have answers := step_answers hstep
    refine ⟨?_, ?_, answers.rests h.rests⟩
    · rw [requestsIn_append, h.account, answers.dues, add_assoc]
    · rw [wantsIn_append]
      refine answers.parked.trans ?_
      gcongr
      exact h.parked
  | passOn =>
    cases hturn
    refine ⟨?_, h.parked, h.rests⟩
    have ready : s.dues = s.takeOutbox.1.dues + answersIn s.outbox := by
      show _ = s.parked.map _ + answersIn [] + answersIn s.outbox
      rw [dues, show answersIn [] = 0 from rfl, add_zero]
    show requestsIn t.handled = answersIn (t.sent ++ s.outbox) + s.takeOutbox.1.dues
    rw [h.account, answersIn_append, ready]
    abel

/-- **Every run** keeps the account. -/
theorem Accounted.serve {turns : List Turn} (h : Accounted s t)
    (hserve : s.serve t turns = .ok (s', t')) : Accounted s' t' :=
  serve_induction (fun _ _ _ _ _ accounted hturn => accounted.turn hturn) h hserve

/-- A new server has handled nothing and owes nothing. -/
theorem accounted_new {rank : Rank} {settings : Settings}
    (h : Server.new rank settings = .ok (.ok s)) : Accounted s {} := by
  obtain ⟨isServer, -, h⟩ := bind_eq_ok h
  split at h
  · cases h
    exact ⟨rfl, Multiset.zero_le _, fun _ => rfl⟩
  · cases h

/-- **Every request is answered once.** Whatever messages and ticks a new server has handled, and
whenever its outbox was passed on,

* the requests that it has handled are, one for one by sender and tag, those that it has answered
  and those that it has parked;
* what is parked are requests for work that it has handled;
* if it shuts down, nothing is parked, and every request has been answered once. -/
theorem requests_answered_once (rank : Rank) (settings : Settings) {s₀ : Server}
    (hnew : Server.new rank settings = .ok (.ok s₀)) (turns : List Turn)
    (hserve : s₀.serve {} turns = .ok (s, t)) :
    requestsIn t.handled =
      answersIn (t.sent ++ s.outbox) + s.parked.map (fun p => (p.rank, p.tag)) ∧
    s.parked ≤ wantsIn t.handled ∧
    (s.isShuttingDown = true →
      s.parked = 0 ∧ requestsIn t.handled = answersIn (t.sent ++ s.outbox)) := by
  have accounted := (accounted_new hnew).serve hserve
  have account : requestsIn t.handled =
      answersIn (t.sent ++ s.outbox) + s.parked.map (fun p => (p.rank, p.tag)) := by
    rw [accounted.account, answersIn_append, dues]
    abel
  refine ⟨account, accounted.parked, fun ended => ?_⟩
  have none_left := accounted.rests ended
  refine ⟨none_left, ?_⟩
  rw [account, none_left, Multiset.map_zero, add_zero]

/-- One worker waits and is handed a unit that another puts; then it waits again, and the run
ends. -/
def waitAndEnd : List Turn :=
  [.step (.message 0 (.request 7 (.get 0))), .step .stealTick,
    .step (.message 1 (.request 3 (.put ⟨[5], none, 1, 0, 0⟩))), .passOn,
    .step (.message 0 (.request 8 (.get 0))), .step (.message 1 (.request 4 .serverShutdown))]

/-- All four requests are answered, the one that waits when the run ends too. -/
theorem requests_answered_once_end : ∃ s₀ s t,
    Server.new 2 { servers := 1, workers := 2, workTypes := [0] } = .ok (.ok s₀) ∧
    s₀.serve {} waitAndEnd = .ok (s, t) ∧ s.isShuttingDown = true ∧
    requestsIn t.handled = {(0, 7), (1, 3), (0, 8), (1, 4)} ∧
    requestsIn t.handled = answersIn (t.sent ++ s.outbox) := by
  obtain ⟨s₀, hnew⟩ : ∃ s₀, Server.new 2 { servers := 1, workers := 2, workTypes := [0] } =
    .ok (.ok s₀) := ⟨_, rfl⟩
  -- only what the kernel can compare is computed here: the parked requests are sorted by a
  -- recursion that does not unfold by itself
  have ran : (do
      match ← Server.new 2 { servers := 1, workers := 2, workTypes := [0] } with
      | .ok s₀ => (s₀.serve {} waitAndEnd).map fun (r : Server × Traffic) =>
          (r.1.isShuttingDown, requestsIn r.2.handled)
      | .error _ => .error .addOverflow) =
      .ok (true, {(0, 7), (1, 3), (0, 8), (1, 4)}) := by decide +kernel
  rw [hnew] at ran
  obtain ⟨⟨s, t⟩, hserve, facts⟩ := map_eq_ok ran
  obtain ⟨ended, handled⟩ := Prod.mk.inj facts
  have served := requests_answered_once 2 { servers := 1, workers := 2, workTypes := [0] } hnew
    waitAndEnd hserve
  exact ⟨s₀, s, t, hnew, hserve, ended, handled, (served.2.2 ended).2⟩

end Server

end WorkPool
