import WorkPool.Proofs.World.Calm

/-!
# Workers: what is outstanding for each of them

A worker waits for the answer to what it asked for. So at any moment at most one thing is
**outstanding** for it: its request is in flight, or it is parked at the worker's home, or the
answer is in flight. `Attended` adds what is known of a worker that leaves: it waits for no
unit, and none is on its way to it.

Where a worker's home has nothing to do, the worker is parked or has left, and it asks for
nothing until something is sent to it (`Attended.at_rest`).
-/

namespace WorkPool

namespace Occupation

/-- How many answers a worker waits for. -/
def awaited : Occupation → Nat
  | .waiting _ | .leaving _ => 1
  | .free | .gone => 0

/-- Whether a worker has asked for leave. -/
def isLeaving : Occupation → Bool
  | .leaving _ | .gone => true
  | .free | .waiting _ => false

/-- A worker waits for one answer at most. -/
theorem awaited_le_one (o : Occupation) : o.awaited ≤ 1 := by
  cases o with
  | free | gone => exact Nat.zero_le 1
  | waiting | leaving => exact Nat.le_refl 1

@[simp] theorem isLeaving_receive (o : Occupation) (m : Message) :
    (o.receive m).isLeaving = o.isLeaving := by
  unfold receive
  split
  · split <;> rfl
  · split <;> rfl
  · rfl

/-- What is no response means nothing to a worker. -/
theorem receive_of_not_isResponse (o : Occupation) {m : Message} (h : m.isResponse = false) :
    o.receive m = o := by
  unfold receive
  split
  · cases h
  · cases h
  · rfl

end Occupation

namespace World

variable {w w' : World} {settings : Settings} {x : Rank}

/-! ## Counting -/

/-- How many requests of a rank are in flight. -/
def asking (flight : List Envelope) (x : Rank) : Nat :=
  flight.countP fun e => e.source == x && e.message.isRequest

/-- How many answers to a rank are in flight. -/
def answering (flight : List Envelope) (x : Rank) : Nat :=
  flight.countP fun e => e.dest == x && e.message.isResponse

theorem asking_append (a b : List Envelope) (x : Rank) :
    asking (a ++ b) x = asking a x + asking b x := List.countP_append

theorem answering_append (a b : List Envelope) (x : Rank) :
    answering (a ++ b) x = answering a x + answering b x := List.countP_append

/-- What is taken up is no longer in flight. -/
theorem asking_taken {flight rest : List Envelope} {e : Envelope} (h : flight.Perm (e :: rest))
    (x : Rank) : asking flight x =
      asking rest x + if e.source == x && e.message.isRequest then 1 else 0 := by
  rw [asking, h.countP_eq, List.countP_cons]
  rfl

theorem answering_taken {flight rest : List Envelope} {e : Envelope} (h : flight.Perm (e :: rest))
    (x : Rank) : answering flight x =
      answering rest x + if e.dest == x && e.message.isResponse then 1 else 0 := by
  rw [answering, h.countP_eq, List.countP_cons]
  rfl

theorem asking_post_of_ne {r : Rank} (h : r ≠ x) (out : List (Rank × Message)) :
    asking (post r out) x = 0 := by
  refine List.countP_eq_zero.2 fun e he => ?_
  simp [(mem_post he).1, h]

/-- The answers that a server sends are on their way. -/
theorem answering_post (r : Rank) (out : List (Rank × Message)) (x : Rank) :
    answering (post r out) x = answersTo x out := by
  rw [answering, post, List.countP_map]
  rfl

theorem asking_pos {flight : List Envelope} {e : Envelope} (he : e ∈ flight)
    (source : e.source = x) (kind : e.message.isRequest = true) : 0 < asking flight x :=
  List.countP_pos_iff.2 ⟨e, he, by simp [source, kind]⟩

theorem answering_pos {flight : List Envelope} {e : Envelope} (he : e ∈ flight)
    (dest : e.dest = x) (kind : e.message.isResponse = true) : 0 < answering flight x :=
  List.countP_pos_iff.2 ⟨e, he, by simp [dest, kind]⟩

end World

namespace Message

theorem isRequest_of_isFinalize {m : Message} (h : m.isFinalize = true) : m.isRequest = true := by
  cases m with
  | request => rfl
  | _ => cases h

theorem isGet_of_isFinalize {m : Message} (h : m.isFinalize = true) : m.isGet = false := by
  cases m with
  | request tag body =>
    cases body with
    | get => cases h
    | _ => rfl
  | _ => rfl

theorem isRequest_of_isGet {m : Message} (h : m.isGet = true) : m.isRequest = true := by
  cases m with
  | request => rfl
  | _ => cases h

end Message

namespace World

variable {w w' : World} {settings : Settings} {x : Rank}

/-! ## What is known of a worker -/

/-- The server that parks the requests of a worker. -/
def home (w : World) (x : Rank) : Server := w.servers (w.topology.homeServer x)

theorem home_served (w : World) (r : Rank) (s : Server) (x : Rank) :
    (w.served r s).home x =
      if w.topology.homeServer x = r then { s with outbox := [] } else w.home x := rfl

/-- What is known of a worker at any moment. -/
structure Attended (w : World) (x : Rank) : Prop where
  /-- nothing is outstanding but what it waits for -/
  outstanding : asking w.flight x + answering w.flight x + (w.home x).parkedFor x ≤
    (w.workers x).awaited
  /-- its home knows it -/
  attached : (w.home x).workers.contains x = true
  /-- no other server parks its requests -/
  strayed : ∀ r, w.topology.isServer r = true → r ≠ w.topology.homeServer x →
    (w.servers r).parkedFor x = 0
  /-- if it has left a server, it asks for nothing more -/
  finalized : ∀ r, w.topology.isServer r = true →
    (w.servers r).workers.find? x = some .finalized →
      (w.workers x).isLeaving = true ∧ asking w.flight x = 0
  /-- who asks for leave, leaves -/
  leaves : ∀ e ∈ w.flight, e.source = x → e.message.isFinalize = true →
    (w.workers x).isLeaving = true
  /-- a worker that leaves waits for no unit -/
  parts : (w.workers x).isLeaving = true → (w.home x).parkedFor x = 0
  /-- none is on its way to it -/
  spared : (w.workers x).isLeaving = true → ∀ e ∈ w.flight, e.dest = x → e.message.work? = none
  /-- and it asks for nothing but leave -/
  asksLeave : (w.workers x).isLeaving = true → ∀ e ∈ w.flight, e.source = x →
    e.message.isRequest = true → e.message.isFinalize = true

/-- At the start nothing is outstanding. -/
theorem Start.attended (h : Start settings w) (proper : w.topology.Proper)
    (hx : w.topology.isWorker x = true) : w.Attended x := by
  have server := Topology.isServer_homeServer proper.fits proper.served x
  have none (r : Rank) (server : w.topology.isServer r = true) : (w.servers r).parkedFor x = 0 := by
    rw [h.server server]
    rfl
  have free : (w.workers x).isLeaving = false := by rw [h.workers x]; rfl
  refine { outstanding := ?_, attached := ?_, strayed := fun r server _ => none r server,
           finalized := fun r server hr => absurd (h.busy server hr) nofun, leaves := ?_,
           parts := ?_, spared := ?_, asksLeave := ?_ }
  · rw [home, none _ server, h.flight, h.workers x]
    exact Nat.le_refl 0
  · rw [home, h.server server]
    rw [h.topology] at hx ⊢
    refine (Table.contains_foldl_insert _ _ _).2 (.inl ?_)
    rw [List.map_map]
    exact List.mem_map.2 ⟨x, Topology.mem_attached_homeServer hx, rfl⟩
  · intro e he
    rw [h.flight] at he
    cases he
  · intro leaving
    rw [free] at leaving
    cases leaving
  · intro _ e he
    rw [h.flight] at he
    cases he
  · intro _ e he
    rw [h.flight] at he
    cases he

/-- A message is taken out of flight. -/
theorem Attended.take (h : w.Attended x) {e : Envelope} {rest : List Envelope}
    (taken : w.flight.Perm (e :: rest)) : ({ w with flight := rest } : World).Attended x := by
  have asks := asking_taken taken x
  have answers := answering_taken taken x
  have before := h.outstanding
  refine { h with outstanding := ?_, finalized := fun r server hr => ?_, leaves := ?_,
                  spared := ?_, asksLeave := ?_ }
  · show asking rest x + answering rest x + (w.home x).parkedFor x ≤ (w.workers x).awaited
    omega
  · obtain ⟨leaving, none⟩ := h.finalized r server hr
    exact ⟨leaving, show asking rest x = 0 by omega⟩
  · exact fun e he => h.leaves e (mem_of_taken taken he)
  · exact fun leaving e he => h.spared leaving e (mem_of_taken taken he)
  · exact fun leaving e he => h.asksLeave leaving e (mem_of_taken taken he)

/-- Messages are sent that are neither requests of the worker nor answers to it. -/
theorem Attended.send (h : w.Attended x) {new : List Envelope}
    (asks : ∀ e ∈ new, e.source = x → e.message.isRequest = false)
    (answers : ∀ e ∈ new, e.message.isResponse = false) : (w.send new).Attended x := by
  have asking_eq : asking (w.flight ++ new) x = asking w.flight x := by
    rw [asking_append, Nat.add_eq_left]
    refine List.countP_eq_zero.2 fun e he both => ?_
    rw [Bool.and_eq_true, beq_iff_eq] at both
    rw [asks e he both.1] at both
    cases both.2
  have answering_eq : answering (w.flight ++ new) x = answering w.flight x := by
    rw [answering_append, Nat.add_eq_left]
    refine List.countP_eq_zero.2 fun e he => ?_
    simp [answers e he]
  refine { h with outstanding := ?_, finalized := fun r server hr => ?_,
                  leaves := fun e he source kind => ?_,
                  spared := fun leaving e he dest => ?_,
                  asksLeave := fun leaving e he source kind => ?_ }
  · show asking (w.flight ++ new) x + answering (w.flight ++ new) x + (w.home x).parkedFor x ≤ _
    rw [asking_eq, answering_eq]
    exact h.outstanding
  · obtain ⟨leaving, none⟩ := h.finalized r server hr
    exact ⟨leaving, asking_eq.trans none⟩
  · rcases List.mem_append.1 he with he | he
    · exact h.leaves e he source kind
    · have request := Message.isRequest_of_isFinalize kind
      rw [asks e he source] at request
      cases request
  · rcases List.mem_append.1 he with he | he
    · exact h.spared leaving e he dest
    · cases hu : e.message.work? with
      | none => rfl
      | some u =>
        have response := Message.isResponse_of_work? hu
        rw [answers e he] at response
        cases response
  · rcases List.mem_append.1 he with he | he
    · exact h.asksLeave leaving e he source kind
    · rw [asks e he source] at kind
      cases kind

/-- A server is replaced by one that parks the same requests and knows the same of its
workers. -/
theorem Attended.setServer (h : w.Attended x) {r : Rank} {s : Server}
    (waiting : s.waiting = (w.servers r).waiting) (workers : s.workers = (w.servers r).workers) :
    (w.setServer r s).Attended x := by
  have parked (y : Rank) : ((w.setServer r s).servers y).parkedFor x =
      (w.servers y).parkedFor x := by
    by_cases hy : y = r
    · rw [hy, servers_setServer_self, Server.parkedFor, waiting]
      rfl
    · rw [servers_setServer_ne w s hy]
  have known (y : Rank) : ((w.setServer r s).servers y).workers = (w.servers y).workers := by
    by_cases hy : y = r
    · rw [hy, servers_setServer_self, workers]
    · rw [servers_setServer_ne w s hy]
  refine { h with outstanding := ?_, attached := ?_, strayed := fun y server away => ?_,
                  finalized := fun y server hy => ?_, parts := fun leaving => ?_ }
  · rw [home, parked]
    exact h.outstanding
  · rw [home, known]
    exact h.attached
  · rw [parked]
    exact h.strayed y server away
  · rw [known] at hy
    exact h.finalized y server hy
  · rw [home, parked]
    exact h.parts leaving

@[simp] theorem workers_setWorker_self (w : World) (x : Rank) (o : Occupation) :
    (w.setWorker x o).workers x = o := if_pos rfl

/-- Another worker does something. -/
theorem Attended.setWorker_ne (h : w.Attended x) {y : Rank} (hy : x ≠ y) (o : Occupation) :
    (w.setWorker y o).Attended x := by
  have same : (w.setWorker y o).workers x = w.workers x := if_neg hy
  refine { attached := h.attached, strayed := h.strayed, outstanding := ?_, finalized := ?_,
           leaves := ?_, parts := ?_, spared := ?_, asksLeave := ?_ }
  all_goals rw [same]
  · exact h.outstanding
  · exact h.finalized
  · exact h.leaves
  · exact h.parts
  · exact h.spared
  · exact h.asksLeave

/-! ## What happens to a worker -/

/-- A server is no worker. -/
theorem ne_of_isWorker {r : Rank} (hx : w.topology.isWorker x = true)
    (server : w.topology.isServer r = true) : r ≠ x := by
  rintro rfl
  rw [Topology.isServer_of_isWorker hx] at server
  cases server

/-- A worker asks for work at its home only. -/
theorem InService.get_at_home (hw : w.InService settings) (hx : w.topology.isWorker x = true)
    {dest : Rank} {m : Message} (he : ⟨x, dest, m⟩ ∈ w.flight) (get : m.isGet = true) :
    dest = w.topology.homeServer x := by
  rcases hw.routed _ he with ⟨tag, body, rfl, may⟩ | ⟨server, -⟩
  · cases body with
    | get type => exact beq_iff_eq.1 (Bool.and_eq_true_iff.1 may).2
    | _ => cases get
  · exact absurd rfl (ne_of_isWorker hx server)

/-- A worker that leaves does not ask for work. -/
theorem Attended.not_isGet (h : w.Attended x) (leaving : (w.workers x).isLeaving = true)
    {dest : Rank} {m : Message} (he : ⟨x, dest, m⟩ ∈ w.flight) : m.isGet = false := by
  cases get : m.isGet with
  | false => rfl
  | true =>
    have finalize := h.asksLeave leaving _ he rfl (Message.isRequest_of_isGet get)
    exact get.symm.trans (Message.isGet_of_isFinalize finalize)

/-- A worker that leaves is not parked anywhere. -/
theorem Attended.not_parked (h : w.Attended x) (leaving : (w.workers x).isLeaving = true)
    {r : Rank} (server : w.topology.isServer r = true) : (w.servers r).parkedFor x = 0 := by
  by_cases hr : r = w.topology.homeServer x
  · rw [hr]
    exact h.parts leaving
  · exact h.strayed r server hr

section Handle

variable {source dest : Rank} {m : Message} {rest : List Envelope} {s : Server}

/-- A server that handles a message parks the request of a worker only if it is that message. -/
theorem parkedFor_handle (handled : ((w.servers dest).countArrival source m).Handled source m s)
    (x r : Rank) : (({ w with flight := rest }.served dest s).servers r).parkedFor x ≤
      (w.servers r).parkedFor x ∨ r = dest ∧ source = x ∧ m.isGet = true := by
  by_cases hr : r = dest
  · subst hr
    rw [servers_served_self]
    have parked := handled.parked x
    rw [Server.parkedFor_countArrival] at parked
    by_cases get : source = x ∧ m.isGet = true
    · exact .inr ⟨rfl, get⟩
    · rw [if_neg (by simpa [and_comm] using get)] at parked
      exact .inl parked
  · rw [servers_served_ne _ s hr]
    exact .inl (Nat.le_refl _)

/-- What a server owes a worker after it has handled a message: one answer more if it was a
request of the worker. -/
theorem InService.owed_handle (hw : w.InService settings) (server : w.topology.isServer dest = true)
    (handled : ((w.servers dest).countArrival source m).Handled source m s) (x : Rank) :
    s.parkedFor x + answersTo x s.outbox ≤ (w.servers dest).parkedFor x +
      if source == x && m.isRequest then 1 else 0 := by
  have owed := handled.owed x
  rw [Server.owed, Server.owed, Server.parkedFor_countArrival, Server.outbox_countArrival,
    (hw.servers dest server).outbox, Bool.and_comm] at owed
  exact owed

/-- Handling a message does not make more outstanding for a worker. -/
theorem Attended.outstanding_handle (h : w.Attended x) (hw : w.InService settings)
    (hx : w.topology.isWorker x = true) (server : w.topology.isServer dest = true)
    (taken : w.flight.Perm (⟨source, dest, m⟩ :: rest))
    (handled : ((w.servers dest).countArrival source m).Handled source m s) :
    asking (rest ++ post dest s.outbox) x + answering (rest ++ post dest s.outbox) x +
      (({ w with flight := rest }.served dest s).home x).parkedFor x ≤ (w.workers x).awaited := by
  have asks : asking w.flight x = asking rest x + if source == x && m.isRequest then 1 else 0 :=
    asking_taken taken x
  have answers := answering_taken taken x
  have owed := hw.owed_handle server handled x
  have before := h.outstanding
  have other := ne_of_isWorker hx server
  rw [asking_append, asking_post_of_ne other, answering_append, answering_post]
  rw [home_served]
  split
  · rename_i here
    have parked : ({ s with outbox := [] } : Server).parkedFor x = s.parkedFor x := rfl
    rw [home, here] at before
    rw [parked]
    omega
  · rename_i away
    have strayed := h.strayed dest server (Ne.symm away)
    have same : ({ w with flight := rest } : World).home x = w.home x := rfl
    rw [same]
    omega

/-- Whom a server lets go has asked for leave, and for nothing else: at most one thing is
outstanding. -/
theorem Attended.finalized_handle (h : w.Attended x) (hx : w.topology.isWorker x = true)
    (server : w.topology.isServer dest = true)
    (taken : w.flight.Perm (⟨source, dest, m⟩ :: rest))
    (handled : ((w.servers dest).countArrival source m).Handled source m s) (r : Rank)
    (isServer : w.topology.isServer r = true)
    (hr : (({ w with flight := rest }.served dest s).servers r).workers.find? x =
      some .finalized) :
    (w.workers x).isLeaving = true ∧ asking (rest ++ post dest s.outbox) x = 0 := by
  have asks : asking w.flight x = asking rest x + if source == x && m.isRequest then 1 else 0 :=
    asking_taken taken x
  have asks' : asking (rest ++ post dest s.outbox) x = asking rest x := by
    rw [asking_append, asking_post_of_ne (ne_of_isWorker hx server)]
    rfl
  have kept (before : (w.servers r).workers.find? x = some .finalized) :
      (w.workers x).isLeaving = true ∧ asking (rest ++ post dest s.outbox) x = 0 := by
    obtain ⟨leaving, none⟩ := h.finalized r isServer before
    exact ⟨leaving, by omega⟩
  by_cases here : r = dest
  · subst here
    rw [servers_served_self] at hr
    rcases handled.finalized x hr with before | ⟨rfl, finalize⟩
    · rw [Server.workers_countArrival] at before
      exact kept before
    · have cause := taken.mem_iff.2 List.mem_cons_self
      have request := Message.isRequest_of_isFinalize finalize
      have one := Nat.le_trans h.outstanding (w.workers source).awaited_le_one
      rw [beq_self_eq_true, request, Bool.and_self, if_pos rfl] at asks
      exact ⟨h.leaves _ cause rfl finalize, asks'.trans (by omega)⟩
  · rw [servers_served_ne _ s here] at hr
    exact kept hr

/-- **A server handles a message.** What is in flight now was so before, or was sent by the server.
-/
theorem Attended.handle (h : w.Attended x) (hw : w.InService settings)
    (hx : w.topology.isWorker x = true) (server : w.topology.isServer dest = true)
    (taken : w.flight.Perm (⟨source, dest, m⟩ :: rest))
    (handled : ((w.servers dest).countArrival source m).Handled source m s) :
    ({ w with flight := rest }.served dest s).Attended x := by
  have cause : ⟨source, dest, m⟩ ∈ w.flight := taken.mem_iff.2 List.mem_cons_self
  have other := ne_of_isWorker hx server
  have inFlight {e : Envelope} (he : e ∈ rest ++ post dest s.outbox) :
      e ∈ w.flight ∨ e.source = dest ∧ (w.servers dest).MaySend source m (e.dest, e.message) := by
    rcases List.mem_append.1 he with he | he
    · exact .inl (mem_of_taken taken he)
    · obtain ⟨sent, hp⟩ := mem_post he
      exact .inr ⟨sent, hw.sends server handled hp⟩
  refine { outstanding := h.outstanding_handle hw hx server taken handled, attached := ?_,
           strayed := ?_, finalized := h.finalized_handle hx server taken handled,
           leaves := ?_, parts := ?_, spared := ?_, asksLeave := ?_ }
  · rw [home_served]
    split
    · rename_i here
      have before := h.attached
      rw [home, here] at before
      refine handled.attached x ?_
      rw [Server.workers_countArrival]
      exact before
    · exact h.attached
  · intro r isServer away
    rcases parkedFor_handle handled x r with le | ⟨rfl, rfl, get⟩
    · exact Nat.le_zero.1 (h.strayed r isServer away ▸ le)
    · exact absurd (hw.get_at_home hx cause get) away
  · intro e he source kind
    rcases inFlight he with he | ⟨sent, -⟩
    · exact h.leaves e he source kind
    · exact absurd (sent.symm.trans source) other
  · intro leaving
    rcases parkedFor_handle handled x (w.topology.homeServer x) with le | ⟨rfl, rfl, get⟩
    · exact Nat.le_zero.1 (h.parts leaving ▸ le)
    · rw [h.not_isGet leaving cause] at get
      cases get
  · intro leaving e he receiver
    rcases inFlight he with he | ⟨-, may⟩
    · exact h.spared leaving e he receiver
    cases hu : e.message.work? with
    | none => rfl
    | some u =>
      obtain ⟨tag, eq⟩ := Message.eq_of_work? hu
      rw [eq, receiver] at may
      rcases may with waits | ⟨rfl, get⟩
      · rw [h.not_parked leaving server] at waits
        cases waits
      · rw [h.not_isGet leaving cause] at get
        cases get
  · intro leaving e he source kind
    rcases inFlight he with he | ⟨sent, -⟩
    · exact h.asksLeave leaving e he source kind
    · exact absurd (sent.symm.trans source) other

end Handle

/-- Nothing is in flight for a worker that is free. -/
theorem Attended.of_free (h : w.Attended x) (free : w.workers x = .free) :
    asking w.flight x = 0 ∧ answering w.flight x = 0 ∧ (w.home x).parkedFor x = 0 := by
  have outstanding := h.outstanding
  rw [free, Occupation.awaited] at outstanding
  omega

/-- The worker asks for something, and that is all that is in flight from it. -/
theorem Attended.ask_self (h : w.Attended x) (free : w.workers x = .free) (dest : Rank)
    (tag : UInt64) (body : Request) :
    ((w.setWorker x (if body = .finalize then .leaving tag else .waiting tag)).send
      [⟨x, dest, .request tag body⟩]).Attended x := by
  obtain ⟨asks, answers, parked⟩ := h.of_free free
  have one : asking (w.flight ++ [⟨x, dest, .request tag body⟩]) x = 1 := by
    rw [asking_append, asks]
    simp [asking, Message.isRequest]
  have none : answering (w.flight ++ [⟨x, dest, .request tag body⟩]) x = 0 := by
    rw [answering_append, answers]
    simp [answering, Message.isResponse]
  have only {e : Envelope} (he : e ∈ w.flight ++ [⟨x, dest, .request tag body⟩])
      (source : e.source = x) (kind : e.message.isRequest = true) :
      e.message = .request tag body := by
    rcases List.mem_append.1 he with he | he
    · have := asking_pos he source kind
      omega
    · rw [List.mem_singleton.1 he]
  refine { outstanding := ?_, attached := h.attached, strayed := h.strayed, finalized := ?_,
           leaves := ?_, parts := fun _ => parked, spared := ?_, asksLeave := ?_ }
  · show asking (w.flight ++ _) x + answering (w.flight ++ _) x + (w.home x).parkedFor x ≤
      ((w.setWorker x _).workers x).awaited
    rw [one, none, parked, workers_setWorker_self]
    split <;> exact Nat.le_refl 1
  · intro r server hr
    have leaving := (h.finalized r server hr).1
    rw [free] at leaving
    cases leaving
  · intro e he source kind
    rw [only he source (Message.isRequest_of_isFinalize kind)] at kind
    show ((w.setWorker x _).workers x).isLeaving = true
    rw [workers_setWorker_self]
    cases body with
    | finalize => rfl
    | _ => cases kind
  · intro _ e he dest
    cases hu : e.message.work? with
    | none => rfl
    | some u =>
      have some := answering_pos he dest (Message.isResponse_of_work? hu)
      exact absurd none (Nat.ne_of_gt some)
  · intro leaving e he source kind
    have leaving : ((w.setWorker x _).workers x).isLeaving = true := leaving
    rw [workers_setWorker_self] at leaving
    rw [only he source kind]
    cases body with
    | finalize => rfl
    | _ => cases leaving

/-- The worker takes up a message. An answer is all that was outstanding, so it does not matter what
the worker takes it for. -/
theorem Attended.receive_self (h : w.Attended x) {source : Rank} {m : Message}
    {rest : List Envelope} (taken : w.flight.Perm (⟨source, x, m⟩ :: rest)) :
    ({ w with flight := rest }.setWorker x ((w.workers x).receive m)).Attended x := by
  have later := h.take taken
  cases kind : m.isResponse with
  | false =>
    have same : ({ w with flight := rest }.setWorker x ((w.workers x).receive m)) =
        { w with flight := rest } := by
      rw [Occupation.receive_of_not_isResponse _ kind, setWorker]
      congr
      funext y
      split
      · rename_i h
        rw [h]
      · rfl
    rw [same]
    exact later
  | true =>
    have answers := answering_taken taken x
    rw [beq_self_eq_true, kind, Bool.and_self, if_pos rfl] at answers
    have one := Nat.le_trans h.outstanding (w.workers x).awaited_le_one
    have asks := asking_taken taken x
    refine { attached := later.attached, strayed := later.strayed, outstanding := ?_,
             finalized := ?_, leaves := ?_, parts := ?_, spared := ?_, asksLeave := ?_ }
    · show asking rest x + answering rest x + (w.home x).parkedFor x ≤ _
      omega
    all_goals rw [workers_setWorker_self, Occupation.isLeaving_receive]
    · exact later.finalized
    · exact later.leaves
    · exact later.parts
    · exact later.spared
    · exact later.asksLeave

/-- **What is known of a worker** stays so while the master serves. -/
theorem Calm.attended (h : Calm w w') (hw : w.InService settings)
    (hx : w.topology.isWorker x = true) (ha : w.Attended x) : w'.Attended x := by
  have master := hw.proper.isServer_master
  cases h with
  | handle server taken kind handled fits still => exact ha.handle hw hx server taken handled
  | report server taken recorded => exact (ha.take taken).setServer rfl rfl
  | @stealTick r server =>
    obtain ⟨peers, out, eq, kinds⟩ := Server.trySteal_eq (w.servers r)
    have outbox := (hw.servers r server).outbox
    rw [served, eq]
    refine (ha.setServer (s := { w.servers r with peers, outbox := [] }) rfl rfl).send
      (fun e he _ => ?_) fun e he => ?_
    all_goals
      rw [outbox] at he
      obtain ⟨wanted, load, kind⟩ := kinds _ (mem_post he).2
      rw [show e.message = .stealRequest wanted load from kind]
      rfl
  | @openRound votes round stats voting idle opened =>
    refine (ha.setServer (s := { w.servers w.topology.master with votes, stats, outbox := [] })
      rfl rfl).send (fun e he _ => ?_) fun e he => ?_
    all_goals
      obtain ⟨r, -, eq⟩ := List.mem_map.1 (mem_post he).2
      rw [show e.message = .idleQuery round from (congrArg Prod.snd eq).symm]
      rfl
  | soleRound idle opened concluded => exact ha.setServer rfl rfl
  | rest => exact ha
  | @ask worker dest tag body may free =>
    by_cases own : x = worker
    · subst own
      exact ha.ask_self free dest tag body
    · refine (ha.setWorker_ne own _).send (fun e he source => ?_) fun e he => ?_
      · rw [List.mem_singleton.1 he] at source
        exact absurd source.symm own
      · rw [List.mem_singleton.1 he]
        rfl
  | @receive source worker m rest is taken =>
    by_cases own : x = worker
    · subst own
      exact ha.receive_self taken
    · exact (ha.take taken).setWorker_ne own _

/-! ## Workers at rest -/

/-- **Where a worker's home has nothing to do**, the worker is parked or has left, it is not free
to ask for anything, no request of it is in flight, and no unit is on its way to it. -/
theorem Attended.at_rest (h : w.Attended x) (hw : w.InService settings)
    (idle : (w.home x).isIdle = true) :
    ((w.home x).workers.find? x = some .parked ∨ (w.home x).workers.find? x = some .finalized) ∧
      w.workers x ≠ .free ∧ asking w.flight x = 0 ∧
      ∀ e ∈ w.flight, e.dest = x → e.message.work? = none := by
  have server := Topology.isServer_homeServer hw.proper.fits hw.proper.served x
  obtain ⟨-, -, notBusy, -⟩ := Server.isIdle_eq_true idle
  obtain ⟨state, hstate⟩ := Option.isSome_iff_exists.1 h.attached
  have mem : state ∈ (w.home x).workers.values :=
    (Table.values_of_find? hstate).mem_iff.2 List.mem_cons_self
  cases state with
  | busy => exact absurd rfl (notBusy _ mem)
  | parked =>
    have waits := (hw.servers _ server).attends x hstate
    rw [← home] at waits
    have outstanding := Nat.le_trans h.outstanding (w.workers x).awaited_le_one
    refine ⟨.inl hstate, fun free => ?_, by omega, fun e he dest => ?_⟩
    · have := h.of_free free
      omega
    · cases hu : e.message.work? with
      | none => rfl
      | some u =>
        have := answering_pos he dest (Message.isResponse_of_work? hu)
        omega
  | finalized =>
    obtain ⟨leaving, none⟩ := h.finalized _ server hstate
    refine ⟨.inr hstate, fun free => ?_, none, h.spared leaving⟩
    rw [free] at leaving
    cases leaving

end World

end WorkPool
