import WorkPool.Proofs.Backlog
import WorkPool.Proofs.Shard.Perform
import WorkPool.Server

/-!
# Works: what a server does with units and data

Whatever a server does with a unit or with the effects of an operation on data is made of
four **tasks**: it notes something about itself, it places a unit here, it passes a unit on,
or it asks another server to store a member. Sequences of tasks are `Works`, which also tells
which units came in and which were **lost**, for want of room and of a request to meet.

`Served` collects what tasks leave alone and what they balance. It is proved once for each
task, and holds of every sequence of tasks.
-/

namespace WorkPool

/-! ## What messages carry -/

namespace Message

/-- Whether a message answers a request. -/
def isResponse : Message → Bool
  | .response .. => true
  | _ => false

/-- The unit that a message hands to a worker. -/
def work? : Message → Option WorkUnit
  | .response _ (.granted (.work u)) => some u
  | _ => none

/-- What hands over a unit is a response that grants it. -/
theorem eq_of_work? {m : Message} {u : WorkUnit} (h : m.work? = some u) :
    ∃ tag, m = .response tag (.granted (.work u)) := by
  unfold work? at h
  split at h
  · cases h
    exact ⟨_, rfl⟩
  · cases h

theorem isResponse_of_work? {m : Message} {u : WorkUnit} (h : m.work? = some u) :
    m.isResponse = true := by
  obtain ⟨tag, rfl⟩ := eq_of_work? h
  rfl

/-- The units that a message carries from server to server. -/
def carried : Message → List WorkUnit
  | .forwardPut u => [u]
  | .stealResponse units _ => units
  | _ => []

/-- Responses count as moving work. -/
theorem movesWork_of_isResponse {m : Message} (h : m.isResponse = true) : m.movesWork = true := by
  cases m with
  | response => rfl
  | _ => cases h

/-- What carries units moves work. -/
theorem movesWork_of_carried {m : Message} (h : m.carried ≠ []) : m.movesWork = true := by
  cases m with
  | forwardPut => rfl
  | stealResponse units load =>
    cases units with
    | nil => exact absurd rfl h
    | cons => rfl
  | _ => exact absurd rfl h

end Message

/-- What is sent in the course of work on units and data. A unit is passed on to the server that
it names or to the home of a worker, and the owner of a datum is asked for something. -/
def Topology.Errand (t : Topology) (p : Rank × Message) : Prop :=
  match p.2 with
  | .forwardPut _ => t.isServer p.1 = true ∨ ∃ worker, p.1 = t.homeServer worker
  | .request .. => ∃ id, p.1 = t.owner id
  | .stealRequest .. | .shutdownRequested => True
  | _ => False

/-- How many messages of an outbox count in a vote. -/
def countedIn (t : Topology) (out : List (Rank × Message)) : Nat :=
  out.countP fun p => t.isServer p.1 && p.2.movesWork

/-- How many answers to a rank there are in an outbox. -/
def answersTo (x : Rank) (out : List (Rank × Message)) : Nat :=
  out.countP fun p => p.1 == x && p.2.isResponse

@[simp] theorem countedIn_append (t : Topology) (a b : List (Rank × Message)) :
    countedIn t (a ++ b) = countedIn t a + countedIn t b := List.countP_append

@[simp] theorem answersTo_append (x : Rank) (a b : List (Rank × Message)) :
    answersTo x (a ++ b) = answersTo x a + answersTo x b := List.countP_append

/-- A unit as it is held where it is going: a server as its target has done its work. -/
def WorkUnit.settled (t : Topology) (u : WorkUnit) : WorkUnit :=
  match u.target with
  | some target => if t.isServer target then { u with target := none } else u
  | none => u

namespace Server

variable {s s' s'' : Server}

/-- How many requests of a rank are parked. -/
def parkedFor (s : Server) (x : Rank) : Nat := s.waiting.all.countP fun p => p.rank == x

/-- How many answers a server owes a rank, or has ready for it. -/
def owed (s : Server) (x : Rank) : Nat := s.parkedFor x + answersTo x s.outbox

/-- A worker counts as waiting only if it has a parked request. -/
def Attends (s : Server) : Prop :=
  ∀ x, s.workers.find? x = some .parked → 0 < s.parkedFor x

/-! ## What tasks keep -/

/-- What a server keeps, and what it balances, while it works on units and data. -/
structure Served (s s' : Server) : Prop where
  rank : s'.rank = s.rank
  topology : s'.topology = s.topology
  settings : s'.settings = s.settings
  phase : s'.phase = s.phase
  votes : s'.votes = s.votes
  activity : s'.activity = s.activity
  received : s'.received = s.received
  /-- attached workers stay attached -/
  attached : ∀ x, s.workers.contains x = true → s'.workers.contains x = true
  /-- the data stay sound -/
  sound : s.shard.Sound → s'.shard.Sound
  /-- the backlog knows its size -/
  counted : s.backlog.Counted → s'.backlog.Counted
  /-- what is sent is counted -/
  sent : s'.sent + countedIn s.topology s.outbox = s.sent + countedIn s.topology s'.outbox
  /-- only parked requests are answered -/
  owed : ∀ x, s'.owed x = s.owed x
  /-- nothing new is parked -/
  parked : ∀ x, s'.parkedFor x ≤ s.parkedFor x
  attends : s.Attends → s'.Attends
  /-- nobody new has left -/
  finalized : ∀ x, s'.workers.find? x = some .finalized → s.workers.find? x = some .finalized
  /-- errands are sent, and units go to those who wait for one -/
  outbox : ∃ new, s'.outbox = s.outbox ++ new ∧ ∀ p ∈ new,
    s.topology.Errand p ∨ ∃ u, p.2.work? = some u ∧ 0 < s.parkedFor p.1

theorem Served.refl (s : Server) : Served s s where
  rank := rfl
  topology := rfl
  settings := rfl
  phase := rfl
  votes := rfl
  activity := rfl
  received := rfl
  attached _ h := h
  sound h := h
  counted h := h
  sent := rfl
  owed _ := rfl
  parked _ := Nat.le_refl _
  attends h := h
  finalized _ h := h
  outbox := ⟨[], (List.append_nil _).symm, fun _ hp => nomatch hp⟩

/-- Serving, and serving on. -/
theorem Served.trans (h : Served s s') (h' : Served s' s'') : Served s s'' where
  rank := h'.rank.trans h.rank
  topology := h'.topology.trans h.topology
  settings := h'.settings.trans h.settings
  phase := h'.phase.trans h.phase
  votes := h'.votes.trans h.votes
  activity := h'.activity.trans h.activity
  received := h'.received.trans h.received
  attached x hx := h'.attached x (h.attached x hx)
  sound hs := h'.sound (h.sound hs)
  counted hc := h'.counted (h.counted hc)
  sent := by
    have first := h.sent
    have later := h'.sent
    rw [h.topology] at later
    omega
  owed x := (h'.owed x).trans (h.owed x)
  parked x := Nat.le_trans (h'.parked x) (h.parked x)
  attends ha := h'.attends (h.attends ha)
  finalized x hx := h.finalized x (h'.finalized x hx)
  outbox := by
    obtain ⟨new, hnew, kinds⟩ := h.outbox
    obtain ⟨new', hnew', kinds'⟩ := h'.outbox
    refine ⟨new ++ new', by rw [hnew', hnew, List.append_assoc], fun p hp => ?_⟩
    rcases List.mem_append.1 hp with hp | hp
    · exact kinds p hp
    · rcases kinds' p hp with errand | ⟨u, hu, waits⟩
      · exact .inl (h.topology ▸ errand)
      · exact .inr ⟨u, hu, Nat.lt_of_lt_of_le waits (h.parked p.1)⟩

/-! ## Tasks -/

/-- There is no room for a unit, and no request to meet with it. -/
def turnsAway (s : Server) (u : WorkUnit) : Bool :=
  (s.waiting.takeMatch u).isNone && decide (s.backlog.capacity ≤ s.backlog.size)

/-- Whether a unit that reaches the server is to be held here. -/
def holds (s : Server) (u : WorkUnit) : Bool :=
  match u.target with
  | none => true
  | some target => s.holder target == s.rank

/-- One task, with the units that come in and those that are lost. -/
inductive Task : Server → List WorkUnit → List WorkUnit → Server → Prop where
  /-- something is noted -/
  | note (s : Server) (shard : Shard) (peers : Peers) (nextTag : UInt64) (stats : ServerStats)
    (sound : s.shard.Sound → shard.Sound) :
    Task s [] [] { s with shard, peers, nextTag, stats }
  /-- a unit is placed here -/
  | place (s : Server) (u : WorkUnit) (held : s.holds u = true) :
    Task s [u] (if s.turnsAway (u.settled s.topology) then [u] else [])
      (s.place (u.settled s.topology)).1
  /-- a unit is passed on to the server that must hold it -/
  | forward (s : Server) (dest : Rank) (u : WorkUnit) (leads : u.target.map s.holder = some dest)
    (away : dest ≠ s.rank) : Task s [u] [] (s.send dest (.forwardPut u))
  /-- the owner of a datum is asked to do something -/
  | ask (s : Server) (id : DatumId) (tag : UInt64) (body : Request) :
    Task s [] [] (s.send (s.topology.owner id) (.request tag body))

/-- A sequence of tasks. -/
inductive Works : Server → List WorkUnit → List WorkUnit → Server → Prop where
  | done (s : Server) : Works s [] [] s
  | next {s s₁ s' : Server} {ins lost ins' lost' : List WorkUnit} (first : Task s ins lost s₁)
    (later : Works s₁ ins' lost' s') : Works s (ins ++ ins') (lost ++ lost') s'

theorem Task.works {ins lost : List WorkUnit} (h : Task s ins lost s') :
    Works s ins lost s' := by
  have one := Works.next h (.done s')
  rwa [List.append_nil, List.append_nil] at one

/-- Tasks after tasks: what comes in and what is lost adds up. -/
theorem Works.trans {ins lost ins' lost' : List WorkUnit} (h : Works s ins lost s')
    (h' : Works s' ins' lost' s'') : Works s (ins ++ ins') (lost ++ lost') s'' := by
  induction h with
  | done => exact h'
  | next first later ih =>
    rw [List.append_assoc, List.append_assoc]
    exact .next first (ih h')

/-- Noting something, if the data stay sound. -/
theorem served_note (s : Server) (shard : Shard) (peers : Peers) (nextTag : UInt64)
    (stats : ServerStats) (sound : s.shard.Sound → shard.Sound) :
    Served s { s with shard, peers, nextTag, stats } :=
  { Served.refl s with sound := sound }

/-- What is sent to a server and moves work is counted. -/
theorem sent_send (s : Server) (dest : Rank) (m : Message) :
    (s.send dest m).sent + countedIn s.topology s.outbox =
      s.sent + countedIn s.topology (s.send dest m).outbox := by
  simp only [send, countedIn_append]
  by_cases h : s.topology.isServer dest && m.movesWork
  · simp only [countedIn, List.countP_singleton, h, if_true]
    omega
  · simp only [countedIn, List.countP_singleton, h]
    rfl

/-- What is picked out of an outbox stays the same when something else is sent. -/
theorem filterMap_send {α : Type} (s : Server) (dest : Rank) {m : Message}
    {f : Rank × Message → Option α} (other : f (dest, m) = none) :
    (s.send dest m).outbox.filterMap f = s.outbox.filterMap f := by
  simp [send, other]

/-- Sending an errand. -/
theorem served_send (s : Server) (dest : Rank) {m : Message}
    (errand : s.topology.Errand (dest, m)) : Served s (s.send dest m) := by
  have quiet : m.isResponse = false := by
    cases m with
    | response => exact errand.elim
    | _ => rfl
  refine { Served.refl s with sent := sent_send s dest m, owed := fun x => ?_,
                              outbox := ⟨[(dest, m)], rfl, fun p hp => .inl ?_⟩ }
  · simp [owed, parkedFor, send, answersTo, quiet]
  · rw [List.mem_singleton.1 hp]
    exact errand

/-- A unit goes to the request that waits for it. -/
theorem served_meet {u : WorkUnit} {p : Parked} {waiting : WaitingList} (stats : ServerStats)
    (h : s.waiting.takeMatch u = some (p, waiting)) :
    Served s (({ s with waiting, stats }.setWorker p.rank .busy).respond p.rank p.tag
      (.ok (.work u))) := by
  have perm := WaitingList.takeMatch_some h
  have taken (x : Rank) : s.parkedFor x =
      waiting.all.countP (fun p => p.rank == x) + if p.rank == x then 1 else 0 := by
    rw [parkedFor, perm.countP_eq, List.countP_cons]
  refine { Served.refl s with sent := sent_send _ p.rank _, attached := ?_, owed := ?_,
                              parked := ?_, attends := ?_, finalized := ?_, outbox := ?_ }
  · intro x hx
    exact Table.contains_insert.2 (.inr hx)
  · intro x
    rw [owed, owed, taken x]
    simp only [respond, send, setWorker, parkedFor, answersTo_append]
    cases hx : p.rank == x <;> simp [answersTo, hx, Message.isResponse]
    omega
  · intro x
    rw [taken x]
    exact Nat.le_add_right _ _
  · intro ha x hx
    by_cases hp : x = p.rank
    · rw [hp] at hx
      simp [respond, send, setWorker] at hx
    · have hx' : s.workers.find? x = some .parked :=
        (Table.find?_insert_ne s.workers hp .busy).symm.trans hx
      have := ha x hx'
      rw [taken x, if_neg (by simpa using Ne.symm hp)] at this
      exact this
  · intro x hx
    by_cases hp : x = p.rank
    · rw [hp] at hx
      simp [respond, send, setWorker] at hx
    · exact (Table.find?_insert_ne s.workers hp .busy).symm.trans hx
  · refine ⟨_, rfl, fun q hq => .inr ⟨u, ?_, ?_⟩⟩
    · rw [List.mem_singleton.1 hq]
      rfl
    · rw [List.mem_singleton.1 hq, taken p.rank]
      simp

/-- **Placing a unit** meets a parked request, or queues it. -/
theorem served_place (s : Server) (u : WorkUnit) : Served s (s.place u).1 := by
  unfold place
  split
  · exact served_meet _ (by assumption)
  · exact { Served.refl s with counted := fun hc => hc.push u }

/-- Who must hold a unit is the server that it names, or the home of its target. -/
theorem errand_of_leads {u : WorkUnit} {dest : Rank} (leads : u.target.map s.holder = some dest) :
    s.topology.Errand (dest, .forwardPut u) := by
  obtain ⟨target, -, rfl⟩ := Option.map_eq_some_iff.1 leads
  rw [holder]
  split
  · exact .inl (by assumption)
  · exact .inr ⟨target, rfl⟩

/-- **Every task.** -/
theorem Task.served {ins lost : List WorkUnit} (h : Task s ins lost s') : Served s s' := by
  cases h with
  | note shard peers nextTag stats sound => exact served_note s shard peers nextTag stats sound
  | place u held => exact served_place s _
  | forward dest u leads away => exact served_send s dest (errand_of_leads leads)
  | ask id tag body => exact served_send s _ ⟨id, rfl⟩

/-- **Work on units and data** keeps a server what it is. -/
theorem Works.served {ins lost : List WorkUnit} (h : Works s ins lost s') : Served s s' := by
  induction h with
  | done s => exact .refl s
  | next first later ih => exact first.served.trans ih

/-! ## Units -/

/-- A unit is refused exactly if it is turned away. -/
theorem place_cases (s : Server) (u : WorkUnit) :
    s.turnsAway u = false ∧ (s.place u).2 = .ok () ∨
      s.turnsAway u = true ∧ ∃ e, (s.place u).2 = .error e := by
  unfold place turnsAway
  split
  · rename_i h
    simp [h]
  · rename_i h
    by_cases full : s.backlog.capacity ≤ s.backlog.size
    · obtain ⟨-, e, he⟩ := Backlog.push_refused (u := u) full
      simp [h, he, full]
    · obtain ⟨granted, -⟩ := Backlog.push_granted (u := u) (Nat.lt_of_not_le full)
      simp [h, granted, full]

/-- What is lost of a unit that nobody answers for: all of it, if it is to be held here and is
turned away. -/
def spills (s : Server) (u : WorkUnit) : List WorkUnit :=
  if s.holds u && s.turnsAway (u.settled s.topology) then [u] else []

/-- A unit that is to be held here is placed here, as it is when it has arrived. -/
theorem submit_held {u : WorkUnit} (h : s.holds u = true) :
    s.submit u = s.place (u.settled s.topology) := by
  unfold submit WorkUnit.settled
  cases ht : u.target with
  | none => rfl
  | some target =>
    rw [holds, ht, beq_iff_eq] at h
    simp only [ne_eq, h, not_true_eq_false, if_false]
    split <;> rfl

/-- A unit that is to be held elsewhere is passed on there. -/
theorem submit_forwarded {u : WorkUnit} (h : s.holds u = false) :
    ∃ stats dest, (u.target.map s.holder = some dest ∧ dest ≠ s.rank) ∧
      s.submit u = ({ s with stats }.send dest (.forwardPut u), .ok ()) := by
  unfold submit
  cases ht : u.target with
  | none =>
    rw [holds, ht] at h
    cases h
  | some target =>
    rw [holds, ht, beq_eq_false_iff_ne] at h
    simp only [ne_eq, h, not_false_eq_true, if_true]
    exact ⟨_, _, ⟨rfl, h⟩, rfl⟩

/-- A unit that is submitted comes in, and is lost exactly if it is refused. -/
theorem submit_works (s : Server) (u : WorkUnit) :
    Works s [u] (s.spills u) (s.submit u).1 ∧
      (s.spills u = [] ∧ (s.submit u).2 = .ok () ∨
        s.spills u = [u] ∧ ∃ e, (s.submit u).2 = .error e) := by
  cases h : s.holds u with
  | true =>
    rw [submit_held h, spills, h, Bool.true_and]
    refine ⟨(Task.place s u h).works, ?_⟩
    rcases place_cases s (u.settled s.topology) with ⟨kept, granted⟩ | ⟨lost, refused⟩
    · rw [kept]
      exact .inl ⟨rfl, granted⟩
    · rw [lost]
      exact .inr ⟨rfl, refused⟩
  | false =>
    obtain ⟨stats, dest, ⟨leads, away⟩, e⟩ := submit_forwarded h
    rw [e, spills, h]
    refine ⟨?_, .inl ⟨rfl, rfl⟩⟩
    have noted : Task s [] [] { s with stats } := .note s s.shard s.peers s.nextTag stats id
    exact .next noted (Task.forward { s with stats } dest u leads away).works

/-- **What is lost** is what its submission refuses. -/
theorem spills_eq (s : Server) (u : WorkUnit) :
    s.spills u = if (s.submit u).2.isOk then [] else [u] := by
  rcases (submit_works s u).2 with ⟨kept, granted⟩ | ⟨lost, e, refused⟩
  · rw [kept, granted]
    rfl
  · rw [lost, refused]
    rfl

theorem accept_works (s : Server) (u : WorkUnit) : Works s [u] (s.spills u) (s.accept u) :=
  (submit_works s u).1

/-- What is lost of units that are accepted one after the other. -/
def spillsAll : Server → List WorkUnit → List WorkUnit
  | _, [] => []
  | s, u :: units => s.spills u ++ (s.accept u).spillsAll units

/-- Units that are accepted one after the other. -/
theorem acceptAll_works (s : Server) (units : List WorkUnit) :
    Works s units (s.spillsAll units) (units.foldl accept s) := by
  induction units generalizing s with
  | nil => exact .done s
  | cons u units ih => exact (accept_works s u).trans (ih (s.accept u))

/-! ## Effects -/

/-- The units of some notices. -/
def noticeUnits (s : Server) (notices : List (Rank × Notice)) : List WorkUnit :=
  notices.map fun n => s.noticeUnit n.1 n.2

theorem noticeUnits_congr (rank : s'.rank = s.rank) (settings : s'.settings = s.settings) :
    s'.noticeUnits = s.noticeUnits := by
  funext notices
  unfold noticeUnits noticeUnit
  rw [rank, settings]

/-- What is lost of notices that are sent on their way one after the other. -/
def spillsNotices : Server → List (Rank × Notice) → List WorkUnit
  | _, [] => []
  | s, n :: notices => s.spills (s.noticeUnit n.1 n.2) ++ (s.notify n.1 n.2).spillsNotices notices

/-- A notice comes in as a unit. -/
theorem notify_works (s : Server) (rank : Rank) (n : Notice) :
    Works s [s.noticeUnit rank n] (s.spills (s.noticeUnit rank n)) (s.notify rank n) := by
  have noted := (Task.note s s.shard s.peers s.nextTag
    { s.stats with notificationsSent := s.stats.notificationsSent + 1 } id).works
  exact noted.trans (accept_works _ (s.noticeUnit rank n))

/-- **Notices** come in as units. -/
theorem notifyAll_works (s : Server) (notices : List (Rank × Notice)) :
    Works s (s.noticeUnits notices) (s.spillsNotices notices) (s.notifyAll notices) := by
  induction notices generalizing s with
  | nil => exact .done s
  | cons n notices ih =>
    have first := notify_works s n.1 n.2
    have same := noticeUnits_congr first.served.rank first.served.settings
    have later := ih (s.notify n.1 n.2)
    rw [same] at later
    exact first.trans later

/-- A member that is stored brings in no unit. -/
theorem storeReference_works {target : DatumId} {member : Bytes}
    {notices : List (Rank × Notice)} (h : s.storeReference target member = .ok (s', notices)) :
    Works s [] [] s' := by
  unfold storeReference at h
  simp only at h
  split at h
  · obtain ⟨o, ho, h⟩ := bind_eq_ok h
    cases h
    refine (Task.note s o.shard s.peers s.nextTag s.stats fun hs => ?_).works
    have fires : s.shard.Fires (.storeBytes target member 1) [] o.shard o.effects.notices :=
      Shard.storeBytes_fires hs.waits hs.numbered ho
    exact ⟨fires.waits, fires.numbered⟩
  · cases h
    exact .next (.note s s.shard s.peers (s.nextTag + 1) s.stats id) (Task.ask _ target _ _).works

/-- Members that are stored bring in no unit. -/
theorem storeReferences_works {references : List (DatumId × Bytes)}
    {notices : List (Rank × Notice)} (h : s.storeReferences references = .ok (s', notices)) :
    Works s [] [] s' := by
  induction references generalizing s notices with
  | nil =>
    cases h
    exact .done _
  | cons r references ih =>
    obtain ⟨⟨s₁, first⟩, h₁, h⟩ := bind_eq_ok h
    obtain ⟨⟨s₂, later⟩, h₂, h⟩ := bind_eq_ok h
    cases h
    exact (storeReference_works h₁).trans (ih h₂)

end Server

end WorkPool
