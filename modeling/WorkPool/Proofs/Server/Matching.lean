import WorkPool.Proofs.Server.Answers
import WorkPool.Proofs.Server.Deeds

/-!
# Matching: nobody waits beside work

A unit that arrives goes to a parked request for it if there is one, and a request for work is
parked only if no unit for it is queued. The two rules are each other's reverse, so a server never
has both: a parked request, and a queued unit that it could be met with (`Matched`).

Every deed keeps that (`Deed.matched`), and so does every run. What a server asks its peers for is
therefore what it does not have.
-/

namespace WorkPool

/-- A request does not admit a unit that is for another rank. -/
theorem Parked.admits_eq_false {p : Parked} {u : WorkUnit} :
    p.admits u = false ↔ u.target ≠ none ∧ u.target ≠ some p.rank := by
  cases target : u.target with
  | none => simp [admits, target]
  | some x =>
    simp only [admits, target, beq_eq_false_iff_ne, ne_eq, reduceCtorEq, not_false_eq_true,
      Option.some.injEq, true_and]
    exact not_congr eq_comm

namespace Server

variable {s s₁ s' : Server} {ins refused : List WorkUnit}

/-- No request is parked beside a unit that it could be met with. -/
structure Matched (s : Server) : Prop where
  backlog : s.backlog.Filed
  waiting : s.waiting.Filed
  apart : ∀ p ∈ s.waiting.all, ∀ u ∈ s.backlog.units, u.type = p.type → p.admits u = false

/-- Only what is queued and what is parked matter. -/
theorem Matched.congr (h : s.Matched) (backlog : s'.backlog = s.backlog)
    (waiting : s'.waiting = s.waiting) : s'.Matched := by
  refine ⟨?_, ?_, ?_⟩
  · rw [backlog]
    exact h.backlog
  · rw [waiting]
    exact h.waiting
  · rw [backlog, waiting]
    exact h.apart

/-- Units are taken out of the backlog. -/
theorem Matched.take (h : s.Matched) {backlog : Backlog} (filed : backlog.Filed)
    (sub : backlog.units ⊆ s.backlog.units) : ({ s with backlog } : Server).Matched :=
  ⟨filed, h.waiting, fun p hp u hu => h.apart p hp u (sub hu)⟩

/-- A unit that is placed goes to a request that admits it, or no parked request does; the other
units were admitted by none before. -/
theorem Matched.place (h : s.Matched) (u : WorkUnit) : (s.place u).1.Matched := by
  unfold Server.place
  split
  · rename_i p waiting matched
    have perm := WaitingList.takeMatch_some matched
    exact ⟨h.backlog, h.waiting.takeMatch matched, fun q hq =>
      h.apart q (perm.mem_iff.2 (List.mem_cons_of_mem p hq))⟩
  · rename_i unmatched
    refine ⟨h.backlog.push u, h.waiting, fun p hp v (hv : v ∈ (s.backlog.push u).1.units)
      type => ?_⟩
    by_cases full : s.backlog.capacity ≤ s.backlog.size
    · rw [(Backlog.push_refused full).1] at hv
      exact h.apart p hp v hv type
    · obtain ⟨-, perm, -⟩ := Backlog.push_granted (u := u) (Nat.lt_of_not_le full)
      rcases List.mem_cons.1 (perm.mem_iff.1 hv) with rfl | hv
      · exact h.waiting.takeMatch_none unmatched hp type
      · exact h.apart p hp v hv type

/-- A task leaves nothing queued that a parked request admits. -/
theorem Task.matched (task : Task s ins refused s') (h : s.Matched) : s'.Matched := by
  cases task with
  | note | forward | ask => exact h.congr rfl rfl
  | place u held => exact h.place _

/-- **Every deed** leaves nobody waiting beside work. -/
theorem Deed.matched (deed : Deed s ins refused s') (h : s.Matched) : s'.Matched := by
  cases deed with
  | work task => exact task.matched h
  | note | say | turnDown => exact h.congr rfl rfl
  | hand dest tag type stats popped =>
    have perm := Backlog.popFor_some popped
    have taken := h.take (h.backlog.popFor popped) fun v hv =>
      perm.mem_iff.2 (List.mem_cons_of_mem _ hv)
    exact taken.congr rfl rfl
  | park p workers stats unmet =>
    refine ⟨h.backlog, h.waiting.park p, fun q hq u hu type => ?_⟩
    rcases List.mem_cons.1 ((WaitingList.park_perm s.waiting p).mem_iff.1 hq) with rfl | hq
    · exact Parked.admits_eq_false.2 (h.backlog.popFor_none unmet hu type)
    · exact h.apart q hq u hu type
  | share dest wanted load peers stats =>
    have perm := Backlog.steal_perm s.backlog wanted
    have taken := h.take (h.backlog.steal wanted) fun v hv =>
      perm.mem_iff.2 (List.mem_append_right _ hv)
    exact taken.congr rfl rfl
  | stop => exact ⟨h.backlog, Table.grouped_empty, fun _ hp => nomatch hp⟩
  | drop => exact ⟨Table.grouped_empty, h.waiting, fun _ _ _ hu => nomatch hu⟩

/-- Deeds leave nothing queued that a parked request admits. -/
theorem Deeds.matched (deeds : Deeds s ins refused s') (h : s.Matched) : s'.Matched := by
  induction deeds with
  | done => exact h
  | next first later ih => exact ih (first.matched h)

theorem Matched.trySteal (h : s.Matched) : s.trySteal.Matched := by
  obtain ⟨peers, out, e, -⟩ := trySteal_eq s
  rw [e]
  exact h.congr rfl rfl

/-- **Whatever a server does**, nothing is queued that a parked request admits. -/
theorem Does.matched (does : Does s ins refused s') (h : s.Matched) : s'.Matched := by
  cases does with
  | only deeds => exact deeds.matched h
  | looking deeds backlog workers => exact (deeds.matched h).trySteal.congr rfl rfl

end Server

/-! ## What a server asks its peers for -/

/-- The types that a message asks a peer for. -/
def Message.asksFor? : Message → Option (List WorkType)
  | .stealRequest wanted _ => some wanted
  | _ => none

/-- What some messages ask peers for. -/
def asksIn (out : List (Rank × Message)) : List (List WorkType) :=
  out.filterMap fun p => p.2.asksFor?

@[simp] theorem asksIn_append (a b : List (Rank × Message)) :
    asksIn (a ++ b) = asksIn a ++ asksIn b := List.filterMap_append

theorem Message.asksFor?_of_isPlain {m : Message} (h : m.isPlain = true) : m.asksFor? = none := by
  cases m with
  | stealRequest => cases h
  | _ => rfl

namespace Server

variable {s s₁ s' : Server} {ins refused : List WorkUnit}

theorem asksIn_send (s : Server) (dest : Rank) {m : Message} (h : m.asksFor? = none) :
    asksIn (s.send dest m).outbox = asksIn s.outbox :=
  filterMap_send s dest h

/-- A task asks no peer for work. -/
theorem Task.asks_nothing (task : Task s ins refused s') : asksIn s'.outbox = asksIn s.outbox := by
  cases task with
  | note => rfl
  | place u held =>
    unfold Server.place
    split
    · exact asksIn_send _ _ rfl
    · rfl
  | forward dest u leads away => exact asksIn_send s dest rfl
  | ask id tag body => exact asksIn_send s _ rfl

/-- No deed asks a peer for anything. -/
theorem Deed.asks_nothing (deed : Deed s ins refused s') :
    asksIn s'.outbox = asksIn s.outbox := by
  cases deed with
  | work task => exact task.asks_nothing
  | note | park | stop | drop => rfl
  | say dest m plain => exact asksIn_send s dest (Message.asksFor?_of_isPlain plain)
  | turnDown | hand | share => exact asksIn_send _ _ rfl

theorem Deeds.asks_nothing (deeds : Deeds s ins refused s') :
    asksIn s'.outbox = asksIn s.outbox := by
  induction deeds with
  | done => rfl
  | next first later ih => exact ih.trans first.asks_nothing

theorem Matched.arrived (h : s.Matched) (input : Input) : (s.arrived input).Matched := by
  cases input with
  | message source m =>
    rw [Server.arrived, countArrival_eq]
    exact h.congr rfl rfl
  | stealTick | idleTick => exact h

theorem arrived_eq (s : Server) (input : Input) :
    (s.arrived input).backlog = s.backlog ∧ (s.arrived input).outbox = s.outbox := by
  cases input with
  | message source m => exact ⟨backlog_countArrival, outbox_countArrival⟩
  | stealTick | idleTick => exact ⟨rfl, rfl⟩

/-- **What is waited for is not queued**, unless it is for others. -/
theorem Matched.wanted (h : s.Matched) {u : WorkUnit} (hu : u ∈ s.backlog.units)
    (wanted : u.type ∈ s.waiting.types) : u.target ≠ none := by
  obtain ⟨p, hp, type⟩ := h.waiting.exists_mem wanted
  exact (Parked.admits_eq_false.1 (h.apart p hp u hu type.symm)).1

/-- **A server asks for what it does not have**: it leaves its backlog alone when it asks a peer for
units, and holds no unit for anybody of a type that it asks for. -/
theorem Matched.step_asks (h : s.Matched) {input : Input} {flow : Flow}
    (hstep : s.step input = .ok (s', flow)) {new : List (Rank × Message)}
    (hnew : s'.outbox = s.outbox ++ new) {wanted : List WorkType} (asked : wanted ∈ asksIn new) :
    s'.backlog = s.backlog ∧ ∀ u ∈ s.backlog.units, u.type ∈ wanted → u.target ≠ none := by
  obtain ⟨ins, refused, does⟩ := step_does hstep
  obtain ⟨backlog, outbox⟩ := arrived_eq s input
  cases does with
  | only deeds =>
    have nothing := deeds.asks_nothing
    rw [outbox, hnew, asksIn_append, List.append_right_eq_self] at nothing
    rw [nothing] at asked
    cases asked
  | @looking s₁ ins refused deeds same workers =>
    have matched := deeds.matched (h.arrived input)
    have nothing := deeds.asks_nothing
    obtain ⟨peers, out, e, asks⟩ := trySteal_asks s₁
    have all : asksIn new = asksIn out := by
      rw [e] at hnew
      replace hnew := congrArg asksIn hnew
      rw [asksIn_append, asksIn_append, nothing, outbox] at hnew
      exact (List.append_cancel_left hnew).symm
    rw [all] at asked
    obtain ⟨p, hp, asked⟩ := List.mem_filterMap.1 asked
    rw [asks p hp] at asked
    cases asked
    rw [e]
    refine ⟨same.trans backlog, fun u hu type => ?_⟩
    rw [← backlog, ← same] at hu
    exact matched.wanted hu type

/-! ## Every run -/

/-- A new server has nothing queued. -/
theorem matched_new {rank : Rank} {settings : Settings}
    (h : Server.new rank settings = .ok (.ok s)) : s.Matched := by
  obtain ⟨isServer, -, h⟩ := bind_eq_ok h
  split at h
  · cases h
    exact ⟨Table.grouped_empty, Table.grouped_empty, fun _ hp => nomatch hp⟩
  · cases h

/-- **One turn** leaves everything matched. -/
theorem Matched.turn (h : s.Matched) {t t' : Traffic} {next : Turn}
    (hturn : s.turn t next = .ok (s', t')) : s'.Matched := by
  cases next with
  | step input =>
    obtain ⟨⟨s₁, flow⟩, hstep, hturn⟩ := bind_eq_ok hturn
    cases hturn
    obtain ⟨ins, refused, does⟩ := step_does hstep
    exact does.matched (h.arrived input)
  | passOn =>
    cases hturn
    exact h.congr rfl rfl

/-- **Nobody waits beside work.** Whatever messages and ticks a new server has handled, and whenever
its outbox was passed on, no unit is queued that a parked request could be met with: neither one
for anybody, nor one for the rank that waits. So whatever happens next, a server that asks a peer
for units leaves its backlog alone, and holds no unit for anybody of a type that it asks for. -/
theorem no_waiting_beside_work (rank : Rank) (settings : Settings) {s₀ : Server}
    (hnew : Server.new rank settings = .ok (.ok s₀)) (turns : List Turn) {t : Traffic}
    (hserve : s₀.serve {} turns = .ok (s, t)) :
    (∀ p ∈ s.waiting.all, ∀ u ∈ s.backlog.units, u.type = p.type →
      u.target ≠ none ∧ u.target ≠ some p.rank) ∧
    ∀ input s' flow new, s.step input = .ok (s', flow) → s'.outbox = s.outbox ++ new →
      ∀ dest wanted load, (dest, .stealRequest wanted load) ∈ new →
        s'.backlog = s.backlog ∧ ∀ u ∈ s.backlog.units, u.type ∈ wanted → u.target ≠ none := by
  have matched : s.Matched :=
    serve_induction (P := fun s _ => s.Matched) (fun _ _ _ _ _ h hturn => h.turn hturn)
      (matched_new hnew) hserve
  constructor
  · intro p hp u hu type
    exact Parked.admits_eq_false.1 (matched.apart p hp u hu type)
  · intro input s' flow new hstep hnew dest wanted load sent
    exact matched.step_asks hstep hnew (List.mem_filterMap.2 ⟨_, sent, rfl⟩)

/-- A worker queues a unit for itself. Another one then waits for work of the same type, and a peer
has none. -/
def waitBesideOthersWork : List Turn :=
  [.step (.message 2 (.request 1 (.put ⟨[5], some 2, 2, 0, 0⟩))),
    .step (.message 0 (.request 1 (.get 0))), .passOn,
    .step (.message 5 (.stealResponse [] ⟨{}, 0⟩))]

/-- The server goes on asking, and the unit that it holds is not for those who wait. -/
theorem no_waiting_beside_work_others : ∃ s₀ s t s' flow,
    Server.new 4 { servers := 2, workers := 4, workTypes := [0] } = .ok (.ok s₀) ∧
    s₀.serve {} waitBesideOthersWork = .ok (s, t) ∧ s.step .stealTick = .ok (s', flow) ∧
    s.waiting.all = [⟨0, 1, 0⟩] ∧ s.backlog.units = [⟨[5], some 2, 2, 0, 0⟩] ∧
    asksIn s'.outbox = [[0]] ∧
    (∀ p ∈ s.waiting.all, ∀ u ∈ s.backlog.units, u.type = p.type →
      u.target ≠ none ∧ u.target ≠ some p.rank) ∧
    s'.backlog = s.backlog ∧ ∀ u ∈ s.backlog.units, u.type ∈ [0] → u.target ≠ none := by
  obtain ⟨s₀, hnew⟩ : ∃ s₀, Server.new 4 { servers := 2, workers := 4, workTypes := [0] } =
    .ok (.ok s₀) := ⟨_, rfl⟩
  have ran : (do
      let made ← Server.new 4 { servers := 2, workers := 4, workTypes := [0] }
      let s₀ ← made.mapError fun _ => Fault.addOverflow
      let r ← s₀.serve {} waitBesideOthersWork
      let p ← r.1.step .stealTick
      return decide (r.1.waiting.all = [Parked.mk 0 1 0] ∧
        r.1.backlog.units = [WorkUnit.mk [5] (some 2) 2 0 0] ∧ r.1.outbox = [] ∧
        asksIn p.1.outbox = [[0]])) = .ok true := by decide +kernel
  rw [hnew] at ran
  obtain ⟨_, ⟨⟩, ran⟩ := bind_eq_ok ran
  obtain ⟨_, ⟨⟩, ran⟩ := bind_eq_ok ran
  obtain ⟨⟨s, t⟩, hserve, ran⟩ := bind_eq_ok ran
  obtain ⟨⟨s', flow⟩, hstep, ran⟩ := bind_eq_ok ran
  obtain ⟨waiting, units, outbox, asks⟩ := of_decide_eq_true (Except.ok.inj ran)
  have asked : [0] ∈ asksIn s'.outbox := by
    rw [asks]
    exact List.mem_cons_self
  obtain ⟨⟨dest, m⟩, sent, asked⟩ := List.mem_filterMap.1 asked
  obtain ⟨load, rfl⟩ : ∃ load, m = .stealRequest [0] load := by
    cases m with
    | stealRequest wanted load =>
      cases asked
      exact ⟨load, rfl⟩
    | _ => cases asked
  obtain ⟨apart, asking⟩ := no_waiting_beside_work 4
    { servers := 2, workers := 4, workTypes := [0] } hnew waitBesideOthersWork hserve
  exact ⟨s₀, s, t, s', flow, hnew, hserve, hstep, waiting, units, asks, apart,
    asking .stealTick s' flow s'.outbox hstep (by rw [outbox, List.nil_append]) dest [0] load sent⟩

end Server

end WorkPool
