import Mathlib.Algebra.Order.Group.Multiset
import Mathlib.Tactic.Abel
import Mathlib.Tactic.GCongr
import WorkPool.Proofs.Server.Acts
import WorkPool.Proofs.Server.Matching

/-!
# Dispatch: who is handed a unit

A unit is handed out in one of two ways: a request for work finds one in the backlog, or a unit that
arrives finds a parked request. Both ways look under the type, and at the target of the unit, so
that whoever is handed a unit has asked for one of its type and may receive it.

A request for work that is not answered is parked. `Server.claims` are the requests for work that
wait, or have been met by what stands in the outbox. An act only turns one into the other or gives
up a wait (`Act.gives`); a request that arrives adds itself (`step_gives`). So no request is met
twice, and each is met by a unit that it asked for.
-/

namespace WorkPool

/-- A unit that is handed out, with the request it answers. -/
structure Handed where
  rank : Rank
  tag : UInt64
  unit : WorkUnit

namespace Handed

/-- The request for work that is answered. -/
def request (h : Handed) : Parked := ⟨h.rank, h.tag, h.unit.type⟩

/-- A unit is for anybody, or for whom it goes to. -/
def Meant (h : Handed) : Prop := h.unit.target = none ∨ h.unit.target = some h.rank

end Handed

/-- What a message hands out to a rank. -/
def Message.hands? (dest : Rank) : Message → Option Handed
  | .response tag (.granted (.work u)) => some ⟨dest, tag, u⟩
  | _ => none

/-- What some messages hand out. -/
def handsIn (messages : List (Rank × Message)) : List Handed :=
  messages.filterMap fun p => p.2.hands? p.1

/-- The requests for work that some messages answer with a unit. -/
def metIn (messages : List (Rank × Message)) : Multiset Parked :=
  Multiset.ofList ((handsIn messages).map Handed.request)

@[simp] theorem handsIn_append (a b : List (Rank × Message)) :
    handsIn (a ++ b) = handsIn a ++ handsIn b := List.filterMap_append

@[simp] theorem metIn_append (a b : List (Rank × Message)) :
    metIn (a ++ b) = metIn a + metIn b := by
  simp [metIn]

theorem Message.hands?_of_isOrdinary {m : Message} (h : m.isOrdinary = true) (dest : Rank) :
    m.hands? dest = none := by
  cases m with
  | response tag answer =>
    cases answer with
    | refused => rfl
    | granted reply =>
      cases reply with
      | work u => cases h
      | _ => rfl
  | _ => rfl

namespace Server

variable {input : Input} {s s₁ s' : Server} {wanted : Multiset Parked}

theorem handsIn_send (s : Server) (dest : Rank) {m : Message} (h : m.hands? dest = none) :
    handsIn (s.send dest m).outbox = handsIn s.outbox :=
  filterMap_send s dest h

theorem handsIn_respond (s : Server) (dest : Rank) (tag : UInt64) (u : WorkUnit) :
    handsIn (s.respond dest tag (.ok (.work u))).outbox =
      handsIn s.outbox ++ [⟨dest, tag, u⟩] := by
  rw [respond, send, handsIn_append]
  rfl

/-! ## One act -/

/-- Units and requests are filed, only attached workers wait, and only they are handed what they may
receive. -/
structure Tidy (s : Server) : Prop where
  backlog : s.backlog.Filed
  waiting : s.waiting.Filed
  attached : ∀ p ∈ s.parked, s.workers.contains p.rank = true
  handed : ∀ h ∈ handsIn s.outbox, s.workers.contains h.rank = true ∧ h.Meant

/-- The requests for work that wait, or have been met. -/
def claims (s : Server) : Multiset Parked := s.parked + metIn s.outbox

/-- What a server does when some requests for work come in: only these, and those that waited, are
met. -/
structure Gives (s : Server) (wanted : Multiset Parked) (s' : Server) : Prop where
  tidy : s'.Tidy
  workers : ∀ r, s'.workers.contains r = s.workers.contains r
  claims : s'.claims ≤ s.claims + wanted

theorem Gives.refl (h : s.Tidy) : Gives s 0 s := ⟨h, fun _ => rfl, le_of_eq (add_zero _).symm⟩

theorem Gives.trans {wanted' : Multiset Parked} (h : Gives s wanted s₁)
    (h' : Gives s₁ wanted' s') : Gives s (wanted + wanted') s' := by
  refine ⟨h'.tidy, fun r => (h'.workers r).trans (h.workers r), ?_⟩
  calc s'.claims ≤ s₁.claims + wanted' := h'.claims
    _ ≤ s.claims + wanted + wanted' := by gcongr; exact h.claims
    _ = s.claims + (wanted + wanted') := add_assoc _ _ _

/-- Whoever hands out nothing may give up waits. -/
theorem Tidy.gives (h : s.Tidy) (backlog : s'.backlog.Filed) (waiting : s'.waiting.Filed)
    (parked : s'.parked ≤ s.parked) (workers : ∀ r, s'.workers.contains r = s.workers.contains r)
    (hands : handsIn s'.outbox = handsIn s.outbox) : Gives s 0 s' := by
  refine ⟨⟨backlog, waiting, fun p hp => ?_, fun d hd => ?_⟩, workers, ?_⟩
  · rw [workers]
    exact h.attached p (Multiset.mem_of_le parked hp)
  · rw [workers]
    exact h.handed d (hands ▸ hd)
  · rw [add_zero, claims, claims, metIn, hands]
    gcongr
    rfl

theorem contains_setWorker {worker : Rank} (attached : s.workers.contains worker = true)
    (state : WorkerState) (r : Rank) :
    (s.setWorker worker state).workers.contains r = s.workers.contains r := by
  rw [Bool.eq_iff_iff, setWorker, Table.contains_insert]
  constructor
  · rintro (rfl | other)
    · exact attached
    · exact other
  · exact .inr

/-- **A unit is handed to a request** that came in, or is parked no more. -/
theorem Tidy.hand (h : s.Tidy) {s₁ : Server} (d : Handed) (backlog : s₁.backlog.Filed)
    (waiting : s₁.waiting.Filed) (parked : s₁.parked ≤ s.parked)
    (workers : ∀ r, s₁.workers.contains r = s.workers.contains r) (outbox : s₁.outbox = s.outbox)
    (attached : s.workers.contains d.rank = true) (meant : d.Meant)
    (asked : s₁.parked + {d.request} ≤ s.parked + wanted) :
    Gives s wanted (s₁.respond d.rank d.tag (.ok (.work d.unit))) := by
  have hands := handsIn_respond s₁ d.rank d.tag d.unit
  rw [outbox] at hands
  refine ⟨⟨backlog, waiting, fun p hp => ?_, fun d' hd => ?_⟩, workers, ?_⟩
  · exact (workers p.rank).trans (h.attached p (Multiset.mem_of_le parked hp))
  · rw [hands] at hd
    rcases List.mem_append.1 hd with hd | hd
    · obtain ⟨attached, meant⟩ := h.handed d' hd
      exact ⟨(workers d'.rank).trans attached, meant⟩
    · rw [List.mem_singleton.1 hd]
      exact ⟨(workers d.rank).trans attached, meant⟩
  · have met : metIn (s₁.respond d.rank d.tag (.ok (.work d.unit))).outbox =
        metIn s.outbox + {d.request} := by
      rw [metIn, hands, List.map_append, metIn]
      rfl
    calc s₁.parked + metIn (s₁.respond d.rank d.tag (.ok (.work d.unit))).outbox
        = (s₁.parked + {d.request}) + metIn s.outbox := by rw [met]; abel
      _ ≤ (s.parked + wanted) + metIn s.outbox := by gcongr
      _ = s.claims + wanted := by rw [claims]; abel

/-- **A request is parked** that came in. -/
theorem Tidy.park (h : s.Tidy) (p : Parked) (attached : s.workers.contains p.rank = true) :
    Gives s {p} ({ s with waiting := s.waiting.park p }.setWorker p.rank .parked) := by
  have workers (r : Rank) := contains_setWorker attached .parked r
  have parked : Multiset.ofList (s.waiting.park p).all = p ::ₘ s.parked :=
    Multiset.coe_eq_coe.2 (WaitingList.park_perm s.waiting p)
  refine ⟨⟨h.backlog, h.waiting.park p, fun q hq => ?_, fun d hd => ?_⟩, workers, ?_⟩
  · change q ∈ Multiset.ofList (s.waiting.park p).all at hq
    rw [parked] at hq
    refine (workers q.rank).trans ?_
    rcases Multiset.mem_cons.1 hq with rfl | hq
    · exact attached
    · exact h.attached q hq
  · obtain ⟨attached, meant⟩ := h.handed d hd
    exact ⟨(workers d.rank).trans attached, meant⟩
  · refine le_of_eq ?_
    show Multiset.ofList (s.waiting.park p).all + metIn s.outbox = s.claims + {p}
    rw [parked, claims, ← Multiset.singleton_add]
    abel

/-- **Every act** hands units only to requests that wait. -/
theorem Act.gives (act : Act input s s') (h : s.Tidy) : Gives s 0 s' := by
  cases act with
  | note => exact h.gives h.backlog h.waiting le_rfl (fun _ => rfl) rfl
  | say dest m ordinary =>
    exact h.gives h.backlog h.waiting le_rfl (fun _ => rfl)
      (handsIn_send s dest (Message.hands?_of_isOrdinary ordinary dest))
  | @meet u p waiting matched =>
    obtain ⟨type, admits⟩ := h.waiting.takeMatch_some matched
    have parked : s.parked = p ::ₘ Multiset.ofList waiting.all :=
      Multiset.coe_eq_coe.2 (WaitingList.takeMatch_some matched)
    have attached : s.workers.contains p.rank = true := by
      refine h.attached p ?_
      rw [parked]
      exact Multiset.mem_cons_self p _
    have meant : Handed.Meant ⟨p.rank, p.tag, u⟩ := by
      by_contra other
      rw [Handed.Meant, not_or] at other
      rw [Parked.admits_eq_false.2 other] at admits
      cases admits
    refine h.hand ⟨p.rank, p.tag, u⟩ h.backlog (h.waiting.takeMatch matched) ?_
      (contains_setWorker attached .busy) rfl attached meant ?_
    · rw [parked]
      exact Multiset.le_cons_self _ p
    · rw [add_zero, parked, Handed.request, ← type, ← Multiset.singleton_add, add_comm]
      exact le_rfl
  | queue u unmatched => exact h.gives (h.backlog.push u) h.waiting le_rfl (fun _ => rfl) rfl
  | share wanted => exact h.gives (h.backlog.steal wanted) h.waiting le_rfl (fun _ => rfl) rfl
  | drop => exact h.gives Table.grouped_empty h.waiting le_rfl (fun _ => rfl) rfl
  | occupy worker state attached =>
    exact h.gives h.backlog h.waiting le_rfl (contains_setWorker attached state) rfl
  | endRun running master =>
    have none : handsIn (s.otherServers.map fun r => (r, Message.shutdown)) = [] := by
      simp [handsIn, Message.hands?]
    rw [sendAll_eq rfl]
    refine h.gives h.backlog Table.grouped_empty (Multiset.zero_le _) (fun _ => rfl) ?_
    rw [handsIn_append, none, List.append_nil]
  | obey source running told =>
    exact h.gives h.backlog Table.grouped_empty (Multiset.zero_le _) (fun _ => rfl) rfl

theorem Gives.acts (h : Gives s wanted s₁) (acts : Acts input s₁ s') : Gives s wanted s' := by
  refine acts.keep (P := Gives s wanted) (fun s₁ s' h act => ?_) h
  simpa only [add_zero] using h.trans (act.gives h.tidy)

/-- **Every step** hands units only to requests that waited, or that it takes up. -/
theorem step_gives {flow : Flow} (hstep : s.step input = .ok (s', flow)) (h : s.Tidy) :
    Gives s (wantsIn input.messages) s' := by
  cases step_serves hstep with
  | acts acts =>
    have given := (Gives.refl h).acts acts
    exact ⟨given.tidy, given.workers, given.claims.trans (by gcongr; exact Multiset.zero_le _)⟩
  | @hand s₁ source tag type u backlog asked before running attached popped after =>
    subst asked
    have first := (Gives.refl h).acts before
    obtain ⟨rfl, target⟩ := first.tidy.backlog.popFor_some popped
    have handed : Gives s₁ {⟨source, tag, u.type⟩}
        ({ s₁ with backlog }.respond source tag (.ok (.work u))) :=
      first.tidy.hand ⟨source, tag, u⟩ (first.tidy.backlog.popFor popped) first.tidy.waiting le_rfl
        (fun _ => rfl) rfl attached target le_rfl
    have given := (first.trans handed).acts after
    rw [zero_add] at given
    exact given
  | @park s₁ source tag type backlog asked before running attached unmet after =>
    subst asked
    have first := (Gives.refl h).acts before
    have given := (first.trans (first.tidy.park ⟨source, tag, type⟩ attached)).acts after
    rw [zero_add] at given
    exact given

/-- What a step adds to the outbox answers, with a unit that is meant for it, each of some requests
that waited or that it takes up. What was met before is on both sides. -/
theorem Tidy.step_hands {flow : Flow} (h : s.Tidy) (hstep : s.step input = .ok (s', flow)) :
    ∃ new, s'.outbox = s.outbox ++ new ∧
      metIn new + s'.parked ≤ s.parked + wantsIn input.messages ∧
      ∀ d ∈ handsIn new, s.workers.contains d.rank = true ∧ d.Meant := by
  have given := step_gives hstep h
  obtain ⟨ins, refused, does⟩ := step_does hstep
  obtain ⟨new, hnew⟩ := does.steady.outbox
  rw [(arrived_eq s input).2] at hnew
  refine ⟨new, hnew.symm, ?_, fun d hd => ?_⟩
  · have claims := given.claims
    rw [Server.claims, Server.claims, ← hnew, metIn_append] at claims
    refine le_of_add_le_add_left (a := metIn s.outbox) ?_
    calc metIn s.outbox + (metIn new + s'.parked)
        = s'.parked + (metIn s.outbox + metIn new) := by abel
      _ ≤ s.parked + metIn s.outbox + wantsIn input.messages := claims
      _ = metIn s.outbox + (s.parked + wantsIn input.messages) := by abel
  · have handed : d ∈ handsIn s'.outbox := by
      rw [← hnew, handsIn_append]
      exact List.mem_append_right _ hd
    obtain ⟨attached, meant⟩ := given.tidy.handed d handed
    exact ⟨(given.workers d.rank).symm.trans attached, meant⟩

/-! ## Every run -/

/-- A server is tidy, and serves some workers. -/
structure Serving (s : Server) (workers : List Rank) : Prop where
  tidy : s.Tidy
  workers : ∀ r, s.workers.contains r = true ↔ r ∈ workers

variable {workers : List Rank}

theorem serving_new {rank : Rank} {settings : Settings}
    (h : Server.new rank settings = .ok (.ok s)) :
    s.Serving (settings.topology.attached rank) := by
  obtain ⟨isServer, -, h⟩ := bind_eq_ok h
  split at h
  · cases h
    refine ⟨⟨Table.grouped_empty, Table.grouped_empty, nofun, nofun⟩, fun r => ?_⟩
    refine (Table.contains_foldl_insert _ .empty r).trans ?_
    simp [Table.contains, Function.comp_def]
  · cases h

theorem Serving.step {flow : Flow} (h : s.Serving workers)
    (hstep : s.step input = .ok (s', flow)) : s'.Serving workers := by
  have given := step_gives hstep h.tidy
  refine ⟨given.tidy, fun r => ?_⟩
  rw [given.workers]
  exact h.workers r

/-- The outbox is passed on. -/
theorem Serving.passOn (h : s.Serving workers) :
    ({ s with outbox := [] } : Server).Serving workers :=
  ⟨⟨h.tidy.backlog, h.tidy.waiting, h.tidy.attached, nofun⟩, h.workers⟩

theorem Serving.turn (h : s.Serving workers) {t t' : Traffic} {next : Turn}
    (hturn : s.turn t next = .ok (s', t')) : s'.Serving workers := by
  cases next with
  | step input =>
    obtain ⟨⟨s₁, flow⟩, hstep, hturn⟩ := bind_eq_ok hturn
    cases hturn
    exact h.step hstep
  | passOn =>
    cases hturn
    exact h.passOn

theorem Serving.serve (h : s.Serving workers) {t t' : Traffic} {turns : List Turn}
    (hserve : s.serve t turns = .ok (s', t')) : s'.Serving workers :=
  serve_induction (P := fun s _ => s.Serving workers) (fun _ _ _ _ _ h hturn => h.turn hturn) h
    hserve

end Server

end WorkPool
