import Mathlib.Algebra.Order.Group.Multiset
import Mathlib.Tactic.Abel
import WorkPool.Proofs.Server.Deeds

/-!
# Units: what a server does with each of them

A server that handles a message **accounts** for units: those that the message brings, or that it
makes of notices, come in, and those that it passes on or hands to workers go out. What came in is
queued, has gone out, or is **refused** (`Does.accounts`).

Units are counted in multisets, and compared as they are when they have arrived: a server that is
the target of a unit takes the target off. So units are compared up to any function that does not
see the difference at this server (`Server.Blurs`). Two of them are used: one takes off the target
that names this server (`WorkUnit.relieved`), the other the target that names any server
(`WorkUnit.settled`), so that it can be used for all servers of a run.

A unit is refused in one of three ways. Its put is refused; or it has reached the server that is
to hold it, no parked request matches it, and the backlog is full (`Server.spills`); or the server
stops. In the second way a unit is **lost**: nobody waits for an answer that could tell so, because
the unit came from another server or was made of a notice.
-/

namespace WorkPool

/-! ## Bags -/

/-- Some units, each as a function sees it. -/
def bagBy (f : WorkUnit → WorkUnit) (units : List WorkUnit) : Multiset WorkUnit :=
  Multiset.ofList (units.map f)

section Bags

variable (f : WorkUnit → WorkUnit)

@[simp] theorem bagBy_nil : bagBy f [] = 0 := rfl

@[simp] theorem bagBy_append (a b : List WorkUnit) : bagBy f (a ++ b) = bagBy f a + bagBy f b := by
  rw [bagBy, List.map_append]
  exact (Multiset.coe_add _ _).symm

/-- Bags have no order. -/
theorem bagBy_perm {a b : List WorkUnit} (h : a.Perm b) : bagBy f a = bagBy f b :=
  Multiset.coe_eq_coe.2 (h.map _)

/-- One unit may be taken out of a bag. -/
theorem bagBy_of_perm_cons {u : WorkUnit} {units rest : List WorkUnit}
    (h : units.Perm (u :: rest)) : bagBy f units = bagBy f rest + bagBy f [u] := by
  rw [← bagBy_append]
  exact bagBy_perm f (h.trans (List.perm_append_singleton u rest).symm)

/-- Units that look the same make the same bag. -/
theorem bagBy_singleton {u v : WorkUnit} (h : f u = f v) : bagBy f [u] = bagBy f [v] := by
  simp only [bagBy, List.map_singleton, h]

end Bags

/-- A unit arrives once. -/
theorem WorkUnit.settled_settled (t : Topology) (u : WorkUnit) :
    (u.settled t).settled t = u.settled t := by
  cases target : u.target with
  | none => simp only [settled, target]
  | some x =>
    by_cases server : t.isServer x = true
    · simp only [settled, target, if_pos server]
    · simp only [settled, target, if_neg server]

/-- A unit that is for no server is as it will be. -/
theorem WorkUnit.settled_of_target {t : Topology} {u : WorkUnit}
    (h : ∀ x, u.target = some x → t.isServer x = false) : u.settled t = u := by
  cases target : u.target with
  | none => simp only [settled, target]
  | some x => simp only [settled, target, h x target, Bool.false_eq_true, if_false]

/-- A unit without a target that names a rank. -/
def WorkUnit.relieved (r : Rank) (u : WorkUnit) : WorkUnit :=
  if u.target = some r then { u with target := none } else u

/-- Some units, as they are when they have arrived. -/
def bag (t : Topology) (units : List WorkUnit) : Multiset WorkUnit :=
  Multiset.ofList (units.map (WorkUnit.settled t))

@[simp] theorem bag_nil (t : Topology) : bag t [] = 0 := rfl

@[simp] theorem bag_append (t : Topology) (a b : List WorkUnit) :
    bag t (a ++ b) = bag t a + bag t b := bagBy_append _ a b

theorem bag_perm (t : Topology) {a b : List WorkUnit} (h : a.Perm b) : bag t a = bag t b :=
  bagBy_perm _ h

/-- Only the empty bag has no units. -/
theorem bag_eq_zero {t : Topology} {units : List WorkUnit} : bag t units = 0 ↔ units = [] := by
  rw [bag, Multiset.coe_eq_zero, List.map_eq_nil_iff]

/-! ## Accounts -/

/-- The units that an outbox carries to servers. -/
def carriedIn (out : List (Rank × Message)) : List WorkUnit := out.flatMap fun p => p.2.carried

/-- The units that an outbox hands to workers. -/
def workIn (out : List (Rank × Message)) : List WorkUnit := out.filterMap fun p => p.2.work?

@[simp] theorem carriedIn_append (a b : List (Rank × Message)) :
    carriedIn (a ++ b) = carriedIn a ++ carriedIn b := List.flatMap_append

@[simp] theorem workIn_append (a b : List (Rank × Message)) :
    workIn (a ++ b) = workIn a ++ workIn b := List.filterMap_append

/-- A plain message carries no unit. -/
theorem Message.not_carried_of_isPlain {m : Message} (h : m.isPlain = true) :
    m.carried = [] ∧ m.work? = none := by
  cases m with
  | response tag answer =>
    cases answer with
    | refused => exact ⟨rfl, rfl⟩
    | granted reply =>
      cases reply with
      | work u => cases h
      | _ => exact ⟨rfl, rfl⟩
  | forwardPut | stealRequest | stealResponse => cases h
  | _ => exact ⟨rfl, rfl⟩

namespace Server

variable {s s₁ s' : Server} {source : Rank} {m : Message} {f : WorkUnit → WorkUnit}
  {ins refused : List WorkUnit}

/-- A function does not see what the server does to the units that it is to hold. -/
def Blurs (s : Server) (f : WorkUnit → WorkUnit) : Prop :=
  ∀ u, s.holds u = true → f (u.settled s.topology) = f u

theorem blurs_settled (s : Server) : s.Blurs (WorkUnit.settled s.topology) :=
  fun u _ => u.settled_settled s.topology

/-- A unit that a server is to hold has no server as its target but this one. -/
theorem blurs_relieved (s : Server) : s.Blurs (WorkUnit.relieved s.rank) := by
  intro u held
  cases target : u.target with
  | none => simp only [WorkUnit.settled, target]
  | some x =>
    rw [holds, target, beq_iff_eq, holder] at held
    by_cases server : s.topology.isServer x = true
    · rw [if_pos server] at held
      rw [held] at server target
      simp [WorkUnit.settled, WorkUnit.relieved, target, server]
    · simp only [WorkUnit.settled, target, if_neg server]

/-- A steady server keeps what it does not see. -/
theorem Blurs.steady (h : s.Blurs f) (steady : Steady s s') : s'.Blurs f := by
  intro u held
  rw [steady.holds] at held
  rw [steady.topology]
  exact h u held

/-- The units that a server has queued, or is about to send. -/
def stock (s : Server) (f : WorkUnit → WorkUnit) : Multiset WorkUnit :=
  bagBy f s.backlog.units + bagBy f (carriedIn s.outbox) + bagBy f (workIn s.outbox)

/-- What is sent is in stock until it leaves. -/
theorem stock_send (s : Server) (dest : Rank) (m : Message) :
    (s.send dest m).stock f = s.stock f + bagBy f m.carried + bagBy f m.work?.toList := by
  have carried : carriedIn [(dest, m)] = m.carried := List.append_nil _
  have work : workIn [(dest, m)] = m.work?.toList := by
    cases hw : m.work? <;> simp [workIn, hw]
  simp only [stock, send, carriedIn_append, workIn_append, carried, work, bagBy_append]
  abel

/-- A message that carries no unit changes nothing. -/
theorem stock_say (s : Server) (dest : Rank) (h : m.carried = [] ∧ m.work? = none) :
    (s.send dest m).stock f = s.stock f := by
  rw [stock_send, h.1, h.2]
  simp

/-- What came in is here, has gone out, or is refused. -/
def Accounts (f : WorkUnit → WorkUnit) (s : Server) (ins refused : List WorkUnit) (s' : Server) :
    Prop :=
  s.stock f + bagBy f ins = s'.stock f + bagBy f refused

/-- A server whose stock does not change accounts for nothing. -/
theorem accounts_of_stock (h : s'.stock f = s.stock f) : Accounts f s [] [] s' := by
  rw [Accounts, h]

/-- A unit that is placed goes to the request that waits for it; if there is none it is queued, or
lost. -/
theorem place_accounts (s : Server) (u : WorkUnit) :
    Accounts f s [u] (if s.turnsAway u then [u] else []) (s.place u).1 := by
  rw [Accounts]
  unfold place turnsAway
  split
  · rename_i p waiting matched
    simp only [matched]
    rw [respond, stock_send]
    show s.stock f + bagBy f [u] = s.stock f + 0 + bagBy f [u] + 0
    rw [add_zero, add_zero]
  · rename_i unmatched
    rw [unmatched]
    by_cases full : s.backlog.capacity ≤ s.backlog.size
    · simp [Backlog.push_refused full, full]
    · obtain ⟨-, perm, -⟩ := Backlog.push_granted (u := u) (Nat.lt_of_not_le full)
      simp only [full, decide_false, Bool.and_false, Bool.false_eq_true, if_false, bagBy_nil]
      rw [stock, stock, bagBy_of_perm_cons f perm]
      abel

/-- **Every task** accounts for the units. -/
theorem Task.accounts (hf : s.Blurs f) (h : Task s ins refused s') :
    Accounts f s ins refused s' := by
  cases h with
  | note shard peers nextTag stats sound => exact accounts_of_stock rfl
  | place u held =>
    have same := bagBy_singleton f (hf u held)
    have placed := place_accounts (f := f) s (u.settled s.topology)
    rw [Accounts, same] at placed
    rw [Accounts, placed]
    split
    · rw [same]
    · rfl
  | forward dest u leads away =>
    rw [Accounts, stock_send]
    simp [Message.carried, Message.work?]
  | ask id tag body => exact accounts_of_stock (stock_say s _ ⟨rfl, rfl⟩)

/-- **Every deed** accounts for the units. -/
theorem Deed.accounts (hf : s.Blurs f) (h : Deed s ins refused s') :
    Accounts f s ins refused s' := by
  cases h with
  | work task => exact task.accounts hf
  | note | park | stop => exact accounts_of_stock rfl
  | say dest m plain =>
    exact accounts_of_stock (stock_say s dest (Message.not_carried_of_isPlain plain))
  | turnDown dest tag e u => rw [Accounts, respond, stock_say s dest ⟨rfl, rfl⟩]
  | @hand dest tag type u backlog stats popped =>
    refine accounts_of_stock ?_
    rw [respond, stock_send]
    simp only [stock, bagBy_of_perm_cons f (Backlog.popFor_some popped)]
    simp only [Message.carried, Message.work?, Answer.ofResult, Option.toList, bagBy_nil]
    abel
  | share dest wanted load peers stats =>
    refine accounts_of_stock ?_
    have perm := bagBy_perm f (Backlog.steal_perm s.backlog wanted)
    rw [stock_send, stock, stock, perm, bagBy_append]
    simp only [Message.carried, Message.work?, Option.toList, bagBy_nil]
    abel
  | drop =>
    show bagBy f s.backlog.units + _ + _ + bagBy f [] = bagBy f [] + _ + _ + bagBy f s.backlog.units
    rw [bagBy_nil]
    abel

/-- Accounts add up. -/
theorem Accounts.trans {ins' refused' : List WorkUnit} (h : Accounts f s ins refused s₁)
    (h' : Accounts f s₁ ins' refused' s') :
    Accounts f s (ins ++ ins') (refused ++ refused') s' := by
  rw [Accounts] at h h' ⊢
  calc s.stock f + bagBy f (ins ++ ins')
      = s.stock f + bagBy f ins + bagBy f ins' := by rw [bagBy_append, add_assoc]
    _ = s₁.stock f + bagBy f ins' + bagBy f refused := by rw [h]; abel
    _ = s'.stock f + bagBy f (refused ++ refused') := by rw [h', bagBy_append]; abel

/-- **Deeds** account for the units one after the other. -/
theorem Deeds.accounts (hf : s.Blurs f) (h : Deeds s ins refused s') :
    Accounts f s ins refused s' := by
  induction h with
  | done s => exact accounts_of_stock rfl
  | next first later ih => exact (first.accounts hf).trans (ih (hf.steady first.steady))

/-- **Whatever a server does**, it accounts for the units. -/
theorem Does.accounts (hf : s.Blurs f) (h : Does s ins refused s') :
    Accounts f s ins refused s' := by
  cases h with
  | only deeds => exact deeds.accounts hf
  | @looking s₁ ins refused deeds backlog workers =>
    have looked : s₁.trySteal.stock f = s₁.stock f := by
      unfold trySteal
      split
      · rfl
      split
      · rfl
      · exact stock_say _ _ ⟨rfl, rfl⟩
    have accounts := deeds.accounts hf
    rw [Accounts, ← looked] at accounts
    exact accounts

/-! ## Messages -/

/-- What a message puts is acknowledged or refused, and it brings nothing else but what it carries.
A server that shuts down refuses the put. -/
theorem brings_eq (h : s.dispatch source m = .ok s') :
    m.brings = m.carried ++ (accepted source m (s.said s') ++ rejected source m (s.said s')) := by
  cases m with
  | request tag body =>
    cases body with
    | put u =>
      change s.onRequest source tag (.put u) = .ok s' at h
      unfold onRequest at h
      split at h
      · cases h
        have said : s.said (s.respond source tag (.error .shutdown)) =
            [(source, .response tag (.ofResult (.error .shutdown)))] := said_eq rfl
        have answered := answersWork_nil.put_answered source tag u (.error .shutdown)
        have stays : ¬ Request.put u = .finalize := by
          intro leaves
          cases leaves
        rw [if_neg stays, said]
        exact (congrArg₂ (· ++ ·) answered.1 answered.2).symm
      · obtain ⟨s₁, hs₁, h⟩ := bind_eq_ok h
        cases h
        cases hs₁
        obtain ⟨workers, e⟩ := noteBusy_eq (s.onPut source tag u) source
        rw [e]
        exact (onPut_deeds s source tag u).2.symm
    | _ => rfl
  | stealResponse units => exact (List.append_nil units).symm
  | _ => rfl

/-- **Every unit is accounted for** when a server that serves handles a message, and goes on
serving. -/
theorem dispatch_accounts (outbox : s.outbox = []) (serves : s.phase = .running)
    (h : s.dispatch source m = .ok s') (running : s'.phase = .running) :
    bag s.topology s.backlog.units + (bag s.topology m.carried +
        (bag s.topology (accepted source m s'.outbox) + bag s.topology (s.noticed source m))) =
      bag s.topology s'.backlog.units + bag s.topology (carriedIn s'.outbox) +
        bag s.topology (workIn s'.outbox) + bag s.topology (s.lost source m) := by
  have accounts := (dispatch_does h).accounts s.blurs_settled
  have said : s.said s' = s'.outbox := by rw [Server.said, outbox, List.length_nil, List.drop_zero]
  have drained : s.drained s' = [] := if_pos (running.trans serves.symm)
  have going : s.isShuttingDown ≠ true := by simp [isShuttingDown, serves]
  have made : s.made source m = s.noticed source m := by
    cases m with
    | request => exact if_neg going
    | _ => rfl
  have overflow : s.overflow source m = s.lost source m := by
    cases m with
    | request => exact if_neg going
    | _ => rfl
  rw [Accounts, brings_eq h, said, drained, made, overflow, stock, stock, outbox] at accounts
  simp only [carriedIn, workIn, List.flatMap_nil, List.filterMap_nil, bagBy_append, bagBy_nil,
    add_zero] at accounts
  refine add_right_cancel (b := bag s.topology (rejected source m s'.outbox)) ?_
  refine Eq.trans ?_ (accounts.trans ?_) <;> simp only [bag, bagBy, carriedIn, workIn] <;> abel

/-- **A server conserves units.** Whatever message it handles, and in whatever state, the units that
were queued, that the message brings and that are made of notices are those that are queued
afterwards, that are sent to servers, that are handed to workers, and that are refused. A unit is
refused because its put is, because it finds the backlog full, or because the server stops. Units
are compared without a target that names this server. -/
theorem handle_conserves_units {flow : Flow} (h : s.handle source m = .ok (s', flow)) :
    ∃ new, s'.outbox = s.outbox ++ new ∧
      bagBy (WorkUnit.relieved s.rank) (s.backlog.units ++ m.brings ++
          (s.countArrival source m).made source m) =
        bagBy (WorkUnit.relieved s.rank) (s'.backlog.units ++ carriedIn new ++ workIn new ++
          (rejected source m new ++ (s.countArrival source m).overflow source m ++
            s.drained s')) := by
  have does := dispatch_does (handle_eq_ok h).1
  obtain ⟨new, hnew⟩ := does.steady.outbox
  have accounts := does.accounts (blurs_relieved _)
  have drained : (s.countArrival source m).drained s' = s.drained s' := by
    rw [Server.drained, phase_countArrival, backlog_countArrival]
    rfl
  rw [Accounts, said_eq hnew.symm, drained, stock, stock, ← hnew] at accounts
  rw [outbox_countArrival] at hnew accounts
  rw [rank_countArrival, backlog_countArrival] at accounts
  refine ⟨new, hnew.symm, ?_⟩
  refine add_right_cancel (b := bagBy (WorkUnit.relieved s.rank) (carriedIn s.outbox) +
    bagBy (WorkUnit.relieved s.rank) (workIn s.outbox)) ?_
  simp only [carriedIn_append, workIn_append, bagBy_append] at accounts ⊢
  refine Eq.trans ?_ (accounts.trans ?_) <;> abel

/-- Two units, the first of them for a server. -/
def twoUnits : Message := .stealResponse [⟨[5], some 2, 0, 0, 0⟩, ⟨[6], none, 0, 0, 0⟩] ⟨{}, 0⟩

/-- A server with room for one unit receives two: it queues the first one, without its target, and
loses the other. -/
theorem handle_conserves_units_full : ∃ s s' flow,
    Server.new 2 { servers := 1, workers := 2, workTypes := [0], maxQueuedUnits := 1 } =
      .ok (.ok s) ∧
    s.handle 2 twoUnits = .ok (s', flow) ∧ s'.backlog.units = [⟨[5], none, 0, 0, 0⟩] ∧
    bagBy (WorkUnit.relieved 2) twoUnits.brings =
      bagBy (WorkUnit.relieved 2) (s'.backlog.units ++ [⟨[6], none, 0, 0, 0⟩]) := by
  obtain ⟨s, hnew⟩ : ∃ s, Server.new 2
    { servers := 1, workers := 2, workTypes := [0], maxQueuedUnits := 1 } = .ok (.ok s) := ⟨_, rfl⟩
  have ran : (do
      let made ← Server.new 2
        { servers := 1, workers := 2, workTypes := [0], maxQueuedUnits := 1 }
      let s ← made.mapError fun _ => Fault.addOverflow
      let p ← s.handle 2 twoUnits
      return decide (s.rank = 2 ∧ s.backlog.units = [] ∧ s.outbox = [] ∧
        (s.countArrival 2 twoUnits).overflow 2 twoUnits = [WorkUnit.mk [6] none 0 0 0] ∧
        s.drained p.1 = [] ∧ p.1.backlog.units = [WorkUnit.mk [5] none 0 0 0] ∧
        p.1.outbox = [])) = .ok true := by decide +kernel
  rw [hnew] at ran
  obtain ⟨_, ⟨⟩, ran⟩ := bind_eq_ok ran
  obtain ⟨_, ⟨⟩, ran⟩ := bind_eq_ok ran
  obtain ⟨⟨s', flow⟩, handled, ran⟩ := bind_eq_ok ran
  obtain ⟨rank, before, outbox, overflow, drained, after, outbox'⟩ :=
    of_decide_eq_true (Except.ok.inj ran)
  obtain ⟨new, hnew', conserved⟩ := handle_conserves_units handled
  rw [outbox, outbox', List.nil_append] at hnew'
  rw [rank, before, overflow, drained, ← hnew'] at conserved
  refine ⟨s, s', flow, hnew, handled, after, ?_⟩
  rw [after] at conserved ⊢
  exact conserved

end Server

end WorkPool
