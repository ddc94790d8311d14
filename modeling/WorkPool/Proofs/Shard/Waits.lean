import WorkPool.Proofs.FreshIds
import WorkPool.Proofs.Shard.Granted

/-!
# Waits: what an operation does to the subscriptions of a shard

Every subscription of a shard is to something that can still happen: it is on a live, open
datum, and one for a subscript is on a container that does not hold the subscript. This is
the invariant `Shard.Waits`.

Whatever an operation does to a datum, it ends by putting the datum back, and that closes it
if its last writer has left. So there are two ways in which waits end:

* a **write** of a subscript ends the waits for it (`Shard.insertMember`);
* a **closing** ends all waits on its datum (`ClosedOff`), those for the closing itself and
  those for subscripts that did not come.

`Shard.settle` is the step in which a datum is put back, so `settle_settled` is what every
operation on a datum rests on.
-/

namespace WorkPool

/-- Who waits for what. -/
structure Wait where
  /-- who waits -/
  rank : Rank
  /-- the token of the wait -/
  token : UInt64
  /-- the datum waited for -/
  id : DatumId
  /-- the subscript waited for, if it is one -/
  subscript : Option String
  deriving DecidableEq

/-- The wait that a subscription stands for. -/
def Subscription.wait (s : Subscription) : Wait := ⟨s.rank, s.token, s.id, s.subscript⟩

/-- The wait that a notice ends. -/
def endedWait (p : Rank × Notice) : Wait := ⟨p.1, p.2.token, p.2.id, p.2.subscript⟩

/-- What a closing means to a wait: it came, or what was waited for did not. -/
def Subscription.closing (s : Subscription) : Event :=
  if s.subscript.isNone then .closed else .missing

/-- Whether a datum can still bring what is waited for. -/
def Awaited (d : Datum) (sub : Subscription) : Prop :=
  d.closed = false ∧
    ∀ k, sub.subscript = some k → ∃ c, d.content = .container c ∧ c.lookup k = none

namespace Shard

/-- Every wait is for something that can still happen. -/
def Waits (s : Shard) : Prop :=
  ∀ sub ∈ s.subscriptions, ∃ d, s.data.find? sub.id = some d ∧ Awaited d sub

/-- A datum has closed with some content: it is live and closed, or collected. -/
def ClosedAs (s : Shard) (id : DatumId) (content : Content) : Prop :=
  (∃ d, s.data.find? id = some d ∧ d.closed = true ∧ d.content = content) ∨
    s.data.find? id = none ∧ id ∈ s.retired

/-- An operation left a datum with some content, unless it was collected. -/
def LeftAs (s : Shard) (id : DatumId) (content : Content) : Prop :=
  (∃ d, s.data.find? id = some d ∧ d.content = content) ∨
    s.data.find? id = none ∧ id ∈ s.retired

theorem ClosedAs.leftAs {s : Shard} {id : DatumId} {content : Content}
    (h : s.ClosedAs id content) : s.LeftAs id content := by
  rcases h with ⟨d, hd, -, hc⟩ | gone
  · exact .inl ⟨d, hd, hc⟩
  · exact .inr gone

/-- A datum is live and open, with some content. -/
def OpenAs (s : Shard) (id : DatumId) (content : Content) : Prop :=
  ∃ d, s.data.find? id = some d ∧ d.closed = false ∧ d.content = content

/-! ## Closing -/

/-- A datum was closed, and everybody who waited for it was told. -/
structure ClosedOff (s : Shard) (id : DatumId) (content : Content) (s' : Shard)
    (notices : List (Rank × Notice)) : Prop where
  /-- the ids that are left stay -/
  ids : s'.ids = s.ids
  /-- other data stay -/
  others : ∀ j, j ≠ id → s'.data.find? j = s.data.find? j
  /-- the datum is closed -/
  closed : s'.ClosedAs id content
  /-- the waits on other data stay -/
  subscriptions : s'.subscriptions = s.subscriptions.filter fun sub => sub.id != id
  /-- the waits on the datum end -/
  notices : notices.Perm
    ((s.subscriptions.filter fun sub => sub.id == id).map fun sub => sub.notice sub.closing)

section Collect

variable (s : Shard) (id : DatumId)

theorem subscriptions_collect : (s.collect id).subscriptions = s.subscriptions := by
  unfold collect
  split
  · split <;> rfl
  · rfl

theorem ids_collect : (s.collect id).ids = s.ids := by
  unfold collect
  split
  · split <;> rfl
  · rfl

/-- Collecting touches one datum. -/
theorem find?_collect_ne {j : DatumId} (h : j ≠ id) :
    (s.collect id).data.find? j = s.data.find? j := by
  unfold collect
  split
  · split
    · exact Table.find?_erase_ne _ h
    · rfl
  · rfl

/-- A datum is collected, for good, or it stays. -/
theorem find?_collect_self : (s.collect id).data.find? id = s.data.find? id ∨
    (s.collect id).data.find? id = none ∧ id ∈ (s.collect id).retired := by
  unfold collect
  split
  · split
    · exact .inr ⟨Table.find?_erase_self _ _, List.mem_cons_self⟩
    · exact .inl rfl
  · exact .inl rfl

/-- A datum that is waited for is not collected. -/
theorem find?_collect_of_hasPending (h : s.subscriptions.hasPending id = true) :
    (s.collect id).data = s.data := by
  unfold collect
  split
  · rw [if_neg (by simp [h])]
  · rfl

end Collect

section Close

variable {s : Shard} {id : DatumId} {d : Datum}

/-- Those who wait for the closing, and those who wait for a subscript, are all who wait. -/
theorem filter_closing (subs : Subscriptions) :
    (subs.filter (Subscriptions.onClose id) ++
      (subs.filter fun s => !Subscriptions.onClose id s).filter
        (Subscriptions.onAnySubscript id)).Perm
      (subs.filter fun sub => sub.id == id) := by
  have closers : subs.filter (Subscriptions.onClose id) =
      (subs.filter fun sub => sub.id == id).filter fun sub => sub.subscript.isNone := by
    rw [List.filter_filter]
    exact List.filter_congr fun sub _ => Bool.and_comm _ _
  have waiters : (subs.filter fun s => !Subscriptions.onClose id s).filter
        (Subscriptions.onAnySubscript id) =
      (subs.filter fun sub => sub.id == id).filter fun sub => !sub.subscript.isNone := by
    rw [List.filter_filter, List.filter_filter]
    refine List.filter_congr fun sub _ => ?_
    cases same : sub.id == id <;> cases hsub : sub.subscript <;>
      simp [Subscriptions.onClose, Subscriptions.onAnySubscript, same, hsub]
  rw [closers, waiters]
  exact List.filter_append_perm _ _

/-- What is left when they have gone are the waits on other data. -/
theorem filter_not_closing (id : DatumId) (subs : Subscriptions) :
    ((subs.filter fun s => !Subscriptions.onClose id s).filter
      fun s => !Subscriptions.onAnySubscript id s) = subs.filter fun sub => sub.id != id := by
  rw [List.filter_filter]
  refine List.filter_congr fun sub _ => ?_
  cases same : sub.id == id <;> cases hsub : sub.subscript <;>
    simp [Subscriptions.onClose, Subscriptions.onAnySubscript, bne, same, hsub]

/-- What closing makes of the waits on a datum, if only a container has waits for subscripts. -/
theorem closing_take (hkind : ∀ sub ∈ s.subscriptions, sub.id = id → sub.subscript ≠ none →
      d.content.kind = .container) :
    ∃ waiters, (if d.content.kind = .container then
        Subscriptions.take (s.subscriptions.filter fun s => !Subscriptions.onClose id s)
          (Subscriptions.onAnySubscript id)
      else ([], s.subscriptions.filter fun s => !Subscriptions.onClose id s)) =
        (waiters, s.subscriptions.filter fun sub => sub.id != id) ∧
      waiters = (s.subscriptions.filter fun s => !Subscriptions.onClose id s).filter
        (Subscriptions.onAnySubscript id) := by
  refine ⟨_, ?_, rfl⟩
  split
  · rw [Subscriptions.take, filter_not_closing]
  · rename_i scalar
    have none_left : (s.subscriptions.filter fun s => !Subscriptions.onClose id s).filter
        (Subscriptions.onAnySubscript id) = [] := by
      refine List.filter_eq_nil_iff.2 fun sub hsub => ?_
      have mem := (List.mem_filter.1 hsub).1
      intro waits
      simp only [Subscriptions.onAnySubscript, Bool.and_eq_true, beq_iff_eq] at waits
      exact scalar (hkind sub mem waits.1 (Option.ne_none_iff_isSome.2 waits.2))
    have all_left := filter_not_closing id s.subscriptions
    rw [none_left, ← all_left]
    refine congrArg _ (List.filter_eq_self.2 fun sub hsub => ?_).symm
    simpa using List.filter_eq_nil_iff.1 none_left sub hsub

theorem bySubscript_perm (subs : Subscriptions) : (Subscriptions.bySubscript subs).Perm subs :=
  List.mergeSort_perm subs _

/-- Everybody who waits for a datum is told what its closing means. -/
theorem closing_notices (subs : Subscriptions) :
    ((subs.filter (Subscriptions.onClose id)).map (·.notice .closed) ++
      (Subscriptions.bySubscript ((subs.filter fun s => !Subscriptions.onClose id s).filter
        (Subscriptions.onAnySubscript id))).map (·.notice .missing)).Perm
      ((subs.filter fun sub => sub.id == id).map fun sub => sub.notice sub.closing) := by
  have closers : (subs.filter (Subscriptions.onClose id)).map (·.notice .closed) =
      (subs.filter (Subscriptions.onClose id)).map fun sub => sub.notice sub.closing := by
    refine List.map_congr_left fun sub hsub => ?_
    have onClose := (List.mem_filter.1 hsub).2
    simp only [Subscriptions.onClose, Bool.and_eq_true] at onClose
    rw [Subscription.closing, if_pos onClose.2]
  have waiters : ((subs.filter fun s => !Subscriptions.onClose id s).filter
        (Subscriptions.onAnySubscript id)).map (·.notice .missing) =
      ((subs.filter fun s => !Subscriptions.onClose id s).filter
        (Subscriptions.onAnySubscript id)).map fun sub => sub.notice sub.closing := by
    refine List.map_congr_left fun sub hsub => ?_
    have onSubscript := (List.mem_filter.1 hsub).2
    simp only [Subscriptions.onAnySubscript, Bool.and_eq_true] at onSubscript
    rw [Subscription.closing, if_neg]
    simpa [Option.isSome_iff_ne_none] using onSubscript.2
  refine (((bySubscript_perm _).map _).append_left _).trans ?_
  rw [closers, waiters, ← List.map_append]
  exact (filter_closing subs).map _

/-- What closing a datum does, if only a container has waits for subscripts. -/
theorem closeDatum_eq (hkind : ∀ sub ∈ s.subscriptions, sub.id = id → sub.subscript ≠ none →
      d.content.kind = .container) :
    s.closeDatum id d =
      (({ s with
          data := s.data.insert id { d with closed := true }
          subscriptions := s.subscriptions.filter fun sub => sub.id != id
          counts := { s.counts with closed := s.counts.closed + 1 } } : Shard).collect id,
        (s.subscriptions.filter (Subscriptions.onClose id)).map (·.notice .closed) ++
          (Subscriptions.bySubscript ((s.subscriptions.filter fun s =>
            !Subscriptions.onClose id s).filter (Subscriptions.onAnySubscript id))).map
              (·.notice .missing)) := by
  obtain ⟨waiters, taken, rfl⟩ := closing_take hkind
  simp only [closeDatum, Subscriptions.take] at taken ⊢
  rw [taken]

/-- **A closing** ends all waits on its datum. -/
theorem closeDatum_closedOff (hkind : ∀ sub ∈ s.subscriptions, sub.id = id →
      sub.subscript ≠ none → d.content.kind = .container) :
    ClosedOff s id d.content (s.closeDatum id d).1 (s.closeDatum id d).2 := by
  rw [closeDatum_eq hkind]
  refine ⟨ids_collect _ _, fun j hj => ?_, ?_, ?_, ?_⟩
  · rw [find?_collect_ne _ _ hj]
    exact Table.find?_insert_ne _ hj _
  · rcases find?_collect_self _ id with stays | gone
    · exact .inl ⟨{ d with closed := true }, stays.trans (Table.find?_insert_self _ _ _), rfl, rfl⟩
    · exact .inr gone
  · exact subscriptions_collect _ _
  · exact closing_notices s.subscriptions

/-- A datum was put back: it stays as it is, but for its counts, or it closed. -/
inductive Settled (s : Shard) (id : DatumId) (d : Datum) : Shard → List (Rank × Notice) → Prop where
  /-- some writer is left -/
  | stays {d' : Datum} (content : d'.content = d.content) (closed : d'.closed = d.closed) :
    Settled s id d { s with data := s.data.insert id d' } []
  /-- the last writer has left -/
  | closes {s' : Shard} {notices : List (Rank × Notice)}
    (off : ClosedOff s id d.content s' notices) : Settled s id d s' notices

theorem settle_settled {drops : UInt32} {s' : Shard} {notices : List (Rank × Notice)}
    (h : s.settle id d drops = .ok (s', notices))
    (hkind : ∀ sub ∈ s.subscriptions, sub.id = id → sub.subscript ≠ none →
      d.content.kind = .container) :
    Settled s id d s' notices := by
  unfold settle at h
  split at h
  · cases h
    exact .stays rfl rfl
  obtain ⟨writers, -, h⟩ := bind_eq_ok h
  simp only at h
  split at h
  · cases h
    exact .closes (closeDatum_closedOff (d := { d with writers }) hkind)
  · cases h
    exact .stays rfl rfl

end Close

end Shard

end WorkPool
