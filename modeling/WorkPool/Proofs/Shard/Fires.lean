import WorkPool.Proofs.Shard.Waits

/-!
# Fires: what an operation owes those who wait

Every operation of a shard keeps the account of its waits: a wait that was registered is
still pending, or it ended with one notice. And it gives no notice without a reason:

* **closed** is told by the operation that closes the datum;
* **inserted** is told by the write that brings the subscript, with the member it brings;
* **missing** is told by the operation that closes the container without the subscript.

`Fires` puts this together with the invariants that it rests on. There are two ways to pay what
is owed: nothing happened that anybody waits for (`Keeps`), or an open datum was put back
(`Settled.fires`).
-/

namespace WorkPool

/-- What an operation writes to a container before it closes it. -/
def Operation.written : Operation → DatumId → Container → Container
  | .insert id subscript member _, j, c => if j = id then c.write subscript member else c
  | _, _, c => c

namespace Shard

/-- The waits of a shard. -/
def pending (s : Shard) : List Wait := s.subscriptions.map Subscription.wait

/-- No live datum has an id that may still be handed out. -/
structure Numbered (s : Shard) : Prop where
  /-- ids are handed out upward -/
  upward : s.ids.Upward
  /-- beyond those of the live data -/
  passed : ∀ j d, s.data.find? j = some d → s.ids.Passed j

/-- What every operation of a shard keeps. -/
structure Sound (s : Shard) : Prop where
  /-- every wait is for something that can still happen -/
  waits : s.Waits
  /-- fresh ids are fresh -/
  numbered : s.Numbered

/-- The reason for a notice: what an operation did to the datum that it is about. -/
def Justified (s : Shard) (op : Operation) (s' : Shard) (n : Notice) : Prop :=
  match n.event with
  | .closed => n.subscript = none ∧
      ∃ before after, s.OpenAs n.id before ∧ s'.ClosedAs n.id after
  | .inserted member => ∃ subscript drops c, n.subscript = some subscript ∧
      op = .insert n.id subscript member drops ∧
      s.OpenAs n.id (.container c) ∧ c.lookup subscript = none ∧
      s'.LeftAs n.id (.container (op.written n.id c)) ∧
      (op.written n.id c).lookup subscript = some member
  | .missing => ∃ subscript c, n.subscript = some subscript ∧
      s.OpenAs n.id (.container c) ∧ c.lookup subscript = none ∧
      s'.ClosedAs n.id (.container (op.written n.id c)) ∧
      (op.written n.id c).lookup subscript = none

/-- What an operation owes those who wait. -/
structure Fires (s : Shard) (op : Operation) (registered : List Wait) (s' : Shard)
    (notices : List (Rank × Notice)) : Prop where
  /-- every wait is for something that can still happen -/
  waits : s'.Waits
  /-- ids stay fresh -/
  numbered : s'.Numbered
  /-- every wait is pending or has ended -/
  account : (s.pending ++ registered).Perm (s'.pending ++ notices.map endedWait)
  /-- every notice has a reason -/
  justified : ∀ p ∈ notices, Justified s op s' p.2

section Keeps

/-- Nothing happened that anybody waits for. -/
structure Keeps (s s' : Shard) : Prop where
  /-- all waits stay -/
  subscriptions : s'.subscriptions = s.subscriptions
  /-- and can still end -/
  awaited : ∀ sub ∈ s.subscriptions, ∀ d, s.data.find? sub.id = some d → Awaited d sub →
    ∃ d', s'.data.find? sub.id = some d' ∧ Awaited d' sub
  /-- ids stay fresh -/
  numbered : s'.Numbered

variable {s s' s'' : Shard} {id : DatumId} {d d' : Datum} {op : Operation}

theorem Keeps.waits (h : Keeps s s') (hw : s.Waits) : s'.Waits := by
  intro sub hsub
  rw [h.subscriptions] at hsub
  obtain ⟨d, hd, ha⟩ := hw sub hsub
  exact h.awaited sub hsub d hd ha

theorem Keeps.trans (h : Keeps s s') (h' : Keeps s' s'') : Keeps s s'' := by
  refine ⟨h'.subscriptions.trans h.subscriptions, fun sub hsub d hd ha => ?_, h'.numbered⟩
  obtain ⟨d', hd', ha'⟩ := h.awaited sub hsub d hd ha
  exact h'.awaited sub (h.subscriptions ▸ hsub) d' hd' ha'

theorem Keeps.fires (h : Keeps s s') (hw : s.Waits) : Fires s op [] s' [] := by
  refine ⟨h.waits hw, h.numbered, ?_, fun p hp => nomatch hp⟩
  rw [pending, pending, h.subscriptions]
  exact .refl _

/-- The data stay. -/
theorem keeps_of_data (hdata : s'.data = s.data) (hsubs : s'.subscriptions = s.subscriptions)
    (hn : s'.Numbered) : Keeps s s' :=
  ⟨hsubs, fun _ _ d hd ha => ⟨d, hdata ▸ hd, ha⟩, hn⟩

/-- The data and the ids stay. -/
theorem keeps_of_ids (hn : s.Numbered) (hdata : s'.data = s.data)
    (hsubs : s'.subscriptions = s.subscriptions) (hids : s'.ids = s.ids) : Keeps s s' := by
  refine keeps_of_data hdata hsubs ⟨hids ▸ hn.upward, fun j d hd => ?_⟩
  rw [hids]
  exact hn.passed j d (hdata ▸ hd)

theorem keeps_memory (hn : s.Numbered) (memory : MemoryBudget) : Keeps s { s with memory } :=
  keeps_of_ids hn rfl rfl rfl

/-- One live datum is put back with other counts. -/
theorem keeps_insert (hn : s.Numbered) (hd : s.data.find? id = some d)
    (hdata : s'.data = s.data.insert id d') (hsubs : s'.subscriptions = s.subscriptions)
    (hids : s'.ids = s.ids) (same : ∀ sub, Awaited d sub → Awaited d' sub) : Keeps s s' := by
  refine ⟨hsubs, fun sub _ d₁ hd₁ ha => ?_, ⟨hids ▸ hn.upward, fun j d₁ hd₁ => ?_⟩⟩
  · rw [hdata]
    by_cases hid : sub.id = id
    · rw [hid] at hd₁ ⊢
      cases hd.symm.trans hd₁
      exact ⟨d', Table.find?_insert_self _ _ _, same sub ha⟩
    · exact ⟨d₁, (Table.find?_insert_ne _ hid _).trans hd₁, ha⟩
  · rw [hids]
    rw [hdata] at hd₁
    by_cases hj : j = id
    · exact hj ▸ hn.passed id d hd
    · exact hn.passed j d₁ ((Table.find?_insert_ne _ hj _).symm.trans hd₁)

/-- A datum that nobody waits for may be collected. -/
theorem keeps_collect (hn : s.Numbered) (id : DatumId) : Keeps s (s.collect id) := by
  refine ⟨subscriptions_collect s id, fun sub hsub d hd ha => ?_,
    ⟨ids_collect s id ▸ hn.upward, fun j d hd => ?_⟩⟩
  · by_cases hid : sub.id = id
    · have waiting : s.subscriptions.hasPending id = true :=
        List.any_eq_true.2 ⟨sub, hsub, by rw [hid, beq_self_eq_true]⟩
      rw [find?_collect_of_hasPending s id waiting]
      exact ⟨d, hd, ha⟩
    · exact ⟨d, (find?_collect_ne s id hid).trans hd, ha⟩
  · rw [ids_collect]
    by_cases hj : j = id
    · subst hj
      rcases find?_collect_self s j with stays | gone
      · exact hn.passed j d (stays.symm.trans hd)
      · rw [gone.1] at hd
        cases hd
    · exact hn.passed j d ((find?_collect_ne s id hj).symm.trans hd)

end Keeps

section Settled

variable {s t s' : Shard} {id : DatumId} {d : Datum} {content : Content} {op : Operation}
  {ended notices : List (Rank × Notice)}

/-- Every notice of a closing goes to somebody who waited for the datum. -/
theorem ClosedOff.exists_of_mem (h : ClosedOff s id content s' notices) {p : Rank × Notice}
    (hp : p ∈ notices) : ∃ sub ∈ s.subscriptions, sub.id = id ∧ p = sub.notice sub.closing := by
  obtain ⟨sub, hsub, rfl⟩ := List.mem_map.1 (h.notices.mem_iff.1 hp)
  obtain ⟨mem, same⟩ := List.mem_filter.1 hsub
  exact ⟨sub, mem, by simpa using same, rfl⟩

theorem ClosedOff.account (h : ClosedOff s id content s' notices) :
    s.pending.Perm (s'.pending ++ notices.map endedWait) := by
  have told : (notices.map endedWait).Perm
      ((s.subscriptions.filter fun sub => sub.id == id).map Subscription.wait) := by
    refine (h.notices.map endedWait).trans ?_
    rw [List.map_map]
    exact .refl _
  rw [pending, pending, h.subscriptions]
  refine .trans ?_ (told.append_left _).symm
  rw [← List.map_append]
  exact (List.perm_append_comm.trans
    (List.filter_append_perm (fun sub => sub.id == id) s.subscriptions)).symm.map _

/-- A datum that is put back keeps the account of the waits, on an open datum of a shard `s`
that some waits, those of the notices `ended`, were taken from to give `t`. -/
theorem Settled.account (h : Settled t id d s' notices)
    (hended : s.pending.Perm (t.pending ++ ended.map endedWait)) :
    s.pending.Perm (s'.pending ++ (ended ++ notices).map endedWait) := by
  have put : t.pending.Perm (s'.pending ++ notices.map endedWait) := by
    cases h with
    | stays => rw [List.map_nil, List.append_nil]; exact .refl _
    | closes off => exact off.account
  refine hended.trans ((put.append_right _).trans ?_)
  rw [List.append_assoc, List.map_append]
  exact List.perm_append_comm.append_left _

theorem Settled.leftAs (h : Settled t id d s' notices) : s'.LeftAs id d.content := by
  cases h with
  | stays same => exact .inl ⟨_, Table.find?_insert_self _ _ _, same⟩
  | closes off => exact off.closed.leftAs

theorem Settled.numbered (h : Settled t id d s' notices) (hn : t.Numbered)
    (hid : t.ids.Passed id) : s'.Numbered := by
  cases h with
  | stays =>
    refine ⟨hn.upward, fun j d₁ hd₁ => ?_⟩
    by_cases hj : j = id
    · exact hj ▸ hid
    · exact hn.passed j d₁ ((Table.find?_insert_ne _ hj _).symm.trans hd₁)
  | closes off =>
    refine ⟨off.ids ▸ hn.upward, fun j d₁ hd₁ => ?_⟩
    rw [off.ids]
    by_cases hj : j = id
    · exact hj ▸ hid
    · exact hn.passed j d₁ ((off.others j hj).symm.trans hd₁)

theorem Settled.waits (h : Settled t id d s' notices)
    (hothers : ∀ sub ∈ t.subscriptions, sub.id ≠ id →
      ∃ d, t.data.find? sub.id = some d ∧ Awaited d sub)
    (hself : ∀ sub ∈ t.subscriptions, sub.id = id → Awaited d sub) : s'.Waits := by
  cases h with
  | stays content closed =>
    intro sub hsub
    by_cases hid : sub.id = id
    · obtain ⟨still, members⟩ := hself sub hsub hid
      refine ⟨_, by rw [hid]; exact Table.find?_insert_self _ _ _, closed.trans still, ?_⟩
      rw [content]
      exact members
    · obtain ⟨d₁, hd₁, ha⟩ := hothers sub hsub hid
      exact ⟨d₁, (Table.find?_insert_ne _ hid _).trans hd₁, ha⟩
  | closes off =>
    intro sub hsub
    rw [off.subscriptions] at hsub
    obtain ⟨mem, other⟩ := List.mem_filter.1 hsub
    have hid : sub.id ≠ id := by simpa using other
    obtain ⟨d₁, hd₁, ha⟩ := hothers sub mem hid
    exact ⟨d₁, (off.others _ hid).trans hd₁, ha⟩

/-- **An operation that puts an open datum back** pays what it owes, if the waits that it ended
before have a reason and those that are left can still end. What is left to justify then are the
notices of a closing. -/
theorem Settled.fires (h : Settled t id d s' notices) (hw : s.Waits) (hn : s.Numbered)
    (hdata : t.data = s.data) (hids : t.ids = s.ids)
    (hsubs : ∀ sub ∈ t.subscriptions, sub ∈ s.subscriptions)
    (hended : s.pending.Perm (t.pending ++ ended.map endedWait))
    (hreason : ∀ p ∈ ended, Justified s op s' p.2)
    (hopen : s.OpenAs id content) (hclosed : d.closed = false)
    (hawait : ∀ sub ∈ t.subscriptions, sub.id = id → ∀ k, sub.subscript = some k →
      ∃ c, content = .container c ∧ d.content = .container (op.written id c) ∧
        c.lookup k = none ∧ (op.written id c).lookup k = none) :
    Fires s op [] s' (ended ++ notices) := by
  have passed : t.ids.Passed id := by
    obtain ⟨d₁, hd₁, -⟩ := hopen
    exact hids ▸ hn.passed id d₁ hd₁
  have numbered : t.Numbered :=
    ⟨hids ▸ hn.upward, fun j d₁ hd₁ => hids ▸ hn.passed j d₁ (hdata ▸ hd₁)⟩
  refine ⟨h.waits ?_ ?_, h.numbered numbered passed, ?_, ?_⟩
  · intro sub hsub _
    rw [hdata]
    exact hw sub (hsubs sub hsub)
  · intro sub hsub hid
    refine ⟨hclosed, fun k hk => ?_⟩
    obtain ⟨c, -, hcontent, -, absent⟩ := hawait sub hsub hid k hk
    exact ⟨_, hcontent, absent⟩
  · rw [List.append_nil]
    exact h.account hended
  · intro p hp
    rcases List.mem_append.1 hp with hp | hp
    · exact hreason p hp
    cases h with
    | stays => cases hp
    | closes off =>
      obtain ⟨sub, hsub, hid, rfl⟩ := off.exists_of_mem hp
      subst hid
      unfold Justified Subscription.notice Subscription.closing
      cases hk : sub.subscript with
      | none => exact ⟨rfl, content, d.content, hopen, off.closed⟩
      | some k =>
        obtain ⟨c, rfl, hcontent, before, after⟩ := hawait sub hsub rfl k hk
        exact ⟨k, c, rfl, hopen, before, hcontent ▸ off.closed, after⟩

/-- The same, if no waits ended before. -/
theorem Settled.fires_alone (h : Settled t id d s' notices) (hw : s.Waits) (hn : s.Numbered)
    (hdata : t.data = s.data) (hids : t.ids = s.ids) (hsubs : t.subscriptions = s.subscriptions)
    (hopen : s.OpenAs id content) (hclosed : d.closed = false)
    (hawait : ∀ sub ∈ s.subscriptions, sub.id = id → ∀ k, sub.subscript = some k →
      ∃ c, content = .container c ∧ d.content = .container (op.written id c) ∧
        c.lookup k = none ∧ (op.written id c).lookup k = none) :
    Fires s op [] s' notices := by
  rw [← List.nil_append notices]
  refine h.fires hw hn hdata hids (fun sub hsub => hsubs ▸ hsub) ?_ (fun _ h => nomatch h) hopen
    hclosed fun sub hsub => hawait sub (hsubs ▸ hsub)
  rw [List.map_nil, List.append_nil, pending, pending, hsubs]

end Settled

end Shard

end WorkPool
