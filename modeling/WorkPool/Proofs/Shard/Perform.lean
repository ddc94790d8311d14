import WorkPool.Proofs.Shard.Creation

/-!
# What every operation owes those who wait

One lemma for each operation of a shard, and from them `perform_fires`, which says of every
operation that it pays what it owes. The operations that make their container first share
`onContainer_fires`: nobody waits for what is new, and what is refused is taken back.
-/

namespace WorkPool

namespace Operation

/-- The wait that an operation asks for. -/
def wait? (rank : Rank) : Operation → Option Wait
  | .subscribe id subscript token => some ⟨rank, token, id, subscript⟩
  | .refer id subscript _ token => some ⟨rank, token, id, some subscript⟩
  | _ => none

/-- The wait that an operation registers, as its answer says. -/
def registers (rank : Rank) (op : Operation) : Except Error Reply → List Wait
  | .ok (.subscribed .pending) => (op.wait? rank).toList
  | _ => []

/-- An operation registers a wait only if it is answered that one is pending. -/
theorem registers_of_ne {rank : Rank} {op : Operation} {r : Except Error Reply}
    (h : r ≠ .ok (.subscribed .pending)) : op.registers rank r = [] := by
  unfold registers
  split
  · exact absurd rfl h
  · rfl

/-- An operation that does not wait registers nothing. -/
theorem registers_of_none {rank : Rank} {op : Operation} (h : op.wait? rank = none)
    (r : Except Error Reply) : op.registers rank r = [] := by
  unfold registers
  split
  · rw [h]
    rfl
  · rfl

end Operation

namespace Shard

/-! ## Operation by operation -/

section Operations

variable {s : Shard} {id : DatumId} {d : Datum} {op : Operation}

/-- A scalar has no waits for subscripts. -/
theorem Waits.subscript_none (hw : s.Waits) (hd : s.data.find? id = some d)
    (scalar : d.content.kind ≠ .container) {sub : Subscription} (hsub : sub ∈ s.subscriptions)
    (hid : sub.id = id) : sub.subscript = none := by
  obtain ⟨d₁, hd₁, -, members⟩ := hw sub hsub
  rw [hid, hd] at hd₁
  cases hd₁
  cases hk : sub.subscript with
  | none => rfl
  | some k =>
    obtain ⟨c, hc, -⟩ := members k hk
    exact absurd (by rw [hc]; rfl) scalar

/-- Only a container has waits for subscripts. -/
theorem Waits.kind (hw : s.Waits) (hd : s.data.find? id = some d) :
    ∀ sub ∈ s.subscriptions, sub.id = id → sub.subscript ≠ none → d.content.kind = .container := by
  intro sub hsub hid hk
  refine Decidable.byContradiction fun scalar => hk ?_
  exact hw.subscript_none hd scalar hsub hid

/-- A subscript that is waited for is one that the container has not. -/
theorem Waits.absent (hw : s.Waits) (hd : s.data.find? id = some d) {sub : Subscription}
    (hsub : sub ∈ s.subscriptions) (hid : sub.id = id) {k : String}
    (hk : sub.subscript = some k) : ∃ c, d.content = .container c ∧ c.lookup k = none := by
  obtain ⟨d₁, hd₁, -, members⟩ := hw sub hsub
  rw [hid, hd] at hd₁
  cases hd₁
  exact members k hk

/-- **Setting a scalar** ends the waits for it, if it closes. -/
theorem store_fires {value : Value} {drops : UInt32} {o : Outcome Unit} (hw : s.Waits)
    (hn : s.Numbered) (h : s.store id value drops = .ok o) :
    Fires s op [] o.shard o.effects.notices := by
  cases store_stores h with
  | refused => exact (keeps_of_ids hn rfl rfl rfl).fires hw
  | full => exact (keeps_memory hn _).fires hw
  | @done d content memory s' notices storable granted settled =>
    have settled : Settled { s with memory } id { d with content, footprint := value.size } s'
        notices :=
      settle_settled settled fun sub hsub hid hk =>
        absurd (hw.subscript_none storable.live storable.scalar hsub hid) hk
    refine settled.fires_alone hw hn rfl rfl rfl ⟨d, storable.live, storable.opened, rfl⟩
      storable.opened ?_
    intro sub hsub hid k hk
    rw [hw.subscript_none storable.live storable.scalar hsub hid] at hk
    cases hk

/-- Setting a scalar from raw bytes ends the waits for it, if it closes. -/
theorem storeBytes_fires {bytes : Bytes} {drops : UInt32} {o : Outcome Unit} (hw : s.Waits)
    (hn : s.Numbered) (h : s.storeBytes id bytes drops = .ok o) :
    Fires s op [] o.shard o.effects.notices := by
  unfold storeBytes at h
  split at h
  · cases h
    exact (keeps_of_ids hn rfl rfl rfl).fires hw
  · exact store_fires hw hn h

/-- Giving up writers of an open datum, as `dropWriters` and `close` do, pays what it owes. -/
theorem Settled.fires_same {s' : Shard} {d' : Datum} {notices : List (Rank × Notice)}
    (h : Settled s id d' s' notices) (hw : s.Waits) (hn : s.Numbered)
    (hd : s.data.find? id = some d) (hopen : d.closed = false) (hcontent : d'.content = d.content)
    (hclosed : d'.closed = d.closed) (hop : ∀ c, op.written id c = c) :
    Fires s op [] s' notices := by
  refine h.fires_alone hw hn rfl rfl rfl ⟨d, hd, hopen, rfl⟩ (hclosed.trans hopen) ?_
  intro sub hsub hid k hk
  obtain ⟨c, hc, absent⟩ := hw.absent hd hsub hid hk
  exact ⟨c, hc, by rw [hcontent, hop, hc], absent, by rw [hop, absent]⟩

/-- **Giving up writers** ends the waits for a datum, if it closes. -/
theorem dropWriters_fires {count : UInt32} {o : Outcome Unit} (hw : s.Waits) (hn : s.Numbered)
    (h : s.dropWriters id count = .ok o) (hop : ∀ c, op.written id c = c) :
    Fires s op [] o.shard o.effects.notices := by
  cases dropWriters_givesUp h with
  | refused => exact (keeps_of_ids hn rfl rfl rfl).fires hw
  | done live opened _ settled =>
    exact (settle_settled settled (hw.kind live)).fires_same hw hn live opened rfl rfl hop

/-- **Closing a datum** ends the waits for it. -/
theorem close_fires (hw : s.Waits) (hn : s.Numbered) (hop : ∀ c, op.written id c = c) :
    Fires s op [] (s.close id).shard (s.close id).effects.notices := by
  unfold close
  split
  · exact (keeps_of_ids hn rfl rfl rfl).fires hw
  rename_i d hd
  split
  · exact (keeps_of_ids hn rfl rfl rfl).fires hw
  rename_i hopen
  have live := find?_of_changeable hd
  have settled : Settled s id { d with writers := 0 } _ _ :=
    .closes (closeDatum_closedOff (d := { d with writers := 0 }) (hw.kind (d := d) live))
  exact settled.fires_same hw hn live (by simpa using hopen) rfl rfl hop

/-! Operations that end no wait. -/

/-- Adding writers ends no wait. -/
theorem addWriters_keeps {count : UInt32} {o : Outcome Unit} (hn : s.Numbered)
    (h : s.addWriters id count = .ok o) : Keeps s o.shard ∧ o.effects.notices = [] := by
  unfold addWriters at h
  split at h
  · cases h
    exact ⟨keeps_of_ids hn rfl rfl rfl, rfl⟩
  rename_i d hd
  split at h
  · cases h
    exact ⟨keeps_of_ids hn rfl rfl rfl, rfl⟩
  obtain ⟨writers, -, h⟩ := bind_eq_ok h
  cases h
  exact ⟨keeps_insert hn (find?_of_changeable hd) rfl rfl rfl fun _ ha => ha, rfl⟩

/-- Adding readers ends no wait. -/
theorem addReaders_keeps {count : UInt32} {o : Outcome Unit} (hn : s.Numbered)
    (h : s.addReaders id count = .ok o) : Keeps s o.shard ∧ o.effects.notices = [] := by
  unfold addReaders at h
  split at h
  · cases h
    exact ⟨keeps_of_ids hn rfl rfl rfl, rfl⟩
  rename_i d hd
  obtain ⟨readers, -, h⟩ := bind_eq_ok h
  cases h
  exact ⟨keeps_insert hn (find?_of_changeable hd) rfl rfl rfl fun _ ha => ha, rfl⟩

/-- Giving up readers ends no wait. -/
theorem dropReaders_keeps {count : UInt32} (hn : s.Numbered) :
    Keeps s (s.dropReaders id count).shard ∧ (s.dropReaders id count).effects.notices = [] := by
  unfold dropReaders
  split
  · exact ⟨keeps_of_ids hn rfl rfl rfl, rfl⟩
  rename_i d hd
  split
  · exact ⟨keeps_of_ids hn rfl rfl rfl, rfl⟩
  have put : Keeps s { s with data := s.data.insert id { d with readers := d.readers - count } } :=
    keeps_insert hn (find?_of_changeable hd) rfl rfl rfl fun _ ha => ha
  exact ⟨put.trans (keeps_collect put.numbered id), rfl⟩

/-- Taking a lock ends no wait. -/
theorem lock_keeps {rank : Rank} (hn : s.Numbered) :
    Keeps s (s.lock id rank).shard ∧ (s.lock id rank).effects.notices = [] := by
  unfold lock
  split
  · exact ⟨keeps_of_ids hn rfl rfl rfl, rfl⟩
  · split <;> exact ⟨keeps_of_ids hn rfl rfl rfl, rfl⟩

theorem unlock_keeps {rank : Rank} (hn : s.Numbered) :
    Keeps s (s.unlock id rank).shard ∧ (s.unlock id rank).effects.notices = [] := by
  unfold unlock
  split
  · exact ⟨keeps_of_ids hn rfl rfl rfl, rfl⟩
  split
  · split <;> exact ⟨keeps_of_ids hn rfl rfl rfl, rfl⟩
  · exact ⟨keeps_of_ids hn rfl rfl rfl, rfl⟩

end Operations

/-! ## New data -/

section New

/-- Whatever is new, the data that were live stay as they are. -/
structure Adds (s s' : Shard) : Prop where
  /-- all waits stay -/
  subscriptions : s'.subscriptions = s.subscriptions
  /-- all data stay -/
  live : ∀ j d, s.data.find? j = some d → s'.data.find? j = some d
  /-- ids stay fresh -/
  numbered : s'.Numbered

variable {s s' s'' : Shard} {id : DatumId} {op : Operation}

/-- New data keep the old ones. -/
theorem Adds.keeps (h : Adds s s') : Keeps s s' :=
  ⟨h.subscriptions, fun sub _ d hd ha => ⟨d, h.live sub.id d hd, ha⟩, h.numbered⟩

/-- New data, and then more of them. -/
theorem Adds.trans (h : Adds s s') (h' : Adds s' s'') : Adds s s'' :=
  ⟨h'.subscriptions.trans h.subscriptions, fun j d hd => h'.live j d (h.live j d hd), h'.numbered⟩

/-- Notes add no data. -/
theorem Noted.adds (h : Noted s s') (hn : s.Numbered) : Adds s s' := by
  obtain ⟨onward, -⟩ := h
  exact ⟨rfl, fun _ _ hd => hd, onward.upward hn.upward,
    fun j d hd => onward.passed j (hn.passed j d hd)⟩

/-- A new datum has an id that no datum had. -/
theorem Making.adds {spec : Spec} {content : Content} {ids : IdSource} {memory : MemoryBudget}
    (h : Making s spec id content ids memory) (hn : s.Numbered) :
    Adds s (s.made spec id content ids memory) := by
  refine ⟨rfl, fun j d hd => ?_, h.onward.upward hn.upward, fun j d hd => ?_⟩
  · exact (Table.find?_insert_ne _ (Table.ne_of_find? h.absent hd).symm _).trans hd
  · by_cases hj : j = id
    · exact hj ▸ h.passed
    · exact h.onward.passed j (hn.passed j d ((Table.find?_insert_ne _ hj _).symm.trans hd))

/-- **A creation** adds one datum at most. -/
theorem Created.adds {spec : Spec} {r : Except Error DatumId} (h : Created s spec s' r)
    (hn : s.Numbered) : Adds s s' := by
  cases h with
  | refused noted => exact noted.adds hn
  | made making => exact making.adds hn

/-- An operation after new data were added owes what it would have owed before: whoever is told
waited for a datum that was there, and nobody waits for what is new. -/
theorem Fires.of_adds {notices : List (Rank × Notice)} (hadds : Adds s s') (hw : s.Waits)
    (h : Fires s' op [] s'' notices) : Fires s op [] s'' notices := by
  have account : s.pending.Perm (s''.pending ++ notices.map endedWait) := by
    rw [pending, ← hadds.subscriptions, ← List.append_nil (s'.subscriptions.map _)]
    exact h.account
  refine ⟨h.waits, h.numbered, by rwa [List.append_nil], fun p hp => ?_⟩
  have waited : endedWait p ∈ s.pending :=
    account.mem_iff.2 (List.mem_append_right _ (List.mem_map_of_mem hp))
  obtain ⟨sub, hsub, hwait⟩ := List.mem_map.1 waited
  obtain ⟨d, hd, -⟩ := hw sub hsub
  have hid : sub.id = p.2.id := congrArg Wait.id hwait
  rw [hid] at hd
  have before {content : Content} (ho : s'.OpenAs p.2.id content) : s.OpenAs p.2.id content := by
    obtain ⟨d', hd', hopen⟩ := ho
    rw [hadds.live _ d hd] at hd'
    cases hd'
    exact ⟨d, hd, hopen⟩
  have reason := h.justified p hp
  unfold Justified at reason ⊢
  cases event : p.2.event with
  | closed =>
    simp only [event] at reason ⊢
    obtain ⟨hsubscript, b, a, ho, hc⟩ := reason
    exact ⟨hsubscript, b, a, before ho, hc⟩
  | inserted member =>
    simp only [event] at reason ⊢
    obtain ⟨k, drops, c, hk, hop, ho, rest⟩ := reason
    exact ⟨k, drops, c, hk, hop, before ho, rest⟩
  | missing =>
    simp only [event] at reason ⊢
    obtain ⟨k, c, hk, ho, rest⟩ := reason
    exact ⟨k, c, hk, before ho, rest⟩

/-- **An operation on a container** that is made if need be, and taken back if the operation is
refused. -/
theorem onContainer_fires {α : Type} {act : Shard → Except Fault (Outcome α)} {o : Outcome α}
    (hw : s.Waits) (hn : s.Numbered)
    (hrefused : ∀ s o e, act s = .ok o → o.result = .error e → RefusedAs s o)
    (hact : ∀ s o, s.Waits → s.Numbered → act s = .ok o →
      Fires s op [] o.shard o.effects.notices)
    (h : s.onContainer id act = .ok o) : Fires s op [] o.shard o.effects.notices := by
  cases onContainer_acted hn hrefused h with
  | there live acted => exact hact _ _ hw hn acted
  | refused absent refused result unmade =>
    rw [refused.effects]
    exact (refused.noted.adds hn).keeps.fires hw
  | made making acted result =>
    have adds := making.adds hn
    exact (hact _ _ (adds.keeps.waits hw) adds.numbered acted).of_adds adds hw
  | leaked null making refused result =>
    have adds := making.adds hn
    rw [refused.effects]
    exact (adds.trans (refused.noted.adds adds.numbered)).keeps.fires hw

end New

/-! ## Members and waits -/

section Members

variable {s : Shard} {id : DatumId} {subscript : String} {member : Bytes} {drops : UInt32}
  {op : Operation}

/-- A member that is refused leaves everything but a note. -/
theorem insertMember_spared {o : Outcome Unit} {e : Error}
    (h : s.insertMember id subscript member drops = .ok o) (he : o.result = .error e) :
    Spared s o := by
  cases insertMember_inserts h with
  | refused => exact spared_refuse s _
  | full resized => exact spared_memory resized
  | done => cases he

/-- A member that is refused leaves no more than it may. -/
theorem insertMember_refused {o : Outcome Unit} {e : Error}
    (h : s.insertMember id subscript member drops = .ok o) (he : o.result = .error e) :
    RefusedAs s o :=
  (insertMember_spared h he).refusedAs

/-- The waits are those that a write ends and those that it leaves. -/
theorem endedBy_perm (s : Shard) (id : DatumId) (subscript : String) (old : Option Bytes) :
    s.subscriptions.Perm ((s.endedBy id subscript old).2 ++ (s.endedBy id subscript old).1) := by
  unfold endedBy
  split
  · rw [List.append_nil]
  · exact (List.perm_append_comm.trans (List.filter_append_perm _ s.subscriptions)).symm

/-- A write ends the waits for its subscript, if that had no member. -/
theorem mem_endedBy {old : Option Bytes} {sub : Subscription}
    (h : sub ∈ (s.endedBy id subscript old).1) :
    sub ∈ s.subscriptions ∧ old = none ∧ sub.id = id ∧ sub.subscript = some subscript := by
  unfold endedBy at h
  split at h
  · cases h
  · rename_i hold
    obtain ⟨mem, waits⟩ := List.mem_filter.1 h
    simp only [Subscriptions.onSubscript, Bool.and_eq_true, beq_iff_eq] at waits
    exact ⟨mem, by simpa using hold, waits⟩

/-- A wait that is left is for another subscript: nobody waits for one that has a member. -/
theorem mem_leftBy {c : Container} {d : Datum} (hw : s.Waits) (hd : s.data.find? id = some d)
    (hc : d.content = .container c) {sub : Subscription}
    (h : sub ∈ (s.endedBy id subscript (c.lookup subscript)).2) :
    sub ∈ s.subscriptions ∧ (sub.id = id → sub.subscript ≠ some subscript) := by
  unfold endedBy at h
  split at h
  · rename_i present
    refine ⟨h, fun hid hk => ?_⟩
    obtain ⟨c', hc', absent⟩ := hw.absent hd h hid hk
    rw [hc] at hc'
    cases hc'
    rw [absent] at present
    cases present
  · obtain ⟨mem, other⟩ := List.mem_filter.1 h
    refine ⟨mem, fun hid hk => ?_⟩
    simp [Subscriptions.onSubscript, hid, hk] at other

/-- **A write** ends the waits for its subscript. A wait that is left is for another one, which the
write does not touch. -/
theorem insertMember_fires {o : Outcome Unit} (hw : s.Waits) (hn : s.Numbered)
    (h : s.insertMember id subscript member drops = .ok o) :
    Fires s (.insert id subscript member drops) [] o.shard o.effects.notices := by
  cases insertMember_inserts h with
  | refused => exact (keeps_of_ids hn rfl rfl rfl).fires hw
  | full => exact (keeps_memory hn _).fires hw
  | @done d c others memory s' notices insertable rest granted settled =>
  obtain ⟨hd, hopen, -, hc, -⟩ := insertable
  have settled : Settled
      { s with memory, subscriptions := (s.endedBy id subscript (c.lookup subscript)).2 } id _ s'
      notices :=
    settle_settled settled fun _ _ _ _ => rfl
  have written : (Operation.insert id subscript member drops).written id c =
      c.write subscript member := if_pos rfl
  have account : s.pending.Perm
      ((s.endedBy id subscript (c.lookup subscript)).2.map Subscription.wait ++
        ((s.endedBy id subscript (c.lookup subscript)).1.map
          (·.notice (.inserted member))).map endedWait) := by
    rw [List.map_map]
    refine ((endedBy_perm s id subscript (c.lookup subscript)).map _).trans ?_
    rw [List.map_append]
    exact .refl _
  refine settled.fires hw hn rfl rfl (fun sub hsub => (mem_leftBy hw hd hc hsub).1) account ?_
    ⟨d, hd, hopen, hc⟩ hopen ?_
  · intro p hp
    obtain ⟨sub, hsub, rfl⟩ := List.mem_map.1 hp
    obtain ⟨-, absent, rfl, hk⟩ := mem_endedBy hsub
    refine ⟨subscript, drops, c, hk, rfl, ⟨d, hd, hopen, hc⟩, absent, ?_, ?_⟩
    · exact written ▸ settled.leftAs
    · exact written ▸ c.lookup_write_self subscript member
  · intro sub hsub hid k hk
    obtain ⟨mem, other⟩ := mem_leftBy hw hd hc hsub
    obtain ⟨c', hc', absent⟩ := hw.absent hd mem hid hk
    rw [hc] at hc'
    cases hc'
    have ne : k ≠ subscript := fun e => other hid (e ▸ hk)
    refine ⟨c, rfl, by rw [written], absent, ?_⟩
    rw [written, c.lookup_write_ne ne, absent]

/-- A reservation that is refused leaves everything but a note. -/
theorem reserveSubscript_spared {o : Outcome Bool} {e : Error}
    (h : s.reserveSubscript id subscript = .ok o) (he : o.result = .error e) : Spared s o := by
  cases reserveSubscript_reserves h with
  | refused => exact spared_refuse s _
  | taken => cases he
  | full resized => exact spared_memory resized
  | done => cases he

theorem reserveSubscript_refused {o : Outcome Bool} {e : Error}
    (h : s.reserveSubscript id subscript = .ok o) (he : o.result = .error e) :
    RefusedAs s o :=
  (reserveSubscript_spared h he).refusedAs

/-- A reservation ends no wait: the subscript is not present yet. -/
theorem reserveSubscript_fires {o : Outcome Bool} (hw : s.Waits) (hn : s.Numbered)
    (h : s.reserveSubscript id subscript = .ok o) :
    Fires s op [] o.shard o.effects.notices := by
  cases reserveSubscript_reserves h with
  | refused => exact (keeps_of_ids hn rfl rfl rfl).fires hw
  | taken => exact (keeps_of_ids hn rfl rfl rfl).fires hw
  | full => exact (keeps_memory hn _).fires hw
  | @done d c memory reservable free granted =>
    obtain ⟨-, hd, hopen, hc, -⟩ := reservable
    refine Keeps.fires (keeps_insert hn hd rfl rfl rfl fun sub ha => ?_) hw
    refine ⟨hopen, fun k hk => ?_⟩
    obtain ⟨c', hc', absent⟩ := ha.2 k hk
    rw [hc] at hc'
    cases hc'
    exact ⟨_, rfl, (c.lookup_hold subscript k).trans absent⟩

/-- A wait for something that can still happen is registered. -/
theorem fires_register (sub : Subscription) {d : Datum} (hw : s.Waits) (hn : s.Numbered)
    (hd : s.data.find? sub.id = some d) (ha : Awaited d sub) :
    Fires s op [sub.wait] { s with subscriptions := s.subscriptions ++ [sub] } [] := by
  refine ⟨fun sub' hsub' => ?_, ⟨hn.upward, hn.passed⟩, ?_, fun p hp => nomatch hp⟩
  · rcases List.mem_append.1 hsub' with hsub' | hsub'
    · exact hw sub' hsub'
    · cases List.mem_singleton.1 hsub'
      exact ⟨d, hd, ha⟩
  · rw [List.map_nil, List.append_nil, pending, pending, List.map_append]
    exact .refl _

/-- A wait is registered exactly if the answer says so. -/
structure Registers (s : Shard) (op : Operation) (wait : Wait) (o : Outcome SubscribeStatus) :
    Prop where
  /-- no wait ends -/
  quiet : o.effects.notices = []
  /-- a registered wait is pending -/
  pending : o.result = .ok .pending → Fires s op [wait] o.shard []
  /-- otherwise nothing changed -/
  same : o.result ≠ .ok .pending → o.shard = s

/-- **Waiting for a subscript** registers a wait, or finds the member. -/
theorem awaitSubscript_registers (sub : Subscription) (name : String) (hw : s.Waits)
    (hn : s.Numbered) (hsub : sub.subscript = some subscript) :
    Registers s op sub.wait (s.awaitSubscript sub subscript name) := by
  unfold awaitSubscript
  split
  · exact ⟨rfl, nofun, fun _ => rfl⟩
  rename_i d c passed
  obtain ⟨d₁, hd, passed⟩ := bind_eq_ok passed
  obtain ⟨c₁, hc, passed⟩ := bind_eq_ok passed
  obtain ⟨_, -, passed⟩ := bind_eq_ok passed
  cases passed
  split
  · exact ⟨rfl, nofun, fun _ => rfl⟩
  rename_i absent
  split
  · exact ⟨rfl, nofun, fun _ => rfl⟩
  rename_i hopen
  refine ⟨rfl, fun _ => ?_, fun h => absurd rfl h⟩
  refine fires_register sub hw hn (find?_of_live hd) ⟨by simpa using hopen, fun k hk => ?_⟩
  rw [hsub] at hk
  cases hk
  exact ⟨c, content_of_container hc, absent⟩

/-- **Waiting for a datum** registers a wait, or finds it closed. -/
theorem subscribe_registers {key : Option String} {rank : Rank} {token : UInt64} (hw : s.Waits)
    (hn : s.Numbered) : Registers s op ⟨rank, token, id, key⟩ (s.subscribe id key rank token) := by
  unfold subscribe
  simp only
  split
  · rename_i key
    exact awaitSubscript_registers ⟨id, some key, rank, token, none⟩ _ hw hn rfl
  split
  · exact ⟨rfl, nofun, fun _ => rfl⟩
  rename_i d hd
  split
  · exact ⟨rfl, nofun, fun _ => rfl⟩
  rename_i hopen
  refine ⟨rfl, fun _ => ?_, fun h => absurd rfl h⟩
  exact fires_register ⟨id, none, rank, token, none⟩ hw hn (find?_of_live hd)
    ⟨by simpa using hopen, nofun⟩

/-- A reference waits like anybody else. -/
theorem refer_registers {reference : Option DatumId} {rank : Rank} {token : UInt64} (hw : s.Waits)
    (hn : s.Numbered) :
    Registers s op ⟨rank, token, id, some subscript⟩
      (s.refer id subscript reference rank token) := by
  have await : Registers s op ⟨rank, token, id, some subscript⟩
      (s.awaitSubscript ⟨id, some subscript, rank, token, reference⟩ subscript
        "container_reference") :=
    awaitSubscript_registers ⟨id, some subscript, rank, token, reference⟩ _ hw hn rfl
  unfold refer
  simp only
  split
  · exact ⟨rfl, await.pending, await.same⟩
  · exact await

end Members

/-! ## All operations -/

section Perform

variable {s : Shard} {rank : Rank} {op : Operation}

/-- An operation that is no request to wait registers nothing. -/
theorem Fires.answered {α : Type} {o : Outcome α} (f : α → Reply)
    (h : Fires s op [] o.shard o.effects.notices) (hop : op.wait? rank = none) :
    Fires s op (op.registers rank (o.map f).result) (o.map f).shard (o.map f).effects.notices := by
  rw [Operation.registers_of_none hop]
  exact h

/-- An operation that waits owes nothing to those who waited before. -/
theorem Registers.fires {wait : Wait} {o : Outcome SubscribeStatus} (h : Registers s op wait o)
    (hw : s.Waits) (hn : s.Numbered)
    (hop : op.wait? rank = some wait) :
    Fires s op (op.registers rank (o.map Reply.subscribed).result) (o.map Reply.subscribed).shard
      (o.map Reply.subscribed).effects.notices := by
  have quiet : (o.map Reply.subscribed).effects.notices = [] := h.quiet
  rw [quiet]
  by_cases told : o.result = .ok .pending
  · have result : (o.map Reply.subscribed).result = .ok (.subscribed .pending) := by
      rw [Outcome.map, told]
      rfl
    rw [result, Operation.registers, hop]
    exact h.pending told
  · have result : (o.map Reply.subscribed).result ≠ .ok (.subscribed .pending) := by
      intro e
      obtain ⟨status, hstatus, e⟩ := map_eq_ok e
      cases e
      exact told hstatus
    rw [Operation.registers_of_ne result, Outcome.map, h.same told]
    exact (keeps_of_ids hn rfl rfl rfl).fires hw

/-- **Every operation** pays what it owes those who wait. -/
theorem perform_fires {o : Outcome Reply} (hw : s.Waits) (hn : s.Numbered)
    (h : s.perform rank op = .ok o) :
    Fires s op (op.registers rank o.result) o.shard o.effects.notices := by
  have quiet {α : Type} {o : Outcome α} (h : Keeps s o.shard ∧ o.effects.notices = []) :
      Fires s op [] o.shard o.effects.notices := h.2 ▸ h.1.fires hw
  have read {α : Type} (r : Except Error α) :
      Fires s op [] (s.inspect r).shard (s.inspect r).effects.notices :=
    quiet ⟨keeps_of_ids hn rfl rfl rfl, rfl⟩
  cases op with
  | create spec =>
    obtain ⟨o, ho, h⟩ := bind_eq_ok h
    cases h
    obtain ⟨created, none⟩ := create_created hn ho
    exact (quiet ⟨(created.adds hn).keeps, by rw [none]⟩).answered _ rfl
  | store id value drops =>
    obtain ⟨o, ho, h⟩ := bind_eq_ok h
    cases h
    exact (store_fires hw hn ho).answered _ rfl
  | storeBytes id bytes drops =>
    obtain ⟨o, ho, h⟩ := bind_eq_ok h
    cases h
    exact (storeBytes_fires hw hn ho).answered _ rfl
  | addWriters id count =>
    obtain ⟨o, ho, h⟩ := bind_eq_ok h
    cases h
    exact (quiet (addWriters_keeps hn ho)).answered _ rfl
  | dropWriters id count =>
    obtain ⟨o, ho, h⟩ := bind_eq_ok h
    cases h
    exact (dropWriters_fires hw hn ho fun _ => rfl).answered _ rfl
  | addReaders id count =>
    obtain ⟨o, ho, h⟩ := bind_eq_ok h
    cases h
    exact (quiet (addReaders_keeps hn ho)).answered _ rfl
  | dropReaders id count =>
    cases h
    exact (quiet (dropReaders_keeps hn)).answered _ rfl
  | insert id subscript member drops =>
    obtain ⟨o, ho, h⟩ := bind_eq_ok h
    cases h
    exact (onContainer_fires hw hn (fun _ _ _ => insertMember_refused)
      (fun _ _ hw hn => insertMember_fires hw hn) ho).answered _ rfl
  | reserve id subscript =>
    obtain ⟨o, ho, h⟩ := bind_eq_ok h
    cases h
    exact (onContainer_fires hw hn (fun _ _ _ => reserveSubscript_refused)
      (fun _ _ hw hn => reserveSubscript_fires hw hn) ho).answered _ rfl
  | subscribe id subscript token =>
    cases h
    exact (subscribe_registers hw hn).fires hw hn rfl
  | refer id subscript reference token =>
    cases h
    exact (refer_registers hw hn).fires hw hn rfl
  | close id =>
    cases h
    exact (close_fires hw hn fun _ => rfl).answered _ rfl
  | unique =>
    obtain ⟨o, ho, h⟩ := bind_eq_ok h
    cases h
    obtain ⟨⟨ids, fresh⟩, hfresh, ho⟩ := bind_eq_ok ho
    cases ho
    have noted : Noted s { s with ids } := .intro (allocate_noted hn hfresh).1 (.refl _)
    exact (quiet ⟨(noted.adds hn).keeps, rfl⟩).answered _ rfl
  | lock id =>
    cases h
    exact (quiet (lock_keeps hn)).answered _ rfl
  | unlock id =>
    cases h
    exact (quiet (unlock_keeps hn)).answered _ rfl
  | has | retrieve | enumerate | lookup | kindOf | subscriptKindOf | sizeOf =>
    cases h
    exact (read _).answered _ rfl

/-- No operation on data is answered with a unit. -/
theorem map_ne_work {α : Type} {f : α → Reply} (hf : ∀ a u, f a ≠ .work u)
    (o : Outcome α) (u : WorkUnit) : (o.map f).result ≠ .ok (.work u) := by
  intro h
  obtain ⟨a, -, e⟩ := map_eq_ok h
  exact hf a u e

/-- An operation on data is never answered with a unit of work. -/
theorem perform_ne_work {o : Outcome Reply} (h : s.perform rank op = .ok o) (u : WorkUnit) :
    o.result ≠ .ok (.work u) := by
  cases op with
  | create | store | storeBytes | addWriters | dropWriters | addReaders | insert | reserve
    | unique =>
    obtain ⟨o, -, h⟩ := bind_eq_ok h
    cases h
    exact map_ne_work (fun _ _ e => by cases e) o u
  | has | retrieve | enumerate | dropReaders | lookup | subscribe | refer | close
    | kindOf | subscriptKindOf | sizeOf | lock | unlock =>
    cases h
    exact map_ne_work (fun _ _ e => by cases e) _ u

end Perform

end Shard

end WorkPool
