import WorkPool.Proofs.Shard.Changes

/-!
# Exact memory accounting

Every datum is counted with the bytes of its content (`Datum.Exact`), and the budget of a shard
with the sum of what its live data are counted with (`Books`). No operation recounts: each takes
off what it removes and adds what it brings, so that this is an invariant of every kind of step
(`Books.change`).

It follows that no difference an operation forms is out of range
(`perform_ne_subtractOverflow`): what is taken off was counted before.
-/

namespace WorkPool

/-! ## What a datum is counted with -/

/-- A datum is counted with the bytes of its content, and a container has its order aligned with
its slots. -/
structure Datum.Exact (d : Datum) : Prop where
  footprint : d.footprint = d.content.size
  aligned : ∀ c, d.content = .container c → c.Aligned

theorem Content.size_ofValue? {value : Value} {content : Content}
    (h : Content.ofValue? value = some content) : content.size = value.size := by
  cases value <;> cases h <;> rfl

/-- **A write** counts what it takes off and what it brings, and keeps the order of a container
aligned with its slots. -/
theorem Datum.Written.exact {d : Datum} {content : Content} {footprint : Nat}
    (h : d.Written content footprint) (hd : d.Exact) :
    footprint = content.size ∧ ∀ c, content = .container c → c.Aligned := by
  cases h with
  | none => exact ⟨hd.footprint, hd.aligned⟩
  | scalar kind holds =>
    refine ⟨(Content.size_ofValue? holds).symm, ?_⟩
    rintro c rfl
    rename_i value
    cases value <;> cases holds
  | member subscript member container rest =>
    rename_i c others
    have aligned := hd.aligned c container
    have counted := hd.footprint
    have bytes := aligned.bytes_write subscript member
    rw [container, Content.size] at counted
    refine ⟨?_, ?_⟩
    · rw [Content.size]
      omega
    · rintro _ ⟨⟩
      exact aligned.write subscript member
  | reserved container free =>
    rename_i c subscript
    have aligned := hd.aligned c container
    have counted := hd.footprint
    rw [container, Content.size] at counted
    refine ⟨?_, ?_⟩
    · rw [Content.size, aligned.bytes_hold free, counted]
    · rintro _ ⟨⟩
      exact aligned.hold subscript

theorem Datum.Turns.exact {d d' : Datum} (h : d.Turns d') (hd : d.Exact) : d'.Exact := by
  obtain ⟨footprint, aligned⟩ := h.written.exact hd
  exact ⟨footprint, aligned⟩

/-- A new container is empty. -/
theorem Content.eq_of_ofSpec {spec : Spec} {c : Container}
    (h : Content.ofSpec spec = .ok (.container c)) : ∃ kind, c = { subscriptKind := kind } := by
  unfold Content.ofSpec at h
  split at h
  case h_6 =>
    simp only at h
    split at h
    · cases h
      exact ⟨_, rfl⟩
    · cases h
  all_goals cases h

namespace Shard

/-! ## What the budget is counted with -/

/-- The bytes in use are those of the live data, and within the limit. -/
structure Books (limit : Nat) (s : Shard) : Prop where
  /-- every datum is counted with its bytes -/
  exact : ∀ id d, s.data.find? id = some d → d.Exact
  /-- the bytes in use are the sum of that -/
  used : s.memory.used = s.data.total Datum.footprint
  sound : s.memory.Sound
  limit : s.memory.limit = limit

section Books

variable {limit : Nat} {s s' : Shard} {id : DatumId} {d d' : Datum} {memory : MemoryBudget}

theorem books_new (index : UInt64) (settings : Settings) :
    Books settings.maxMemoryBytes.toNat (Shard.new index settings) :=
  ⟨fun _ _ hd => (nomatch hd), rfl, MemoryBudget.sound_new _, rfl⟩

/-- What is counted with a live datum is in use. -/
theorem Books.covered (h : Books limit s) (live : s.data.find? id = some d) :
    d.footprint ≤ s.memory.used := by
  rw [h.used]
  exact Table.le_total Datum.footprint live

theorem Books.make {spec : Spec} {content : Content} {ids : IdSource} (h : Books limit s)
    (making : Making s spec id content ids memory) :
    Books limit (s.made spec id content ids memory) := by
  obtain ⟨sound, used, same⟩ := h.sound.allocate making.granted
  refine ⟨Table.forall_insert ⟨rfl, ?_⟩ h.exact, ?_, sound, same.trans h.limit⟩
  · rintro c rfl
    obtain ⟨kind, rfl⟩ := Content.eq_of_ofSpec making.ofSpec
    exact Container.aligned_empty kind
  · simp only [made]
    rw [used, h.used, Table.total_insert_of_none _ making.absent]

/-- A datum that turns into another is counted with the bytes of that. -/
theorem Books.turning {closed : Nat} (h : Books limit s)
    (turning : Turning s id d d' memory closed) :
    Books limit { s with data := s.data.insert id d', memory } := by
  have exact := turning.turns.exact (h.exact id d turning.live)
  obtain ⟨sound, used, same⟩ := h.sound.resize (h.covered turning.live) turning.granted
  refine ⟨Table.forall_insert exact h.exact, ?_, sound, same.trans h.limit⟩
  have sum := Table.total_insert Datum.footprint turning.live d'
  have before := h.used
  show memory.used = (s.data.insert id d').total Datum.footprint
  omega

/-- A datum that is taken out is counted no more. -/
theorem Books.release (h : Books limit s) (live : s.data.find? id = some d) :
    Books limit { s with data := s.data.erase id, memory := s.memory.release d.footprint } := by
  obtain ⟨sound, used⟩ := h.sound.release (h.covered live)
  refine ⟨Table.forall_erase h.exact, ?_, sound, h.limit⟩
  have sum := Table.total_erase Datum.footprint live
  have before := h.used
  show (s.memory.release d.footprint).used = (s.data.erase id).total Datum.footprint
  omega

/-- **Every kind of step** keeps the books. A datum that is collected is counted with what it turned
into, and that is given back. -/
theorem Books.change (h : Books limit s) (change : Change s s') : Books limit s' := by
  cases change with
  | note noted =>
    obtain ⟨-, held⟩ := noted
    exact ⟨h.exact, held.used.trans h.used, held.sound h.sound, held.limit.trans h.limit⟩
  | await | lock | unlock => exact ⟨h.exact, h.used, h.sound, h.limit⟩
  | make making => exact h.make making
  | turn turning read =>
    have turned := h.turning turning
    exact ⟨turned.exact, turned.used, turned.sound, turned.limit⟩
  | retire turning ended unread =>
    have released := (h.turning turning).release (Table.find?_insert_self _ _ _)
    refine ⟨Table.forall_erase h.exact, ?_, released.sound, released.limit⟩
    have used := released.used
    simp only [Table.erase_insert] at used
    exact used

/-- **Every run** keeps them. -/
theorem Books.of_run {index : UInt64} {settings : Settings} {log : WaitLog}
    {calls : List ShardCall} (hi : index < settings.servers)
    (hn : (settings.servers.toNat : Int) ≤ topId)
    (hrun : (Shard.new index settings).run {} calls = .ok (s, log)) :
    Books settings.maxMemoryBytes.toNat s :=
  holds_of_run hi hn hrun (books_new index settings) fun _ _ h change => h.change change

end Books

/-! ## No difference is out of range -/

section Differences

variable {s : Shard} {id : DatumId} {limit : Nat}

theorem takeUp_ne_subtractOverflow (s : Shard) (id : DatumId) (content : Content) (spec : Spec) :
    s.takeUp id content spec ≠ .error .subtractOverflow := by
  refine bind_ne_error (MemoryBudget.allocate_ne_subtractOverflow _ _) ?_
  rintro ⟨memory, granted⟩ -
  cases granted <;> simp

theorem create_ne_subtractOverflow (hn : s.Numbered) (spec : Spec) :
    s.create spec ≠ .error .subtractOverflow := by
  unfold create
  split
  · simp
  split
  · simp
  split
  · refine bind_ne_error (IdSource.allocate_ne_subtractOverflow hn.upward) ?_
    rintro ⟨ids, fresh⟩ -
    cases fresh with
    | error e => simp
    | ok id => exact takeUp_ne_subtractOverflow _ _ _ _
  split
  · simp
  split
  · simp
  · refine bind_ne_error (IdSource.reserve_ne_subtractOverflow hn.upward _) fun ids _ => ?_
    exact takeUp_ne_subtractOverflow _ _ _ _

theorem store_ne_subtractOverflow (s : Shard) (id : DatumId) (value : Value) (drops : UInt32) :
    s.store id value drops ≠ .error .subtractOverflow := by
  intro h
  obtain ⟨d, -, faulted⟩ := store_eq_error h
  exact MemoryBudget.resize_ne_subtractOverflow _ _ _ faulted

theorem storeBytes_ne_subtractOverflow (s : Shard) (id : DatumId) (bytes : Bytes)
    (drops : UInt32) : s.storeBytes id bytes drops ≠ .error .subtractOverflow := by
  unfold storeBytes
  split
  · simp
  · exact store_ne_subtractOverflow _ _ _ _

theorem addWriters_ne_subtractOverflow (s : Shard) (id : DatumId) (count : UInt32) :
    s.addWriters id count ≠ .error .subtractOverflow := by
  unfold addWriters
  split
  · simp
  split
  · simp
  · exact bind_ne_error (Checked.addCount_ne_subtractOverflow _ _) fun _ _ => by simp

theorem addReaders_ne_subtractOverflow (s : Shard) (id : DatumId) (count : UInt32) :
    s.addReaders id count ≠ .error .subtractOverflow := by
  unfold addReaders
  split
  · simp
  · exact bind_ne_error (Checked.addCount_ne_subtractOverflow _ _) fun _ _ => by simp

/-- A member that is replaced was counted before. -/
theorem Books.subSize_memberBytes (h : Books limit s) {d : Datum} {c : Container}
    (live : s.data.find? id = some d) (container : d.content = .container c) (subscript : String)
    (f : Fault) : Checked.subSize d.footprint (c.memberBytes subscript) ≠ .error f := by
  have exact := h.exact id d live
  have counted := exact.footprint
  rw [container, Content.size] at counted
  have covered : c.memberBytes subscript ≤ d.footprint :=
    counted ▸ (exact.aligned c container).memberBytes_le subscript
  rw [Checked.subSize, if_pos covered]
  exact pure_ne_error _ _

theorem insertMember_ne_subtractOverflow (h : Books limit s) (id : DatumId) (subscript : String)
    (member : Bytes) (drops : UInt32) :
    s.insertMember id subscript member drops ≠ .error .subtractOverflow := by
  intro faulted
  obtain ⟨d, c, live, container, faulted | ⟨others, -, faulted⟩⟩ := insertMember_eq_error faulted
  · exact h.subSize_memberBytes live container subscript _ faulted
  · exact MemoryBudget.resize_ne_subtractOverflow _ _ _ faulted

theorem reserveSubscript_ne_subtractOverflow (s : Shard) (id : DatumId) (subscript : String) :
    s.reserveSubscript id subscript ≠ .error .subtractOverflow := by
  intro h
  obtain ⟨d, -, faulted⟩ := reserveSubscript_eq_error h
  exact MemoryBudget.resize_ne_subtractOverflow _ _ _ faulted

/-- What is taken back was counted when it was made, and a refusal leaves the counts as they are. -/
theorem onContainer_ne_subtractOverflow {α : Type} {act : Shard → Except Fault (Outcome α)}
    (h : Books limit s) (hn : s.Numbered)
    (hrefused : ∀ s o e, act s = .ok o → o.result = .error e → RefusedAs s o)
    (hact : ∀ s, Books limit s → act s ≠ .error .subtractOverflow) :
    s.onContainer id act ≠ .error .subtractOverflow := by
  refine bind_ne_error ?_ fun ready hready => ?_
  · unfold ensureContainer
    split
    · simp
    split
    · simp
    · exact bind_ne_error (create_ne_subtractOverflow hn _) fun _ _ => by simp
  rcases ensureContainer_created hn hready with ⟨-, same, hresult⟩ | ⟨absent, r, hr, hresult⟩
  · rw [hresult, same]
    refine bind_ne_error (hact s h) fun o _ => ?_
    cases o.result <;> simp
  rcases ready with ⟨shard, result, effects⟩
  cases hr with
  | refused noted =>
    cases hresult
    simp
  | made making =>
    cases hresult
    refine bind_ne_error (hact _ (h.make making)) fun o ho => ?_
    cases hresult : o.result with
    | ok a => simp
    | error e =>
      have noted := (hrefused _ _ e ho hresult).noted
      refine bind_ne_error ?_ fun _ _ => by simp
      generalize o.shard = left at noted
      cases noted
      unfold discard
      split
      · refine bind_ne_error ?_ fun _ _ => by simp
        rw [Checked.subSize, if_pos (Nat.le_add_left 1 s.counts.created)]
        simp
      · simp

/-- **No operation** forms a difference that is out of range. -/
theorem perform_ne_subtractOverflow (h : Books limit s) (hn : s.Numbered) (rank : Rank)
    (op : Operation) : s.perform rank op ≠ .error .subtractOverflow := by
  cases op with
  | create spec => exact bind_ne_error (create_ne_subtractOverflow hn spec) fun _ _ => by simp
  | store => exact bind_ne_error (store_ne_subtractOverflow _ _ _ _) fun _ _ => by simp
  | storeBytes => exact bind_ne_error (storeBytes_ne_subtractOverflow _ _ _ _) fun _ _ => by simp
  | addWriters => exact bind_ne_error (addWriters_ne_subtractOverflow _ _ _) fun _ _ => by simp
  | dropWriters => exact bind_ne_error (dropWriters_ne_error _ _ _) fun _ _ => by simp
  | addReaders => exact bind_ne_error (addReaders_ne_subtractOverflow _ _ _) fun _ _ => by simp
  | insert id subscript member drops =>
    refine bind_ne_error ?_ fun _ _ => by simp
    exact onContainer_ne_subtractOverflow h hn (fun _ _ _ => insertMember_refused)
      fun _ books => insertMember_ne_subtractOverflow books id subscript member drops
  | reserve id subscript =>
    refine bind_ne_error ?_ fun _ _ => by simp
    exact onContainer_ne_subtractOverflow h hn (fun _ _ _ => reserveSubscript_refused)
      fun s _ => reserveSubscript_ne_subtractOverflow s id subscript
  | unique =>
    refine bind_ne_error ?_ fun _ _ => by simp
    exact bind_ne_error (IdSource.allocate_ne_subtractOverflow hn.upward) fun _ _ => by simp
  | has | retrieve | enumerate | dropReaders | lookup | subscribe | refer | close | kindOf
    | subscriptKindOf | sizeOf | lock | unlock => simp [perform]

end Differences

/-! ## Every run -/

/-- **Exact memory accounting.** After every run of a new shard

* every live datum is counted with the bytes of its content, and the bytes in use are the sum of
  what the live data are counted with;
* the bytes in use are at most the most there ever were, and these at most the limit;
* nothing was ever given back that was not in use;
* whatever operation comes next, no difference that it forms is out of range. -/
theorem memory_accounted {s : Shard} {log : WaitLog} (index : UInt64) (settings : Settings)
    (hi : index < settings.servers) (hn : (settings.servers.toNat : Int) ≤ topId)
    (calls : List ShardCall) (hrun : (Shard.new index settings).run {} calls = .ok (s, log)) :
    (∀ id d, s.data.find? id = some d → d.footprint = d.content.size) ∧
    s.memory.used = s.data.total Datum.footprint ∧
    s.memory.used ≤ s.memory.peak ∧ s.memory.peak ≤ settings.maxMemoryBytes.toNat ∧
    s.memory.overdrawn = 0 ∧
    ∀ rank op, s.perform rank op ≠ .error .subtractOverflow := by
  have books := Books.of_run hi hn hrun
  have tracked := (Tracked.new hi hn).run hrun
  refine ⟨fun id d hd => (books.exact id d hd).footprint, books.used, books.sound.used_le, ?_,
    books.sound.overdrawn, perform_ne_subtractOverflow books tracked.numbered⟩
  rw [← books.limit]
  exact books.sound.peak_le

/-- A member is replaced by a shorter one, a subscript is reserved and then written, and a text
is too long for what is left. -/
def membersAndText : List ShardCall :=
  [.perform 0 (.insert 5 "key" [1, 2, 3] 0), .perform 0 (.insert 5 "key" [4] 0),
    .perform 1 (.reserve 5 "later"), .perform 1 (.insert 5 "later" [6, 7] 0),
    .perform 1 (.create { id := 7, kind := .string }), .perform 1 (.store 7 (.string "too long") 1)]

theorem memory_accounted_members : (1 : UInt64) < 2 ∧ ∃ s log,
    (Shard.new 1 { servers := 2, maxMemoryBytes := 13, allowOverwrite := true }).run {}
      membersAndText = .ok (s, log) ∧
    s.memory.used = 11 ∧ s.memory.violations = 1 ∧ s.data.total Datum.footprint = 11 ∧
    s.memory.used ≤ s.memory.peak ∧ s.memory.peak ≤ 13 ∧ s.memory.overdrawn = 0 := by
  have run := memory_accounted 1 { servers := 2, maxMemoryBytes := 13, allowOverwrite := true }
    (by decide) (by decide) membersAndText rfl
  exact ⟨by decide, _, _, rfl, rfl, rfl, rfl, run.2.2.1, run.2.2.2.1, run.2.2.2.2.1⟩

end Shard

end WorkPool
