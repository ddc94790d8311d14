import WorkPool.Proofs.Shard.Memory

/-!
# The life of a datum

A datum is made open, closes when its last writer leaves, and is collected as soon as it is
closed and nobody reads it; its id is then retired for good. `Lives` says what this comes to in
any state of a shard: which states of a datum there are, which ids are retired, whose locks are
held, and what the counts have counted.

It is an invariant of every kind of step (`Lives.change`), and so of every run.
-/

namespace WorkPool

namespace Shard

/-- What the lives of its data have left in a shard. -/
structure Lives (s : Shard) : Prop where
  /-- a datum is closed when it has no writers -/
  closed_iff : ∀ id d, s.data.find? id = some d → (d.closed = true ↔ d.writers = 0)
  /-- a closed datum is read -/
  read : ∀ id d, s.data.find? id = some d → d.closed = true → d.readers ≠ 0
  /-- ids stay fresh -/
  numbered : s.Numbered
  /-- no datum has a retired id -/
  absent : ∀ id ∈ s.retired, s.data.find? id = none
  /-- and none will be given one -/
  passed : ∀ id ∈ s.retired, s.ids.Passed id
  /-- an id is retired once -/
  nodup : s.retired.Nodup
  /-- locks are those of live data -/
  locks : ∀ id rank, s.locks.find? id = some rank → ∃ d, s.data.find? id = some d
  /-- what was collected is retired -/
  collected : s.retired.length = s.counts.collected
  /-- what was created is live or was collected -/
  created : s.counts.created = s.data.total (fun _ => 1) + s.counts.collected
  /-- what has closed is live and closed, or was collected -/
  closed : s.counts.closed = s.counts.collected + s.data.total fun d => d.closed.toNat

section Lives

variable {s s' : Shard} {id : DatumId} {d d' : Datum} {memory : MemoryBudget}

theorem lives_new {index : UInt64} {settings : Settings} (hi : index < settings.servers)
    (hn : (settings.servers.toNat : Int) ≤ topId) : Lives (Shard.new index settings) where
  closed_iff _ _ hd := nomatch hd
  read _ _ hd := nomatch hd
  numbered := (Tracked.new hi hn).numbered
  absent _ hid := nomatch hid
  passed _ hid := nomatch hid
  nodup := List.nodup_nil
  locks _ _ hl := nomatch hl
  collected := rfl
  created := rfl
  closed := rfl

theorem Lives.note (h : Lives s) (noted : Noted s s') : Lives s' := by
  obtain ⟨onward, -⟩ := noted
  exact { h with
    numbered := ⟨onward.upward h.numbered.upward,
      fun j d hd => onward.passed j (h.numbered.passed j d hd)⟩
    passed := fun j hj => onward.passed j (h.passed j hj) }

theorem Lives.lock (h : Lives s) (rank : Rank) (live : s.data.find? id = some d) :
    Lives { s with locks := s.locks.insert id rank } := by
  refine { h with numbered := ⟨h.numbered.upward, h.numbered.passed⟩, locks := ?_ }
  intro j holder hl
  by_cases hj : j = id
  · exact ⟨d, hj ▸ live⟩
  · exact h.locks j holder ((Table.find?_insert_ne _ hj _).symm.trans hl)

theorem Lives.unlock (h : Lives s) (id : DatumId) :
    Lives { s with locks := s.locks.erase id } := by
  refine { h with numbered := ⟨h.numbered.upward, h.numbered.passed⟩, locks := ?_ }
  intro j holder hl
  by_cases hj : j = id
  · rw [hj, Table.find?_erase_self] at hl
    cases hl
  · exact h.locks j holder ((Table.find?_erase_ne _ hj).symm.trans hl)

/-- A datum that is made has an id that is not retired: those are passed, or were refused. A retired
id would have to be a fresh one, but it was passed long ago. -/
theorem Lives.make {spec : Spec} {content : Content} {ids : IdSource} (h : Lives s)
    (making : Making s spec id content ids memory) :
    Lives (s.made spec id content ids memory) where
  closed_iff := Table.forall_insert (by simp [making.writers]) h.closed_iff
  read := Table.forall_insert (by simp) h.read
  numbered := (making.adds h.numbered).numbered
  absent j hj := by
    have other : j ≠ id := fun e => making.unused (e ▸ hj) (e ▸ h.passed j hj)
    exact (Table.find?_insert_ne _ other _).trans (h.absent j hj)
  passed j hj := making.onward.passed j (h.passed j hj)
  nodup := h.nodup
  locks j rank hl := Table.exists_insert (h.locks j rank hl)
  collected := h.collected
  created := by
    simp only [made]
    rw [Table.total_insert_of_none _ making.absent, h.created]
    omega
  closed := by
    simp only [made]
    rw [Table.total_insert_of_none _ making.absent, h.closed]
    rfl

/-- A datum that has no writers is closed, whatever it was before; of a closed one, only the readers
have changed. -/
theorem Lives.turned (h : Lives s) (live : s.data.find? id = some d) (turns : d.Turns d') :
    d'.closed = true ↔ d'.writers = 0 := by
  cases hclosed : d.closed with
  | true =>
    rw [turns.sealed hclosed]
    exact h.closed_iff id d live
  | false =>
    have some_left : d.writers ≠ 0 := by
      intro none_left
      rw [(h.closed_iff id d live).2 none_left] at hclosed
      cases hclosed
    exact turns.writers hclosed some_left

theorem Lives.turn {closed : Nat} (h : Lives s) (turning : Turning s id d d' memory closed)
    (read : d'.closed = true → (d.closed = true → d.readers ≠ 0) → d'.readers ≠ 0) :
    Lives { s with data := s.data.insert id d', memory, counts := { s.counts with closed } } where
  closed_iff := Table.forall_insert (h.turned turning.live turning.turns) h.closed_iff
  read := Table.forall_insert (fun hclosed => read hclosed (h.read id d turning.live)) h.read
  numbered := ⟨h.numbered.upward, Table.forall_insert (h.numbered.passed id d turning.live)
    h.numbered.passed⟩
  absent j hj := by
    have other := Table.ne_of_find? (h.absent j hj) turning.live
    exact (Table.find?_insert_ne _ other _).trans (h.absent j hj)
  passed := h.passed
  nodup := h.nodup
  locks j rank hl := Table.exists_insert (h.locks j rank hl)
  collected := h.collected
  created := by
    have sum := Table.total_insert (fun _ => 1) turning.live d'
    have before := h.created
    show s.counts.created =
      (s.data.insert id d').total (fun _ => 1) + s.counts.collected
    omega
  closed := by
    have sum := Table.total_insert (fun d => d.closed.toNat) turning.live d'
    have before := h.closed
    have counted := turning.counted
    show closed = s.counts.collected + (s.data.insert id d').total fun d => d.closed.toNat
    omega

/-- A datum that is collected leaves an id that was not retired before. -/
theorem Lives.retire {closed : Nat} (h : Lives s) (turning : Turning s id d d' memory closed)
    (ended : d'.closed = true) :
    Lives { s with
      data := s.data.erase id
      memory := memory.release d'.footprint
      locks := s.locks.erase id
      retired := id :: s.retired
      counts := { s.counts with closed, collected := s.counts.collected + 1 } } where
  closed_iff := Table.forall_erase h.closed_iff
  read := Table.forall_erase h.read
  numbered := ⟨h.numbered.upward, Table.forall_erase h.numbered.passed⟩
  absent := by
    intro j hj
    by_cases same : j = id
    · exact same ▸ Table.find?_erase_self _ _
    · rw [Table.find?_erase_ne _ same]
      exact h.absent j (List.mem_of_ne_of_mem same hj)
  passed := by
    intro j hj
    rcases List.mem_cons.1 hj with rfl | hj
    · exact h.numbered.passed j d turning.live
    · exact h.passed j hj
  nodup := by
    exact List.nodup_cons.2
      ⟨fun hid => Table.ne_of_find? (h.absent id hid) turning.live rfl, h.nodup⟩
  locks := by
    intro j rank hl
    have other : j ≠ id := by
      rintro rfl
      rw [Table.find?_erase_self] at hl
      cases hl
    rw [Table.find?_erase_ne _ other] at hl ⊢
    exact h.locks j rank hl
  collected := congrArg (· + 1) h.collected
  created := by
    have sum := Table.total_erase (fun _ => 1) turning.live
    have before := h.created
    show s.counts.created = (s.data.erase id).total (fun _ => 1) + (s.counts.collected + 1)
    omega
  closed := by
    have sum := Table.total_erase (fun d => d.closed.toNat) turning.live
    have before := h.closed
    have counted := turning.counted
    rw [ended, Bool.toNat_true] at counted
    show closed = s.counts.collected + 1 + (s.data.erase id).total fun d => d.closed.toNat
    omega

/-- **Every kind of step** keeps it. -/
theorem Lives.change (h : Lives s) (change : Change s s') : Lives s' := by
  cases change with
  | note noted => exact h.note noted
  | await => exact { h with numbered := ⟨h.numbered.upward, h.numbered.passed⟩ }
  | lock rank live => exact h.lock rank live
  | unlock id => exact h.unlock id
  | make making => exact h.make making
  | turn turning read => exact h.turn turning read
  | retire turning ended unread => exact h.retire turning ended

/-- No datum goes away but by being collected. -/
theorem Change.live_or_retired (change : Change s s') {j : DatumId}
    (h : (∃ d, s.data.find? j = some d) ∨ j ∈ s.retired) :
    (∃ d, s'.data.find? j = some d) ∨ j ∈ s'.retired := by
  cases change with
  | note noted =>
    obtain ⟨-, -⟩ := noted
    exact h
  | await | lock | unlock => exact h
  | make making => exact h.imp_left Table.exists_insert
  | turn turning read => exact h.imp_left Table.exists_insert
  | retire turning ended unread =>
    rename_i id _ _ _ _
    by_cases same : j = id
    · exact .inr (same ▸ List.mem_cons_self)
    · rw [Table.find?_erase_ne _ same]
      exact h.imp_right (List.mem_cons_of_mem id)

/-- Every datum is open or closed. -/
theorem openCount_add (s : Shard) :
    s.openCount + s.data.values.countP (·.closed) = s.size := by
  have split := List.length_eq_countP_add_countP (fun d : Datum => d.closed) (l := s.data.values)
  have all : s.data.values.length = s.size := List.length_map _
  have opened : s.openCount = s.data.values.countP fun d => decide ¬ d.closed = true := by
    refine List.countP_congr fun d _ => ?_
    simp
  omega

end Lives

/-! ## Every run -/

/-- **The life of a datum.** After every run of a new shard

* a live datum is closed exactly if it has no writers, and a closed one has readers;
* no live datum has a retired id, and as many ids are retired, each of them once, as data were
  collected;
* what was created is live or was collected, and what has closed is live and closed or was
  collected, so that the difference is what is open;
* every lock that is held is that of a live datum;
* whatever operation comes next, no difference that it forms is out of range, and a datum that is
  live before it and not after it is retired. -/
theorem lifecycle_kept {s : Shard} {log : WaitLog} (index : UInt64) (settings : Settings)
    (hi : index < settings.servers) (hn : (settings.servers.toNat : Int) ≤ topId)
    (calls : List ShardCall) (hrun : (Shard.new index settings).run {} calls = .ok (s, log)) :
    (∀ id d, s.data.find? id = some d →
      (d.closed = true ↔ d.writers = 0) ∧ ¬ (d.closed = true ∧ d.readers = 0)) ∧
    (∀ id ∈ s.retired, s.data.find? id = none) ∧ s.retired.Nodup ∧
    s.retired.length = s.counts.collected ∧
    s.counts.created = s.size + s.counts.collected ∧
    s.counts.closed = s.counts.collected + s.data.values.countP (·.closed) ∧
    s.openCount + s.counts.closed = s.counts.created ∧
    (∀ id rank, s.locks.find? id = some rank → ∃ d, s.data.find? id = some d) ∧
    ∀ rank op, s.perform rank op ≠ .error .subtractOverflow ∧
      ∀ o, s.perform rank op = .ok o → ∀ id d, s.data.find? id = some d →
        o.shard.data.find? id = none → id ∈ o.shard.retired := by
  have lives : Lives s :=
    holds_of_run hi hn hrun (lives_new hi hn) fun _ _ h change => h.change change
  have books := Books.of_run hi hn hrun
  have tracked := (Tracked.new hi hn).run hrun
  have created : s.counts.created = s.size + s.counts.collected := by
    rw [lives.created, Table.total_one]
    rfl
  have closed : s.counts.closed = s.counts.collected + s.data.values.countP (·.closed) := by
    rw [lives.closed, Table.total_toNat]
  refine ⟨?_, lives.absent, lives.nodup, lives.collected, created, closed, ?_, lives.locks, ?_⟩
  · intro id d live
    exact ⟨lives.closed_iff id d live, fun ended => lives.read id d live ended.1 ended.2⟩
  · have all := s.openCount_add
    omega
  · intro rank op
    refine ⟨perform_ne_subtractOverflow books tracked.numbered rank op, ?_⟩
    intro o ho id d live gone
    have changes := perform_changes tracked.waits tracked.numbered ho
    have kept : (∃ d, o.shard.data.find? id = some d) ∨ id ∈ o.shard.retired :=
      changes.keep (fun _ _ h change => change.live_or_retired h) (.inl ⟨d, live⟩)
    rcases kept with ⟨d', live'⟩ | retired
    · rw [gone] at live'
      cases live'
    · exact retired

/-- One datum closes and is read on, one is closed when nobody reads it, and one stays open. -/
def threeLives : List ShardCall :=
  [.perform 0 (.create { id := 3, kind := .integer }), .perform 0 (.store 3 (.integer 5) 1),
    .perform 0 (.create { id := 5, kind := .blob }), .perform 0 (.lock 5),
    .perform 0 (.dropReaders 5 1), .perform 1 (.close 5),
    .perform 1 (.insert 7 "key" [1] 0), .perform 1 (.lock 7)]

theorem lifecycle_kept_three : (1 : UInt64) < 2 ∧ ∃ s log,
    (Shard.new 1 { servers := 2 }).run {} threeLives = .ok (s, log) ∧
    s.size = 2 ∧ s.counts = ⟨3, 2, 1⟩ ∧ s.retired = [5] ∧ s.locks.find? 7 = some 1 ∧
    s.openCount + s.counts.closed = s.counts.created ∧ (∃ d, s.data.find? 7 = some d) := by
  have run := lifecycle_kept 1 { servers := 2 } (by decide) (by decide) threeLives rfl
  have balance := run.2.2.2.2.2.2.1
  have locks := run.2.2.2.2.2.2.2.1
  exact ⟨by decide, _, _, rfl, rfl, rfl, rfl, rfl, balance, locks 7 1 rfl⟩

end Shard

end WorkPool
