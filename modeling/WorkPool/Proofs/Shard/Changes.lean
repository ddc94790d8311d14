import Mathlib.Logic.Relation
import WorkPool.Proofs.Shard.ExactlyOnce

/-!
# What can happen to a shard

Whatever an operation does to a shard, it does in steps of a few kinds (`Change`): notes are
taken, somebody waits or waits no more, a lock is taken or given back, a datum is **made**, a
live datum **turns** into another state, or it turns into its last state and is **retired**.

`perform_changes` says so of every operation. An invariant of shards is then a fact about the
kinds of steps, and not about the operations: `ShardCall` by `ShardCall`, `Changes` carries it
through every run.
-/

namespace WorkPool

/-! ## What becomes of a datum -/

/-- What a write can make of the content of a datum, and of the bytes it is counted with. -/
inductive Datum.Written (d : Datum) : Content → Nat → Prop where
  /-- nothing is written -/
  | none : Written d d.content d.footprint
  /-- a scalar gets a value of its kind -/
  | scalar {value : Value} {content : Content} (kind : value.kind = d.content.kind)
    (holds : Content.ofValue? value = some content) : Written d content value.size
  /-- a container gets a member -/
  | member {c : Container} {others : Nat} (subscript : String) (member : Bytes)
    (container : d.content = .container c)
    (rest : others + c.memberBytes subscript = d.footprint) :
    Written d (.container (c.write subscript member))
      (others + ((if c.contains subscript then 0 else subscript.utf8ByteSize) + member.length))
  /-- a container gets a subscript without a member -/
  | reserved {c : Container} {subscript : String} (container : d.content = .container c)
    (free : c.contains subscript = false) :
    Written d (.container (c.hold subscript)) (d.footprint + subscript.utf8ByteSize)

/-- What an operation can make of a live datum. -/
structure Datum.Turns (d d' : Datum) : Prop where
  written : d.Written d'.content d'.footprint
  /-- of a closed datum, only the readers change -/
  sealed : d.closed = true → d' = { d with readers := d'.readers }
  /-- an open datum closes when the last writer leaves -/
  writers : d.closed = false → d.writers ≠ 0 → (d'.closed = true ↔ d'.writers = 0)

namespace Shard

/-- A live datum turns into another, with the bytes and the closing counted. -/
structure Turning (s : Shard) (id : DatumId) (d d' : Datum) (memory : MemoryBudget)
    (closed : Nat) : Prop where
  live : s.data.find? id = some d
  turns : d.Turns d'
  granted : s.memory.resize d.footprint d'.footprint = .ok (memory, .ok ())
  counted : closed + d.closed.toNat = s.counts.closed + d'.closed.toNat

/-- The kinds of steps in which a shard changes. -/
inductive Change (s : Shard) : Shard → Prop where
  /-- notes are taken -/
  | note {s' : Shard} (noted : Noted s s') : Change s s'
  /-- somebody waits, or waits no more -/
  | await (subscriptions : Subscriptions) : Change s { s with subscriptions }
  /-- the lock of a live datum is taken -/
  | lock {id : DatumId} {d : Datum} (rank : Rank) (live : s.data.find? id = some d) :
    Change s { s with locks := s.locks.insert id rank }
  /-- a lock is given back -/
  | unlock (id : DatumId) : Change s { s with locks := s.locks.erase id }
  /-- a datum is made -/
  | make {spec : Spec} {id : DatumId} {content : Content} {ids : IdSource} {memory : MemoryBudget}
    (making : Making s spec id content ids memory) :
    Change s (s.made spec id content ids memory)
  /-- a datum turns into another, and somebody may read or write it -/
  | turn {id : DatumId} {d d' : Datum} {memory : MemoryBudget} {closed : Nat}
    (turning : Turning s id d d' memory closed)
    (read : d'.closed = true → (d.closed = true → d.readers ≠ 0) → d'.readers ≠ 0) :
    Change s { s with
      data := s.data.insert id d', memory, counts := { s.counts with closed } }
  /-- a datum turns into one that nobody reads or writes, and is collected -/
  | retire {id : DatumId} {d d' : Datum} {memory : MemoryBudget} {closed : Nat}
    (turning : Turning s id d d' memory closed) (ended : d'.closed = true)
    (unread : d'.readers = 0) :
    Change s { s with
      data := s.data.erase id
      memory := memory.release d'.footprint
      locks := s.locks.erase id
      retired := id :: s.retired
      counts := { s.counts with closed, collected := s.counts.collected + 1 } }

/-- Any number of changes, one after the other. -/
abbrev Changes : Shard → Shard → Prop := Relation.ReflTransGen Change

/-- What every kind of step keeps, any number of steps keep. -/
theorem Changes.keep {P : Shard → Prop} (step : ∀ s s', P s → Change s s' → P s') {s s' : Shard}
    (h : Changes s s') (hs : P s) : P s' := by
  induction h with
  | refl => exact hs
  | tail _ last ih => exact step _ _ ih last

variable {s s' : Shard} {id : DatumId} {d d' : Datum} {memory : MemoryBudget}

/-- Notes are a step. -/
theorem changes_of_noted (h : Noted s s') : Changes s s' := .single (.note h)

/-- What a refusal leaves is a step. -/
theorem RefusedAs.changes {α : Type} {o : Outcome α} (h : RefusedAs s o) : Changes s o.shard :=
  changes_of_noted h.noted

/-! ## Putting a datum back -/

section PutBack

variable {closed : Nat}

/-- The waits of a shard do not matter to what becomes of its data. -/
theorem Turning.await (h : Turning s id d d' memory closed) (subscriptions : Subscriptions) :
    Turning { s with subscriptions } id d d' memory closed :=
  ⟨h.live, h.turns, h.granted, h.counted⟩

/-- An open datum is put back. -/
theorem Turning.put_changes (h : Turning s id d d' memory s.counts.closed)
    (hopen : d'.closed = false) (subscriptions : Subscriptions) :
    Changes s { s with data := s.data.insert id d', memory, subscriptions } := by
  refine .head (.await subscriptions) (.single (.turn (h.await subscriptions) ?_))
  intro closed
  rw [hopen] at closed
  cases closed

/-- A datum that nobody waits for, once it is closed, is put back or collected. -/
theorem Turning.collect_changes (h : Turning s id d d' memory closed)
    (quiet : d'.closed = true → s.subscriptions.hasPending id = false) :
    Changes s (({ s with
      data := s.data.insert id d', memory, counts := { s.counts with closed } } : Shard).collect
        id) := by
  simp only [collect, Table.find?_insert_self]
  by_cases ended : d'.closed = true ∧ d'.readers = 0
  · rw [if_pos (by simp [ended.1, ended.2, quiet ended.1]), Table.erase_insert]
    exact .single (.retire h ended.1 ended.2)
  · rw [if_neg]
    · exact .single (.turn h fun closed _ unread => ended ⟨closed, unread⟩)
    · simp only [Bool.and_eq_true, beq_iff_eq]
      exact fun all => ended all.1

/-- Nobody waits for what all waits were taken off. -/
theorem hasPending_filter (id : DatumId) (subs : Subscriptions) :
    Subscriptions.hasPending (subs.filter fun sub => sub.id != id) id = false := by
  simp [Subscriptions.hasPending, List.any_filter]

/-- **A closing** puts a datum back as closed. -/
theorem Turning.close_changes {subscriptions : Subscriptions}
    (h : Turning s id d { d' with closed := true } memory (s.counts.closed + 1))
    (hkind : ∀ sub ∈ subscriptions, sub.id = id → sub.subscript ≠ none →
      d'.content.kind = .container) :
    Changes s (({ s with memory, subscriptions } : Shard).closeDatum id d').1 := by
  rw [closeDatum_eq hkind]
  refine .head (.await (subscriptions.filter fun sub => sub.id != id)) ?_
  exact (h.await _).collect_changes fun _ => hasPending_filter id subscriptions

/-- **A write** to an open datum, after which it is put back: with all its writers, closed because
the last one has left, or with fewer. Nothing is asked of a datum that was closed before, for it is
open. -/
theorem settle_changes {content : Content} {footprint : Nat} {subscriptions : Subscriptions}
    {drops : UInt32} {notices : List (Rank × Notice)} (live : s.data.find? id = some d)
    (hopen : d.closed = false) (written : d.Written content footprint)
    (granted : s.memory.resize d.footprint footprint = .ok (memory, .ok ()))
    (hkind : ∀ sub ∈ subscriptions, sub.id = id → sub.subscript ≠ none →
      content.kind = .container)
    (h : ({ s with memory, subscriptions } : Shard).settle id { d with content, footprint } drops =
      .ok (s', notices)) : Changes s s' := by
  have sealed {d' : Datum} : d.closed = true → d' = { d with readers := d'.readers } :=
    fun closed => absurd closed (by rw [hopen]; exact Bool.false_ne_true)
  unfold settle at h
  split at h
  · cases h
    have turning : Turning s id d { d with content, footprint } memory s.counts.closed :=
      ⟨live, ⟨written, sealed, fun _ writers => by simp [hopen, writers]⟩, granted, rfl⟩
    exact turning.put_changes hopen subscriptions
  obtain ⟨writers, -, h⟩ := bind_eq_ok h
  simp only at h
  split at h
  · rename_i none_left
    cases h
    refine Turning.close_changes ⟨live, ⟨written, sealed, fun _ _ => ?_⟩, granted, ?_⟩ hkind
    · simp [none_left]
    · rw [hopen]
      rfl
  · rename_i some_left
    cases h
    have turning : Turning s id d { d with content, footprint, writers } memory s.counts.closed :=
      ⟨live, ⟨written, sealed, fun _ _ => by simp [hopen, some_left]⟩, granted, rfl⟩
    exact turning.put_changes hopen subscriptions

end PutBack

/-! ## Operation by operation -/

section Operations

/-- Setting a scalar is a step. -/
theorem store_changes {value : Value} {drops : UInt32} {o : Outcome Unit} (hw : s.Waits)
    (h : s.store id value drops = .ok o) : Changes s o.shard := by
  cases store_stores h with
  | refused => exact .refl
  | full resized => exact changes_of_noted (noted_memory (MemoryBudget.resize_refused resized))
  | done storable granted settled =>
    refine settle_changes storable.live storable.opened (.scalar storable.kind storable.holds)
      granted ?_ settled
    intro sub hsub hid waits
    exact absurd (hw.subscript_none storable.live storable.scalar hsub hid) waits

theorem storeBytes_changes {bytes : Bytes} {drops : UInt32} {o : Outcome Unit} (hw : s.Waits)
    (h : s.storeBytes id bytes drops = .ok o) : Changes s o.shard := by
  unfold storeBytes at h
  split at h
  · cases h
    exact .refl
  · exact store_changes hw h

/-- A datum that is put back with other counts takes as many bytes as before. -/
theorem granted_same (s : Shard) (d : Datum) :
    s.memory.resize d.footprint d.footprint = .ok (s.memory, .ok ()) :=
  MemoryBudget.resize_self _ _

theorem addWriters_changes {count : UInt32} {o : Outcome Unit}
    (h : s.addWriters id count = .ok o) : Changes s o.shard := by
  unfold addWriters at h
  split at h
  · cases h
    exact .refl
  rename_i d hd
  split at h
  · cases h
    exact .refl
  rename_i hopen
  obtain ⟨writers, hwriters, h⟩ := bind_eq_ok h
  cases h
  have turning : Turning s id d { d with writers } s.memory s.counts.closed := by
    refine ⟨find?_of_changeable hd, ⟨.none, fun closed => absurd closed hopen, ?_⟩,
      granted_same s d, rfl⟩
    intro _ some_left
    simp [hopen, Checked.addCount_ne_zero hwriters some_left]
  exact turning.put_changes (by simpa using hopen) s.subscriptions

/-- Giving up writers is a step. -/
theorem dropWriters_changes {count : UInt32} {o : Outcome Unit} (hw : s.Waits)
    (h : s.dropWriters id count = .ok o) : Changes s o.shard := by
  cases dropWriters_givesUp h with
  | refused => exact .refl
  | done live opened _ settled =>
    exact settle_changes live opened .none (granted_same s _) (hw.kind live) settled

/-- With other readers a datum is what it was, closed or not. -/
theorem turning_readers (live : s.data.find? id = some d) (readers : UInt32) :
    Turning s id d { d with readers } s.memory s.counts.closed := by
  refine ⟨live, ⟨.none, fun _ => rfl, ?_⟩, granted_same s d, rfl⟩
  intro hopen some_left
  simp [hopen, some_left]

theorem addReaders_changes {count : UInt32} {o : Outcome Unit}
    (h : s.addReaders id count = .ok o) : Changes s o.shard := by
  unfold addReaders at h
  split at h
  · cases h
    exact .refl
  rename_i d hd
  obtain ⟨readers, hreaders, h⟩ := bind_eq_ok h
  cases h
  refine .single (.turn (turning_readers (find?_of_changeable hd) readers) ?_)
  intro closed read
  exact Checked.addCount_ne_zero hreaders (read closed)

/-- Readers leave. Whoever waits for a datum waits for an open one, so that nobody is waiting for
what is collected. -/
theorem dropReaders_changes {count : UInt32} (hw : s.Waits) :
    Changes s (s.dropReaders id count).shard := by
  unfold dropReaders
  split
  · exact .refl
  rename_i d hd
  split
  · exact .refl
  have live := find?_of_changeable hd
  refine (turning_readers live (d.readers - count)).collect_changes ?_
  intro closed
  refine List.any_eq_false.2 fun sub hsub waits => ?_
  obtain ⟨d₁, hd₁, hopen, -⟩ := hw sub hsub
  rw [eq_of_beq waits, live] at hd₁
  cases hd₁
  rw [closed] at hopen
  cases hopen

/-- Closing a datum is a step. -/
theorem close_changes (hw : s.Waits) : Changes s (s.close id).shard := by
  unfold close
  split
  · exact .refl
  rename_i d hd
  split
  · exact .refl
  rename_i hopen
  have live := find?_of_changeable hd
  have turning : Turning s id d { d with writers := 0, closed := true } s.memory
      (s.counts.closed + 1) := by
    refine ⟨live, ⟨.none, fun closed => absurd closed hopen, ?_⟩, granted_same s d, ?_⟩
    · simp
    · simp [hopen]
  exact Turning.close_changes turning (hw.kind (d := d) live)

theorem lock_changes {rank : Rank} : Changes s (s.lock id rank).shard := by
  unfold lock
  split
  · exact .refl
  rename_i d hd
  split
  · exact .refl
  · exact .single (.lock rank (find?_of_live hd))

theorem unlock_changes {rank : Rank} : Changes s (s.unlock id rank).shard := by
  unfold unlock
  split
  · exact .refl
  split
  · split
    · exact .single (.unlock id)
    · exact .refl
  · exact .refl

/-- Writing a member is a step. -/
theorem insertMember_changes {subscript : String} {member : Bytes} {drops : UInt32}
    {o : Outcome Unit} (h : s.insertMember id subscript member drops = .ok o) :
    Changes s o.shard := by
  cases insertMember_inserts h with
  | refused => exact .refl
  | full resized => exact changes_of_noted (noted_memory (MemoryBudget.resize_refused resized))
  | done insertable rest granted settled =>
    exact settle_changes insertable.live insertable.opened
      (.member subscript member insertable.container rest) granted (fun _ _ _ _ => rfl) settled

/-- Reserving a subscript is a step. -/
theorem reserveSubscript_changes {subscript : String} {o : Outcome Bool}
    (h : s.reserveSubscript id subscript = .ok o) : Changes s o.shard := by
  cases reserveSubscript_reserves h with
  | refused => exact .refl
  | taken => exact .refl
  | full resized => exact changes_of_noted (noted_memory (MemoryBudget.resize_refused resized))
  | @done d c memory reservable free granted =>
    obtain ⟨-, live, hopen, container, -⟩ := reservable
    have turning : Turning s id d { d with
        content := .container (c.hold subscript)
        footprint := d.footprint + subscript.utf8ByteSize } memory s.counts.closed := by
      refine ⟨live, ⟨.reserved container free, ?_, ?_⟩, granted, rfl⟩
      · intro closed
        rw [hopen] at closed
        cases closed
      · intro _ some_left
        simp [hopen, some_left]
    exact turning.put_changes hopen s.subscriptions

/-- An operation on a container makes it first, if need be. -/
theorem onContainer_changes {α : Type} {act : Shard → Except Fault (Outcome α)} {o : Outcome α}
    (hn : s.Numbered)
    (hrefused : ∀ s o e, act s = .ok o → o.result = .error e → RefusedAs s o)
    (hact : ∀ s o, act s = .ok o → Changes s o.shard) (h : s.onContainer id act = .ok o) :
    Changes s o.shard := by
  cases onContainer_acted hn hrefused h with
  | there live acted => exact hact _ _ acted
  | refused absent refused result unmade => exact refused.changes
  | made making acted result => exact .head (.make making) (hact _ _ acted)
  | leaked null making refused result => exact .head (.make making) refused.changes

/-- Whoever waits for a subscript changes the waits only. -/
theorem awaitSubscript_changes (sub : Subscription) (subscript name : String) :
    Changes s (s.awaitSubscript sub subscript name).shard := by
  unfold awaitSubscript
  split
  · exact .refl
  split
  · exact .refl
  split
  · exact .refl
  · exact .single (.await _)

theorem subscribe_changes {subscript : Option String} {rank : Rank} {token : UInt64} :
    Changes s (s.subscribe id subscript rank token).shard := by
  unfold subscribe
  simp only
  split
  · exact awaitSubscript_changes _ _ _
  split
  · exact .refl
  split
  · exact .refl
  · exact .single (.await _)

theorem refer_changes {subscript : String} {reference : Option DatumId} {rank : Rank}
    {token : UInt64} : Changes s (s.refer id subscript reference rank token).shard := by
  unfold refer
  simp only
  split
  · exact awaitSubscript_changes _ _ _
  · exact awaitSubscript_changes _ _ _

end Operations

/-! ## All operations -/

/-- **Every operation** changes a shard in steps of these kinds. -/
theorem perform_changes {rank : Rank} {op : Operation} {o : Outcome Reply} (hw : s.Waits)
    (hn : s.Numbered) (h : s.perform rank op = .ok o) : Changes s o.shard := by
  cases op with
  | create spec =>
    obtain ⟨o, ho, h⟩ := bind_eq_ok h
    cases h
    have created := (create_created hn ho).1
    show Changes s o.shard
    generalize o.shard = s', o.result = r at created
    cases created with
    | refused noted => exact changes_of_noted noted
    | made making => exact .single (.make making)
  | store id value drops =>
    obtain ⟨o, ho, h⟩ := bind_eq_ok h
    cases h
    exact store_changes hw ho
  | storeBytes id bytes drops =>
    obtain ⟨o, ho, h⟩ := bind_eq_ok h
    cases h
    exact storeBytes_changes hw ho
  | addWriters id count =>
    obtain ⟨o, ho, h⟩ := bind_eq_ok h
    cases h
    exact addWriters_changes ho
  | dropWriters id count =>
    obtain ⟨o, ho, h⟩ := bind_eq_ok h
    cases h
    exact dropWriters_changes hw ho
  | addReaders id count =>
    obtain ⟨o, ho, h⟩ := bind_eq_ok h
    cases h
    exact addReaders_changes ho
  | dropReaders id count =>
    cases h
    exact dropReaders_changes hw
  | insert id subscript member drops =>
    obtain ⟨o, ho, h⟩ := bind_eq_ok h
    cases h
    show Changes s o.shard
    exact onContainer_changes hn (fun _ _ _ => insertMember_refused)
      (fun _ _ => insertMember_changes) ho
  | reserve id subscript =>
    obtain ⟨o, ho, h⟩ := bind_eq_ok h
    cases h
    show Changes s o.shard
    exact onContainer_changes hn (fun _ _ _ => reserveSubscript_refused)
      (fun _ _ => reserveSubscript_changes) ho
  | subscribe id subscript token =>
    cases h
    exact subscribe_changes
  | refer id subscript reference token =>
    cases h
    exact refer_changes
  | close id =>
    cases h
    exact close_changes hw
  | unique =>
    obtain ⟨o, ho, h⟩ := bind_eq_ok h
    cases h
    obtain ⟨⟨ids, fresh⟩, hfresh, ho⟩ := bind_eq_ok ho
    cases ho
    exact changes_of_noted (.intro (allocate_noted hn hfresh).1 (.refl _))
  | lock id =>
    cases h
    exact lock_changes
  | unlock id =>
    cases h
    exact unlock_changes
  | has | retrieve | enumerate | lookup | kindOf | subscriptKindOf | sizeOf =>
    cases h
    exact .refl

/-- **Every run** changes a shard in steps of these kinds. A step needs what is known of waits and
ids before it, and `Tracked` carries that along. -/
theorem run_changes {log log' : WaitLog} {calls : List ShardCall} (tracked : Tracked s log)
    (h : s.run log calls = .ok (s', log')) : Changes s s' := by
  induction calls generalizing s log with
  | nil =>
    cases h
    exact .refl
  | cons c calls ih =>
    obtain ⟨⟨s₁, log₁⟩, hcall, h⟩ := bind_eq_ok h
    refine .trans ?_ (ih (tracked.call hcall) h)
    cases c with
    | perform rank op =>
      obtain ⟨o, ho, hcall⟩ := bind_eq_ok hcall
      cases hcall
      exact perform_changes tracked.waits tracked.numbered ho
    | invalidate =>
      cases hcall
      exact .single (.await [])

/-- What a new shard has and every kind of step keeps, a shard has after every run. -/
theorem holds_of_run {P : Shard → Prop} {index : UInt64} {settings : Settings} {log : WaitLog}
    {calls : List ShardCall} (hi : index < settings.servers)
    (hn : (settings.servers.toNat : Int) ≤ topId)
    (hrun : (Shard.new index settings).run {} calls = .ok (s, log))
    (new : P (Shard.new index settings)) (step : ∀ s s', P s → Change s s' → P s') : P s :=
  (run_changes (.new hi hn) hrun).keep step new

end Shard

end WorkPool
