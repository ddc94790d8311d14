import WorkPool.Proofs.FreshIds
import WorkPool.Proofs.Shard.Perform

/-!
# Costs: what an operation adds to the counts of a shard

A shard counts the data that were made, closed and collected, the ids that were handed out, and
the growth that was refused. No operation adds much to these counts itself. But it may end any
number of waits, and each of them has effects that are counted later: a notice, and a member that
is stored elsewhere.

A wait is therefore counted in advance. The **level** of a shard is what it has counted and six for
each wait, three for the notice that ends it and three for the member that is stored then. What an
operation **costs** is what the level rises by and three for each of its effects, and
`perform_costs` says that this is never more than six.
-/

namespace WorkPool

/-! ## Ids and bytes -/

theorem IdSource.issued_allocate_le {ids ids' : IdSource} {r : Except Error DatumId}
    (h : ids.allocate = .ok (ids', r)) : ids'.issued ≤ ids.issued + 1 := by
  cases r with
  | ok id => exact Nat.le_of_eq (issued_allocate h)
  | error e =>
    unfold allocate at h
    split at h
    · cases h
      exact Nat.le_succ _
    simp only at h
    split at h
    · obtain ⟨limit, -, h⟩ := bind_eq_ok h
      cases h
    · cases h

namespace MemoryBudget

variable {b b' : MemoryBudget} {r : Except Error Unit}

/-- Growth is refused once at a time. -/
theorem violations_allocate_le {n : Nat} (h : b.allocate n = .ok (b', r)) :
    b'.violations ≤ b.violations + 1 := by
  cases r with
  | ok =>
    rw [(allocate_granted h).1]
    exact Nat.le_succ _
  | error e => exact Nat.le_of_eq (congrArg violations (allocate_refused_eq h))

theorem violations_resize_le {old new : Nat} (h : b.resize old new = .ok (b', r)) :
    b'.violations ≤ b.violations + 1 := by
  unfold resize at h
  split at h
  · exact violations_allocate_le h
  · cases h
    exact Nat.le_succ _

end MemoryBudget

/-! ## Levels and costs -/

/-- What effects can add to the counts of a server: a notice is counted as such and as a unit, and
a member is refused its bytes, or closes a datum that is then collected. -/
def Effects.cost (e : Effects) : Nat := 3 * e.notices.length + 3 * e.references.length

namespace Shard

variable {s s' : Shard} {id : DatumId} {α : Type} {n : Nat}

/-- What a shard has counted, and what its waits can still add to the counts. -/
def level (s : Shard) : Nat :=
  s.counts.created + s.counts.closed + s.counts.collected + s.ids.issued + s.memory.violations +
    6 * s.pendingCount

/-- An operation and its effects add `n` to the counts at most. -/
def Costs (s : Shard) (n : Nat) (o : Outcome α) : Prop :=
  o.shard.level + o.effects.cost ≤ s.level + n

/-- What has no effects costs what the level rises by. -/
theorem costs_inspect {r : Except Error α} (h : s'.level ≤ s.level + n) :
    Costs s n (s'.inspect r) := h

/-- A refusal is free. -/
theorem costs_refuse (s : Shard) (e : Error) (n : Nat) : Costs s n (s.refuse e : Outcome α) :=
  Nat.le_add_right _ _

theorem Costs.mono {o : Outcome α} {m : Nat} (h : Costs s m o) (le : m ≤ n) : Costs s n o :=
  Nat.le_trans h (Nat.add_le_add_left le _)

/-- What is done to a shard that was changed before costs the change as well. -/
theorem Costs.after {o : Outcome α} {m : Nat} (h : Costs s' n o) (first : s'.level ≤ s.level + m) :
    Costs s (m + n) o := by
  unfold Costs at h ⊢
  omega

/-- A budget that was asked for bytes has refused them once more, if at all. -/
theorem level_resize {old new : Nat} {memory : MemoryBudget} {r : Except Error Unit}
    (h : s.memory.resize old new = .ok (memory, r)) :
    ({ s with memory } : Shard).level ≤ s.level + 1 := by
  have refused := MemoryBudget.violations_resize_le h
  simp only [level, pendingCount]
  omega

/-- One id at most was handed out. -/
theorem level_allocate {ids : IdSource} (h : ids.issued ≤ s.ids.issued + 1) :
    ({ s with ids } : Shard).level ≤ s.level + 1 := by
  simp only [level, pendingCount]
  omega

/-! ## The end of a datum's life -/

/-- A datum is collected once. -/
theorem level_collect (s : Shard) (id : DatumId) : (s.collect id).level ≤ s.level + 1 := by
  unfold collect
  split
  · split
    · simp only [level, pendingCount, MemoryBudget.release]
      omega
    · exact Nat.le_succ _
  · exact Nat.le_succ _

/-- The waits that are taken out and those that are left are as many as there were. -/
theorem length_take {subs ended left : Subscriptions} {p : Subscription → Bool}
    (h : subs.take p = (ended, left)) : ended.length + left.length = subs.length := by
  cases h
  rw [← List.length_append]
  exact (List.filter_append_perm p subs).length_eq

/-- **A closing** counts the datum as closed and as collected. Each notice ends a wait, which has
paid for it. -/
theorem closeDatum_costs (s : Shard) (id : DatumId) (d : Datum) :
    Costs s 2 (settledOutcome (s.closeDatum id d)) := by
  show (s.closeDatum id d).1.level + 3 * (s.closeDatum id d).2.length ≤ s.level + 2
  unfold closeDatum
  split
  rename_i closers rest taken
  split
  rename_i waiters left later
  have first := length_take taken
  have second : waiters.length + left.length = rest.length := by
    split at later
    · exact length_take later
    · cases later
      exact Nat.zero_add _
  have sorted := (bySubscript_perm waiters).length_eq
  refine Nat.le_trans (Nat.add_le_add_right (level_collect _ id) _) ?_
  simp only [level, pendingCount, List.length_append, List.length_map, sorted]
  omega

/-- Giving up writers costs no more than a closing. -/
theorem settle_costs {d : Datum} {drops : UInt32} {notices : List (Rank × Notice)}
    (h : s.settle id d drops = .ok (s', notices)) : Costs s 2 (settledOutcome (s', notices)) := by
  unfold settle at h
  split at h
  · cases h
    exact Nat.le_add_right _ _
  obtain ⟨writers, -, h⟩ := bind_eq_ok h
  simp only at h
  split at h
  · have closed := closeDatum_costs s id { d with writers }
    rwa [Except.ok.inj h] at closed
  · cases h
    exact Nat.le_add_right _ _

/-! ## Operation by operation -/

/-- New content costs its bytes, or counts as made. -/
theorem takeUp_costs {content : Content} {spec : Spec} {o : Outcome DatumId}
    (h : s.takeUp id content spec = .ok o) : Costs s 2 o := by
  obtain ⟨⟨memory, granted⟩, allocated, h⟩ := bind_eq_ok h
  have refused := MemoryBudget.violations_allocate_le allocated
  cases granted with
  | error e =>
    cases h
    refine costs_inspect ?_
    simp only [level, pendingCount]
    omega
  | ok =>
    cases h
    refine costs_inspect ?_
    simp only [level, pendingCount]
    omega

/-- **A datum** costs its id, its bytes and itself. -/
theorem create_costs {spec : Spec} {o : Outcome DatumId} (h : s.create spec = .ok o) :
    Costs s 3 o := by
  unfold create at h
  split at h
  · cases h
    exact costs_refuse s _ 3
  split at h
  · cases h
    exact costs_refuse s _ 3
  split at h
  · obtain ⟨⟨ids, fresh⟩, allocated, h⟩ := bind_eq_ok h
    have first := level_allocate (IdSource.issued_allocate_le allocated)
    cases fresh with
    | error e =>
      cases h
      exact (costs_refuse _ e 2).after first
    | ok id => exact (takeUp_costs h).after first
  split at h
  · cases h
    exact costs_refuse s _ 3
  split at h
  · cases h
    exact costs_refuse s _ 3
  · obtain ⟨ids, reserved, h⟩ := bind_eq_ok h
    have same := IdSource.issued_reserve reserved
    exact (takeUp_costs h).after (level_allocate (Nat.le_succ_of_le (Nat.le_of_eq same)))

/-- **Setting a scalar** costs its bytes and a closing. -/
theorem store_costs {value : Value} {drops : UInt32} {o : Outcome Unit}
    (h : s.store id value drops = .ok o) : Costs s 3 o := by
  cases store_stores h with
  | refused => exact costs_refuse s _ 3
  | full resized => exact (costs_refuse _ _ 2).after (level_resize resized)
  | done _ granted settled => exact (settle_costs settled).after (level_resize granted)

theorem storeBytes_costs {bytes : Bytes} {drops : UInt32} {o : Outcome Unit}
    (h : s.storeBytes id bytes drops = .ok o) : Costs s 3 o := by
  unfold storeBytes at h
  split at h
  · cases h
    exact costs_refuse s _ 3
  · exact store_costs h

/-- **Writing a member** costs as much: the waits that it ends have paid for their notices and for
the members that are stored. -/
theorem insertMember_costs {subscript : String} {member : Bytes} {drops : UInt32} {o : Outcome Unit}
    (h : s.insertMember id subscript member drops = .ok o) : Costs s 3 o := by
  cases insertMember_inserts h with
  | refused => exact costs_refuse s _ 3
  | full resized => exact (costs_refuse _ _ 2).after (level_resize resized)
  | @done d c others memory s' notices insertable rest granted settled =>
    have refused := MemoryBudget.violations_resize_le granted
    have closed := settle_costs settled
    have ended := (endedBy_perm s id subscript (c.lookup subscript)).length_eq
    have stored := List.length_filterMap_le
      (fun e : Subscription => e.reference.map fun target => (target, member))
      (s.endedBy id subscript (c.lookup subscript)).1
    rw [List.length_append] at ended
    simp only [Costs, settledOutcome, insertedOutcome, level, pendingCount, Effects.cost,
      List.length_append, List.length_map, List.length_nil] at closed ⊢
    omega

/-- A reservation costs its bytes. -/
theorem reserveSubscript_costs {subscript : String} {o : Outcome Bool}
    (h : s.reserveSubscript id subscript = .ok o) : Costs s 3 o := by
  cases reserveSubscript_reserves h with
  | refused => exact costs_refuse s _ 3
  | taken => exact Nat.le_add_right _ _
  | full resized => exact (costs_refuse _ _ 2).after (level_resize resized)
  | done _ _ granted => exact (costs_inspect (Nat.le_add_right _ 2)).after (level_resize granted)

/-- Adding writers is free. -/
theorem addWriters_costs {count : UInt32} {o : Outcome Unit} (h : s.addWriters id count = .ok o) :
    Costs s 0 o := by
  unfold addWriters at h
  split at h
  · cases h
    exact costs_refuse s _ 0
  split at h
  · cases h
    exact costs_refuse s _ 0
  · obtain ⟨writers, -, h⟩ := bind_eq_ok h
    cases h
    exact Nat.le_refl _

/-- Giving up writers may close the datum. -/
theorem dropWriters_costs {count : UInt32} {o : Outcome Unit}
    (h : s.dropWriters id count = .ok o) : Costs s 2 o := by
  cases dropWriters_givesUp h with
  | refused => exact costs_refuse s _ 2
  | done _ _ _ settled => exact settle_costs settled

theorem addReaders_costs {count : UInt32} {o : Outcome Unit} (h : s.addReaders id count = .ok o) :
    Costs s 0 o := by
  unfold addReaders at h
  split at h
  · cases h
    exact costs_refuse s _ 0
  · obtain ⟨readers, -, h⟩ := bind_eq_ok h
    cases h
    exact Nat.le_refl _

/-- Giving up readers may have the datum collected. -/
theorem dropReaders_costs (s : Shard) (id : DatumId) (count : UInt32) :
    Costs s 1 (s.dropReaders id count) := by
  unfold dropReaders
  split
  · exact costs_refuse s _ 1
  split
  · exact costs_refuse s _ 1
  · exact level_collect _ id

theorem close_costs (s : Shard) (id : DatumId) : Costs s 2 (s.close id) := by
  unfold close
  split
  · exact costs_refuse s _ 2
  rename_i d _
  split
  · exact costs_refuse s _ 2
  · exact closeDatum_costs s id { d with writers := 0 }

/-- A fresh id costs one. -/
theorem unique_costs {o : Outcome DatumId} (h : s.unique = .ok o) : Costs s 1 o := by
  obtain ⟨⟨ids, fresh⟩, allocated, h⟩ := bind_eq_ok h
  cases h
  exact level_allocate (IdSource.issued_allocate_le allocated)

/-- Locks are not counted. -/
theorem lock_costs (s : Shard) (id : DatumId) (rank : Rank) : Costs s n (s.lock id rank) := by
  unfold lock
  split
  · exact costs_refuse s _ n
  · split <;> exact Nat.le_add_right _ _

theorem unlock_costs (s : Shard) (id : DatumId) (rank : Rank) : Costs s n (s.unlock id rank) := by
  unfold unlock
  split
  · exact costs_refuse s _ n
  split
  · split <;> exact Nat.le_add_right _ _
  · exact costs_refuse s _ n

/-- What is taken back is not counted any more. -/
theorem level_discard (h : s.discard id = .ok s') : s'.level ≤ s.level := by
  unfold discard at h
  split at h
  · obtain ⟨created, counted, h⟩ := bind_eq_ok h
    cases h
    have fewer := Checked.subSize_eq_ok counted
    simp only [level, pendingCount, MemoryBudget.release]
    omega
  · cases h
    exact Nat.le_refl _

/-- Making a container on demand costs a datum. -/
theorem ensureContainer_costs {o : Outcome Bool} (h : s.ensureContainer id = .ok o) :
    Costs s 3 o := by
  unfold ensureContainer at h
  split at h
  · cases h
    exact Nat.le_add_right _ _
  split at h
  · cases h
    exact costs_refuse s _ 3
  · obtain ⟨o₁, created, h⟩ := bind_eq_ok h
    cases h
    exact create_costs created

/-- **An operation on a container** costs itself and the container. -/
theorem onContainer_costs {act : Shard → Except Fault (Outcome α)} {o : Outcome α}
    (hact : ∀ s o, act s = .ok o → Costs s 3 o)
    (h : s.onContainer id act = .ok o) : Costs s 6 o := by
  obtain ⟨ready, ensured, h⟩ := bind_eq_ok h
  have made : ready.shard.level ≤ s.level + 3 :=
    Nat.le_trans (Nat.le_add_right _ _) (ensureContainer_costs ensured)
  split at h
  · cases h
    exact (costs_refuse _ _ 3).after made
  obtain ⟨o₁, acted, h⟩ := bind_eq_ok h
  have costs : Costs s 6 o₁ := (hact _ _ acted).after made
  split at h
  · cases h
    exact costs
  split at h
  · obtain ⟨s', discarded, h⟩ := bind_eq_ok h
    cases h
    exact Nat.le_trans (Nat.add_le_add_right (level_discard discarded) _) costs
  · cases h
    exact costs

/-- A wait is counted in advance. -/
theorem level_await (s : Shard) (sub : Subscription) :
    ({ s with subscriptions := s.subscriptions ++ [sub] } : Shard).level ≤ s.level + 6 := by
  simp only [level, pendingCount, List.length_append, List.length_singleton]
  omega

/-- Who waits for a subscript is answered, or waits. -/
theorem awaitSubscript_cases (s : Shard) (sub : Subscription) (subscript name : String) :
    (∃ r, s.awaitSubscript sub subscript name = s.inspect r) ∨
      s.awaitSubscript sub subscript name =
        { s with subscriptions := s.subscriptions ++ [sub] }.answer .pending := by
  unfold awaitSubscript
  split
  · exact .inl ⟨_, rfl⟩
  split
  · exact .inl ⟨_, rfl⟩
  split
  · exact .inl ⟨_, rfl⟩
  · exact .inr rfl

theorem subscribe_costs (s : Shard) (id : DatumId) (subscript : Option String) (rank : Rank)
    (token : UInt64) : Costs s 6 (s.subscribe id subscript rank token) := by
  cases subscript with
  | some subscript =>
    rcases awaitSubscript_cases s ⟨id, some subscript, rank, token, none⟩ subscript "subscribe"
      with ⟨r, answered⟩ | waits
    · simp only [subscribe, answered]
      exact Nat.le_add_right _ _
    · simp only [subscribe, waits]
      exact level_await s _
  | none =>
    simp only [subscribe]
    split
    · exact costs_refuse s _ 6
    split
    · exact Nat.le_add_right _ _
    · exact level_await s _

/-- Who need not wait may ask for a member to be stored at once, which costs less than the wait. -/
theorem refer_costs (s : Shard) (id : DatumId) (subscript : String) (reference : Option DatumId)
    (rank : Rank) (token : UInt64) : Costs s 6 (s.refer id subscript reference rank token) := by
  rcases awaitSubscript_cases s ⟨id, some subscript, rank, token, reference⟩ subscript
    "container_reference" with ⟨r, answered⟩ | waits
  · simp only [refer, answered]
    split
    · exact Nat.add_le_add_left (Nat.le_add_right 3 3) s.level
    · exact Nat.le_add_right _ _
  · simp only [refer, waits]
    exact level_await s _

/-! ## All operations -/

/-- **Every operation** adds at most six to the counts, with all that follows from it. -/
theorem perform_costs {rank : Rank} {op : Operation} {o : Outcome Reply}
    (h : s.perform rank op = .ok o) : Costs s 6 o := by
  cases op with
  | create spec =>
    obtain ⟨o, ho, h⟩ := bind_eq_ok h
    cases h
    exact (create_costs ho).mono (by decide)
  | store id value drops =>
    obtain ⟨o, ho, h⟩ := bind_eq_ok h
    cases h
    exact (store_costs ho).mono (by decide)
  | storeBytes id bytes drops =>
    obtain ⟨o, ho, h⟩ := bind_eq_ok h
    cases h
    exact (storeBytes_costs ho).mono (by decide)
  | addWriters id count =>
    obtain ⟨o, ho, h⟩ := bind_eq_ok h
    cases h
    exact (addWriters_costs ho).mono (by decide)
  | dropWriters id count =>
    obtain ⟨o, ho, h⟩ := bind_eq_ok h
    cases h
    exact (dropWriters_costs ho).mono (by decide)
  | addReaders id count =>
    obtain ⟨o, ho, h⟩ := bind_eq_ok h
    cases h
    exact (addReaders_costs ho).mono (by decide)
  | dropReaders id count =>
    cases h
    exact (dropReaders_costs s id count).mono (by decide)
  | insert id subscript member drops =>
    obtain ⟨o, ho, h⟩ := bind_eq_ok h
    cases h
    show Costs s 6 o
    exact onContainer_costs (fun _ _ => insertMember_costs) ho
  | reserve id subscript =>
    obtain ⟨o, ho, h⟩ := bind_eq_ok h
    cases h
    show Costs s 6 o
    exact onContainer_costs (fun _ _ => reserveSubscript_costs) ho
  | subscribe id subscript token =>
    cases h
    exact subscribe_costs s id subscript rank token
  | refer id subscript reference token =>
    cases h
    exact refer_costs s id subscript reference rank token
  | close id =>
    cases h
    exact (close_costs s id).mono (by decide)
  | unique =>
    obtain ⟨o, ho, h⟩ := bind_eq_ok h
    cases h
    exact (unique_costs ho).mono (by decide)
  | lock id =>
    cases h
    exact lock_costs s id rank
  | unlock id =>
    cases h
    exact unlock_costs s id rank
  | has | retrieve | enumerate | lookup | kindOf | subscriptKindOf | sizeOf =>
    cases h
    exact Nat.le_add_right _ _

end Shard

end WorkPool
