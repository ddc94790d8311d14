import WorkPool.Proofs.Shard.TakenBack

/-!
# Refusals change nothing

An operation checks everything before it changes anything, and asks for bytes before it writes
them. Once the bytes are granted, none of the steps that follow can fail any more (`Granted`). So
an operation that is refused has either failed a check, and nothing was done, or there was no room,
which the budget notes (`Spared`). A creation may also have passed over an id by then.

That is shown operation by operation, of any shard whatever. Main statement: a refused operation
leaves the shard as it was, but for the ids that are left and the number of refusals, and leaves
nothing to do. A write to an id that no datum has or had is left out: it makes its container first,
and what becomes of that is told in `TakenBack`.
-/

namespace WorkPool

theorem Outcome.map_error {α β : Type} {f : α → β} {o : Outcome α} {e : Error}
    (h : o.result = .error e) : (o.map f).result = .error e := by
  rw [Outcome.map, h]
  rfl

/-- An answer in another form is an error only if it was one. -/
theorem Outcome.error_of_map {α β : Type} {f : α → β} {o : Outcome α} {e : Error}
    (h : (o.map f).result = .error e) : o.result = .error e := by
  rw [Outcome.map] at h
  cases result : o.result with
  | error e' =>
    rw [result] at h
    cases h
    rfl
  | ok a =>
    rw [result] at h
    cases h

namespace Shard

variable {s : Shard} {id : DatumId} {rank : Rank} {e : Error}

/-- What is spared is as before. -/
theorem Spared.asBefore {α : Type} {o : Outcome α} (h : Spared s o) :
    AsBefore s o.shard ∧ o.effects = {} := by
  obtain ⟨⟨violations, shard⟩, effects⟩ := h
  exact ⟨⟨s.ids, violations, shard⟩, effects⟩

/-! ## Creation -/

section Creation

variable {spec : Spec} {content : Content}

/-- New content that finds no room leaves a note of that. -/
theorem takeUp_spared {o : Outcome DatumId} (h : s.takeUp id content spec = .ok o)
    (he : o.result = .error e) : Spared s o := by
  obtain ⟨⟨memory, granted⟩, hallocate, h⟩ := bind_eq_ok h
  cases granted with
  | error e' =>
    cases h
    rw [MemoryBudget.allocate_refused_eq hallocate]
    exact ⟨⟨s.memory.violations + 1, rfl⟩, rfl⟩
  | ok =>
    cases h
    cases he

/-- Passing over an id changes the ids that are left, and no more. -/
theorem Spared.asBefore_ids {α : Type} {o : Outcome α} {ids : IdSource}
    (h : Spared { s with ids } o) : AsBefore s o.shard ∧ o.effects = {} := by
  obtain ⟨⟨violations, shard⟩, effects⟩ := h
  exact ⟨⟨ids, violations, shard⟩, effects⟩

/-- **A creation that is refused** may have passed over an id, or noted that there was no room. -/
theorem create_asBefore {o : Outcome DatumId} (h : s.create spec = .ok o)
    (he : o.result = .error e) : AsBefore s o.shard ∧ o.effects = {} := by
  unfold create at h
  split at h
  · cases h
    exact (spared_refuse s _).asBefore
  split at h
  · cases h
    exact (spared_refuse s _).asBefore
  split at h
  · obtain ⟨⟨ids, fresh⟩, -, h⟩ := bind_eq_ok h
    cases fresh with
    | error e' =>
      cases h
      exact (spared_refuse { s with ids } e').asBefore_ids
    | ok id => exact (takeUp_spared h he).asBefore_ids
  split at h
  · cases h
    exact (spared_refuse s _).asBefore
  split at h
  · cases h
    exact (spared_refuse s _).asBefore
  · obtain ⟨ids, -, h⟩ := bind_eq_ok h
    exact (takeUp_spared h he).asBefore_ids

end Creation

/-! ## Data that are there -/

section Data

/-- **A value that is refused**: a check has failed, or there was no room. No step after that fails.
-/
theorem store_spared {value : Value} {drops : UInt32} {o : Outcome Unit}
    (h : s.store id value drops = .ok o) (he : o.result = .error e) : Spared s o := by
  cases store_stores h with
  | refused => exact spared_refuse s _
  | full resized => exact spared_memory resized
  | done => cases he

theorem storeBytes_spared {bytes : Bytes} {drops : UInt32} {o : Outcome Unit}
    (h : s.storeBytes id bytes drops = .ok o) (he : o.result = .error e) : Spared s o := by
  unfold storeBytes at h
  split at h
  · cases h
    exact spared_refuse s _
  · exact store_spared h he

theorem addWriters_spared {count : UInt32} {o : Outcome Unit} (h : s.addWriters id count = .ok o)
    (he : o.result = .error e) : Spared s o := by
  unfold addWriters at h
  split at h
  · cases h
    exact spared_refuse s _
  split at h
  · cases h
    exact spared_refuse s _
  · obtain ⟨writers, -, h⟩ := bind_eq_ok h
    cases h
    cases he

/-- Writers that may not leave stay. -/
theorem dropWriters_spared {count : UInt32} {o : Outcome Unit}
    (h : s.dropWriters id count = .ok o) (he : o.result = .error e) : Spared s o := by
  cases dropWriters_givesUp h with
  | refused => exact spared_refuse s _
  | done => cases he

theorem addReaders_spared {count : UInt32} {o : Outcome Unit} (h : s.addReaders id count = .ok o)
    (he : o.result = .error e) : Spared s o := by
  unfold addReaders at h
  split at h
  · cases h
    exact spared_refuse s _
  · obtain ⟨readers, -, h⟩ := bind_eq_ok h
    cases h
    cases he

theorem dropReaders_spared {count : UInt32} (he : (s.dropReaders id count).result = .error e) :
    Spared s (s.dropReaders id count) := by
  revert he
  unfold dropReaders
  split
  · exact fun _ => spared_refuse s _
  split
  · exact fun _ => spared_refuse s _
  · intro he
    cases he

theorem close_spared (he : (s.close id).result = .error e) : Spared s (s.close id) := by
  revert he
  unfold close
  split
  · exact fun _ => spared_refuse s _
  split
  · exact fun _ => spared_refuse s _
  · intro he
    cases he

theorem lock_spared (he : (s.lock id rank).result = .error e) : Spared s (s.lock id rank) := by
  revert he
  unfold lock
  split
  · exact fun _ => spared_refuse s _
  split
  · intro he
    cases he
  · intro he
    cases he

theorem unlock_spared (he : (s.unlock id rank).result = .error e) :
    Spared s (s.unlock id rank) := by
  revert he
  unfold unlock
  split
  · exact fun _ => spared_refuse s _
  split
  · split
    · exact nofun
    · exact fun _ => spared_refuse s _
  · exact fun _ => spared_refuse s _

end Data

/-! ## Waits -/

section Waits

variable {subscript : String} {token : UInt64}

/-- A wait that is refused is not registered. -/
theorem awaitSubscript_spared {sub : Subscription} {name : String}
    (he : (s.awaitSubscript sub subscript name).result = .error e) :
    Spared s (s.awaitSubscript sub subscript name) := by
  revert he
  unfold awaitSubscript
  split
  · exact fun _ => spared_refuse s _
  split
  · exact nofun
  split
  · exact fun _ => spared_refuse s _
  · exact nofun

theorem subscribe_spared {key : Option String}
    (he : (s.subscribe id key rank token).result = .error e) :
    Spared s (s.subscribe id key rank token) := by
  cases key with
  | some subscript => exact awaitSubscript_spared he
  | none =>
    revert he
    unfold subscribe
    simp only
    split
    · exact fun _ => spared_refuse s _
    split
    · exact nofun
    · exact nofun

theorem refer_spared {reference : Option DatumId}
    (he : (s.refer id subscript reference rank token).result = .error e) :
    Spared s (s.refer id subscript reference rank token) := by
  revert he
  unfold refer
  simp only
  split
  · rename_i satisfied
    rw [satisfied]
    exact nofun
  · exact awaitSubscript_spared

end Waits

/-! ## All operations -/

/-- A container that is there, or was collected, is not made. -/
theorem onContainer_spared {α : Type} {act : Shard → Except Fault (Outcome α)} {o : Outcome α}
    (hact : ∀ o, act s = .ok o → o.result = .error e → Spared s o)
    (known : s.data.contains id = true ∨ id ∈ s.retired) (h : s.onContainer id act = .ok o)
    (he : o.result = .error e) : Spared s o := by
  obtain ⟨ready, hready, h⟩ := bind_eq_ok h
  unfold ensureContainer at hready
  by_cases there : s.data.contains id = true
  · rw [if_pos there] at hready
    cases hready
    obtain ⟨o₁, ho₁, h⟩ := bind_eq_ok h
    have same : o = o₁ := by
      split at h
      · cases h
        rfl
      · cases h
        rfl
    exact hact o (same ▸ ho₁) he
  · have retired := List.contains_iff_mem.2 (known.resolve_left there)
    rw [if_neg there, if_pos retired] at hready
    cases hready
    cases h
    exact spared_refuse s _

/-- **A refused operation changes nothing.** Whatever state a shard is in, an operation that is
refused leaves it as it was, but for the ids that are left and the number of refusals, and leaves
nothing to do. That holds of all operations; those that make a container if need be are taken at
an id that is live or retired. -/
theorem refused_call_asBefore (s : Shard) (rank : Rank) (op : Operation)
    (known : ∀ id, op.entered? = some id → s.data.contains id = true ∨ id ∈ s.retired)
    (o : Outcome Reply) (ho : s.perform rank op = .ok o) (e : Error) (he : o.result = .error e) :
    AsBefore s o.shard ∧ o.effects = {} := by
  cases op with
  | create spec =>
    obtain ⟨o, hcreate, ho⟩ := bind_eq_ok ho
    cases ho
    exact create_asBefore hcreate (Outcome.error_of_map he)
  | store id value drops =>
    obtain ⟨o, hstore, ho⟩ := bind_eq_ok ho
    cases ho
    exact (store_spared hstore (Outcome.error_of_map he)).asBefore
  | storeBytes id bytes drops =>
    obtain ⟨o, hstore, ho⟩ := bind_eq_ok ho
    cases ho
    exact (storeBytes_spared hstore (Outcome.error_of_map he)).asBefore
  | addWriters id count =>
    obtain ⟨o, hadd, ho⟩ := bind_eq_ok ho
    cases ho
    exact (addWriters_spared hadd (Outcome.error_of_map he)).asBefore
  | dropWriters id count =>
    obtain ⟨o, hdrop, ho⟩ := bind_eq_ok ho
    cases ho
    exact (dropWriters_spared hdrop (Outcome.error_of_map he)).asBefore
  | addReaders id count =>
    obtain ⟨o, hadd, ho⟩ := bind_eq_ok ho
    cases ho
    exact (addReaders_spared hadd (Outcome.error_of_map he)).asBefore
  | dropReaders id count =>
    cases ho
    exact (dropReaders_spared (Outcome.error_of_map he)).asBefore
  | insert id subscript member drops =>
    obtain ⟨o, hinsert, ho⟩ := bind_eq_ok ho
    cases ho
    exact (onContainer_spared (fun _ => insertMember_spared) (known id rfl) hinsert
      (Outcome.error_of_map he)).asBefore
  | reserve id subscript =>
    obtain ⟨o, hreserve, ho⟩ := bind_eq_ok ho
    cases ho
    exact (onContainer_spared (fun _ => reserveSubscript_spared) (known id rfl) hreserve
      (Outcome.error_of_map he)).asBefore
  | subscribe id subscript token =>
    cases ho
    exact (subscribe_spared (Outcome.error_of_map he)).asBefore
  | refer id subscript reference token =>
    cases ho
    exact (refer_spared (Outcome.error_of_map he)).asBefore
  | close id =>
    cases ho
    exact (close_spared (Outcome.error_of_map he)).asBefore
  | unique =>
    obtain ⟨o, hunique, ho⟩ := bind_eq_ok ho
    cases ho
    obtain ⟨⟨ids, fresh⟩, -, hunique⟩ := bind_eq_ok hunique
    cases hunique
    exact ⟨⟨ids, s.memory.violations, rfl⟩, rfl⟩
  | lock id =>
    cases ho
    exact (lock_spared (Outcome.error_of_map he)).asBefore
  | unlock id =>
    cases ho
    exact (unlock_spared (Outcome.error_of_map he)).asBefore
  | has | retrieve | enumerate | lookup | kindOf | subscriptKindOf | sizeOf =>
    cases ho
    exact ⟨⟨s.ids, s.memory.violations, rfl⟩, rfl⟩

/-- One waits for a member of a container that has little room left. -/
def awaitLongMember : List ShardCall :=
  [.perform 0 (.insert 5 "key" [1, 2] 0), .perform 1 (.subscribe 5 (some "later") 9)]

/-- The member that is too long is refused: the room it lacks is noted, and who waits for it still
does. -/
theorem refused_call_asBefore_no_room : ∃ s log o e,
    (Shard.new 1 { servers := 2, maxMemoryBytes := 12 }).run {} awaitLongMember = .ok (s, log) ∧
    s.data.contains 5 = true ∧ s.perform 0 (.insert 5 "later" [3, 4, 5] 1) = .ok o ∧
    o.result = .error e ∧ o.shard.memory.violations = s.memory.violations + 1 ∧
    o.shard.subscriptions.length = 1 ∧ AsBefore s o.shard ∧ o.effects = {} := by
  refine ⟨_, _, _, _, rfl, rfl, rfl, rfl, rfl, rfl, ?_⟩
  refine refused_call_asBefore _ 0 (.insert 5 "later" [3, 4, 5] 1) ?_ _ rfl _ rfl
  rintro id ⟨⟩
  exact .inl rfl

end Shard

end WorkPool
