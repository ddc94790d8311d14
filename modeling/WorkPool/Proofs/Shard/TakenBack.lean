import WorkPool.Proofs.Shard.Lifecycle

/-!
# What a refused write leaves behind

A write or a reservation at an id that no datum has makes a container first. If it is then
refused, the container is taken back, and the shard is as it was, except for the ids that are
left and the number of refusals (`AsBefore`).

There is one exception. The null id stands for no id, so that a container that is made for it
gets the next free id. The write then finds no datum at the null id and is refused, and there is
none to be taken back at the null id either: the container stays, open for ever
(`LeftBehind`). Main statement: a refused write leaves nothing behind exactly if it was to
another id than the null id, or no id was left.
-/

namespace WorkPool

/-- The datum that an operation writes an entry of, and makes if need be. -/
def Operation.entered? : Operation → Option DatumId
  | .insert id _ _ _ => some id
  | .reserve id _ => some id
  | _ => none

namespace Shard

/-- Nothing changed but the ids that are left and the number of refusals. -/
def AsBefore (s s' : Shard) : Prop :=
  ∃ ids violations, s' = { s with ids, memory := { s.memory with violations } }

/-- An empty open container was left under the next free id. -/
structure LeftBehind (s s' : Shard) : Prop where
  absent : s.data.find? s.ids.next = none
  data : s'.data = s.data.insert s.ids.next ⟨fresh, 1, 1, false, 0⟩
  counts : s'.counts = { s.counts with created := s.counts.created + 1 }

section Refused

variable {s s' : Shard} {id : DatumId}

theorem Noted.asBefore (h : Noted s s') (sound : s.memory.Sound) : AsBefore s s' := by
  obtain ⟨onward, held⟩ := h
  rename_i ids memory
  refine ⟨ids, memory.violations, ?_⟩
  rw [← held.eq sound]

theorem LeftBehind.not_asBefore (h : LeftBehind s s') : ¬ AsBefore s s' := by
  rintro ⟨ids, violations, rfl⟩
  have found := congrArg (Table.find? · s.ids.next) h.data
  simp only [h.absent, Table.find?_insert_self] at found
  cases found

/-- One more datum is open. -/
theorem LeftBehind.openCount (h : LeftBehind s s') : s'.openCount = s.openCount + 1 := by
  unfold Shard.openCount
  rw [h.data, ← Table.total_toNat, ← Table.total_toNat, Table.total_insert_of_none _ h.absent]
  rfl

/-! ## The null id -/

/-- No datum has the null id, and none had it. -/
structure NullFree (s : Shard) : Prop where
  absent : s.data.find? nullId = none
  unretired : nullId ∉ s.retired

theorem NullFree.change (h : NullFree s) (hn : s.Numbered) (change : Change s s') :
    NullFree s' := by
  cases change with
  | note noted =>
    obtain ⟨-, -⟩ := noted
    exact ⟨h.absent, h.unretired⟩
  | await | lock | unlock => exact ⟨h.absent, h.unretired⟩
  | make making =>
    have other := making.ne_null hn
    exact ⟨(Table.find?_insert_ne _ other.symm _).trans h.absent, h.unretired⟩
  | turn turning read =>
    have other := Table.ne_of_find? h.absent turning.live
    exact ⟨(Table.find?_insert_ne _ other _).trans h.absent, h.unretired⟩
  | retire turning ended unread =>
    have other := Table.ne_of_find? h.absent turning.live
    refine ⟨(Table.find?_erase_ne _ other).trans h.absent, ?_⟩
    exact fun mem => h.unretired (List.mem_of_ne_of_mem other mem)

/-- While an id is left, a container is made for the null id: it takes no bytes, so that there is
always room for it. -/
theorem NullFree.ensureContainer {o : Outcome Bool} (h : NullFree s) (hn : s.Numbered)
    (sound : s.memory.Sound) (unspent : ¬ s.ids.limit < s.ids.next)
    (ho : s.ensureContainer nullId = .ok o) : o.result = .ok true := by
  have vacant : ¬ s.data.contains nullId = true := by simp [Table.contains, h.absent]
  have unretired : ¬ s.retired.contains nullId = true := by simp [h.unretired]
  rw [Shard.ensureContainer, if_neg vacant, if_neg unretired] at ho
  obtain ⟨made, hmade, ho⟩ := bind_eq_ok ho
  cases ho
  obtain ⟨⟨ids, r⟩, hids, hmade⟩ := bind_eq_ok hmade
  obtain ⟨ids', granted⟩ := IdSource.allocate_of_unspent hn.upward unspent
  cases granted.symm.trans hids
  obtain ⟨⟨memory, r⟩, hmemory, hmade⟩ := bind_eq_ok hmade
  cases sound.allocate_zero hmemory
  cases hmade
  rfl

/-! ## Refused writes -/

/-- **A refused operation on a container** that was not there: it was not to be, or was taken
back, or is left behind. -/
theorem onContainer_refused {α : Type} {act : Shard → Except Fault (Outcome α)} {o : Outcome α}
    {e : Error} (hn : s.Numbered) (free : NullFree s) (sound : s.memory.Sound)
    (hrefused : ∀ s o e, act s = .ok o → o.result = .error e → RefusedAs s o)
    (absent : s.data.find? id = none) (h : s.onContainer id act = .ok o)
    (he : o.result = .error e) :
    o.effects = {} ∧
      ((id ≠ nullId ∨ s.ids.limit < s.ids.next) ∧ AsBefore s o.shard ∨
        (id = nullId ∧ ¬ s.ids.limit < s.ids.next) ∧ LeftBehind s o.shard) := by
  cases onContainer_acted hn hrefused h with
  | there live acted => exact absurd absent live
  | refused absent refused result unmade =>
    refine ⟨refused.effects, .inl ⟨?_, refused.noted.asBefore sound⟩⟩
    by_cases null : id = nullId
    · refine .inr (Decidable.byContradiction fun unspent => ?_)
      obtain ⟨ready, e, hready, hresult⟩ := unmade null
      rw [null] at hready
      rw [free.ensureContainer hn sound unspent hready] at hresult
      cases hresult
    · exact .inl null
  | made making acted result =>
    rw [result] at he
    cases he
  | leaked null making refused result =>
    obtain ⟨unspent, rfl⟩ := making.next null
    refine ⟨refused.effects, .inr ⟨⟨null, unspent⟩, ?_⟩⟩
    obtain ⟨noted, -⟩ := refused
    generalize o.shard = left at noted
    obtain ⟨-, -⟩ := noted
    exact ⟨making.absent, rfl, rfl⟩

/-- An operation that writes an entry makes its container first. -/
theorem perform_entered {rank : Rank} {op : Operation} {o : Outcome Reply}
    (hop : op.entered? = some id) (h : s.perform rank op = .ok o) :
    ∃ (α : Type) (act : Shard → Except Fault (Outcome α)) (o₁ : Outcome α) (f : α → Reply),
      (∀ s o e, act s = .ok o → o.result = .error e → RefusedAs s o) ∧
      s.onContainer id act = .ok o₁ ∧ o = o₁.map f := by
  cases op with
  | insert id subscript member drops =>
    cases hop
    obtain ⟨o₁, ho₁, h⟩ := bind_eq_ok h
    cases h
    exact ⟨_, _, o₁, _, fun _ _ _ => insertMember_refused, ho₁, rfl⟩
  | reserve id subscript =>
    cases hop
    obtain ⟨o₁, ho₁, h⟩ := bind_eq_ok h
    cases h
    exact ⟨_, _, o₁, _, fun _ _ _ => reserveSubscript_refused, ho₁, rfl⟩
  | _ => cases hop

end Refused

/-! ## Every run -/

/-- **What a refused write leaves behind.** Whatever the run of a new shard, a write or a
reservation at an id that no datum has, if it is refused, leaves nothing to do. It leaves the
shard as it was, but for the ids that are left and the number of refusals, exactly if the id is
not the null id or no id is left; otherwise it leaves one more datum, an empty open container
under the next id. -/
theorem refused_entry_asBefore_iff {s : Shard} {log : WaitLog} (index : UInt64)
    (settings : Settings) (hi : index < settings.servers)
    (hn : (settings.servers.toNat : Int) ≤ topId) (calls : List ShardCall)
    (hrun : (Shard.new index settings).run {} calls = .ok (s, log)) (rank : Rank)
    (op : Operation) (id : DatumId) (hop : op.entered? = some id)
    (absent : s.data.find? id = none) (o : Outcome Reply) (ho : s.perform rank op = .ok o)
    (e : Error) (he : o.result = .error e) :
    o.effects = {} ∧
    (AsBefore s o.shard ↔ id ≠ nullId ∨ s.ids.limit < s.ids.next) ∧
    (¬ AsBefore s o.shard → LeftBehind s o.shard ∧ o.shard.openCount = s.openCount + 1) := by
  have books := Books.of_run hi hn hrun
  have free : Lives s ∧ NullFree s :=
    holds_of_run (P := fun s => Lives s ∧ NullFree s) hi hn hrun
      ⟨lives_new hi hn, rfl, List.not_mem_nil⟩
      fun _ _ h change => ⟨h.1.change change, h.2.change h.1.numbered change⟩
  obtain ⟨α, act, o₁, f, hrefused, ho₁, rfl⟩ := perform_entered hop ho
  have refused : ∃ e, o₁.result = .error e := by
    cases result : o₁.result with
    | error e => exact ⟨e, rfl⟩
    | ok a =>
      rw [Outcome.map, result] at he
      cases he
  obtain ⟨e₁, he₁⟩ := refused
  obtain ⟨effects, ends⟩ :=
    onContainer_refused free.1.numbered free.2 books.sound hrefused absent ho₁ he₁
  refine ⟨effects, ?_⟩
  show (AsBefore s o₁.shard ↔ _) ∧ (¬ AsBefore s o₁.shard → LeftBehind s o₁.shard ∧ _)
  rcases ends with ⟨elsewhere, asBefore⟩ | ⟨⟨null, unspent⟩, leftBehind⟩
  · exact ⟨⟨fun _ => elsewhere, fun _ => asBefore⟩, fun changed => absurd asBefore changed⟩
  · refine ⟨⟨fun asBefore => absurd asBefore leftBehind.not_asBefore, ?_⟩, ?_⟩
    · rintro (elsewhere | spent)
      · exact absurd null elsewhere
      · exact absurd spent unspent
    · exact fun _ => ⟨leftBehind, leftBehind.openCount⟩

/-- A write that gives up more writers than a new container has is taken back; a write to the
null id leaves a container behind. -/
theorem refused_entry_asBefore_iff_two :
    (∃ o e, (Shard.new 0 { servers := 2 }).perform 0 (.insert 5 "k" [1] 2) = .ok o ∧
      o.result = .error e ∧ AsBefore (Shard.new 0 { servers := 2 }) o.shard) ∧
    ∃ o e, (Shard.new 0 { servers := 2 }).perform 0 (.insert 0 "k" [1] 1) = .ok o ∧
      o.result = .error e ∧ ¬ AsBefore (Shard.new 0 { servers := 2 }) o.shard ∧
      o.shard.openCount = 1 := by
  have five := refused_entry_asBefore_iff 0 { servers := 2 } (by decide) (by decide) [] rfl 0
    (.insert 5 "k" [1] 2) 5 rfl rfl _ rfl _ rfl
  have null := refused_entry_asBefore_iff 0 { servers := 2 } (by decide) (by decide) [] rfl 0
    (.insert 0 "k" [1] 1) 0 rfl rfl _ rfl _ rfl
  refine ⟨⟨_, _, rfl, rfl, five.2.1.2 (.inl (by decide))⟩, _, _, rfl, rfl, ?_⟩
  have leaks := mt null.2.1.1 (by decide)
  exact ⟨leaks, (null.2.2 leaks).2⟩

end Shard

end WorkPool
