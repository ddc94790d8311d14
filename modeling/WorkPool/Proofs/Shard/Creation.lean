import WorkPool.Proofs.MemoryBudget
import WorkPool.Proofs.Shard.Fires
import WorkPool.Proofs.Table

/-!
# Making data

A creation makes one open datum, under an id that no datum has and none had (`Making`), or it is
refused. What is refused leaves the shard as it was, except that ids may have been passed over
and that the budget notes its refusals (`Noted`).

A write to an id that no datum has makes a container first. If the write is then refused, the
container is taken back. `onContainer_acted` says how such a write can end, and there is one way
that is not as it should be: the null id never has a datum, so the container made for a write to
it has another id, the write finds nothing, and nothing is taken back (`Acted.leaked`).
-/

namespace WorkPool

namespace Shard

/-! ## Refusals -/

/-- Nothing changed but the ids that are left, and what is noted of refused growth. -/
inductive Noted (s : Shard) : Shard → Prop where
  | intro {ids : IdSource} {memory : MemoryBudget} (onward : s.ids.Onward ids)
    (held : s.memory.Holds memory) : Noted s { s with ids, memory }

/-- A refused operation leaves notes only, and nothing to do. -/
structure RefusedAs {α : Type} (s : Shard) (o : Outcome α) : Prop where
  noted : Noted s o.shard
  effects : o.effects = {}

/-- A refused operation on what is there leaves the number of refusals changed at most, and nothing
to do. -/
structure Spared {α : Type} (s : Shard) (o : Outcome α) : Prop where
  shard : ∃ violations, o.shard = { s with memory := { s.memory with violations } }
  effects : o.effects = {}

section Refusals

variable {s : Shard} {memory : MemoryBudget}

theorem Noted.refl (s : Shard) : Noted s s := .intro (.refl _) (.refl _)

theorem noted_memory (h : s.memory.Holds memory) : Noted s { s with memory } :=
  .intro (.refl _) h

theorem spared_refuse {α : Type} (s : Shard) (e : Error) : Spared s (s.refuse e : Outcome α) :=
  ⟨⟨s.memory.violations, rfl⟩, rfl⟩

theorem spared_memory {α : Type} {old new : Nat} {e e' : Error}
    (h : s.memory.resize old new = .ok (memory, .error e)) :
    Spared s (({ s with memory } : Shard).refuse e' : Outcome α) := by
  rw [MemoryBudget.resize_refused_eq h]
  exact ⟨⟨s.memory.violations + 1, rfl⟩, rfl⟩

theorem Spared.refusedAs {α : Type} {o : Outcome α} (h : Spared s o) : RefusedAs s o := by
  obtain ⟨⟨violations, shard⟩, effects⟩ := h
  refine ⟨?_, effects⟩
  rw [shard]
  exact noted_memory ⟨rfl, rfl, rfl, fun _ => rfl⟩

end Refusals

/-! ## Creation -/

/-- What it takes to make a datum: an id that is free, content, and room for it. -/
structure Making (s : Shard) (spec : Spec) (id : DatumId) (content : Content) (ids : IdSource)
    (memory : MemoryBudget) : Prop where
  /-- no datum has the id -/
  absent : s.data.find? id = none
  /-- a retired id is none that is handed out -/
  unused : id ∈ s.retired → ¬ s.ids.Passed id
  /-- an id that was asked for is the one that is used -/
  chosen : spec.id ≠ nullId → id = spec.id
  /-- otherwise it is the next one -/
  next : spec.id = nullId → ¬ s.ids.limit < s.ids.next ∧ id = s.ids.next
  /-- somebody may write -/
  writers : spec.writers ≠ 0
  /-- the content is what was asked for -/
  ofSpec : Content.ofSpec spec = .ok content
  onward : s.ids.Onward ids
  /-- the id is not handed out again -/
  passed : ids.Passed id
  granted : s.memory.allocate content.size = .ok (memory, .ok ())

/-- A new datum, which is open. -/
def made (s : Shard) (spec : Spec) (id : DatumId) (content : Content) (ids : IdSource)
    (memory : MemoryBudget) : Shard :=
  { s with
    data := s.data.insert id ⟨content, spec.writers, spec.readers, false, content.size⟩
    ids
    memory
    counts := { s.counts with created := s.counts.created + 1 } }

/-- How a creation can end. -/
inductive Created (s : Shard) (spec : Spec) : Shard → Except Error DatumId → Prop where
  | refused {s' : Shard} {e : Error} (noted : Noted s s') : Created s spec s' (.error e)
  | made {id : DatumId} {content : Content} {ids : IdSource} {memory : MemoryBudget}
    (making : Making s spec id content ids memory) :
    Created s spec (s.made spec id content ids memory) (.ok id)

section Creation

variable {s : Shard} {spec : Spec} {id : DatumId} {content : Content}

/-- Handing out an id moves the source on, and the id is one that no datum has. -/
theorem allocate_noted {ids : IdSource} {r : Except Error DatumId} (hn : s.Numbered)
    (h : s.ids.allocate = .ok (ids, r)) :
    s.ids.Onward ids ∧ ∀ j, r = .ok j →
      s.data.find? j = none ∧ ¬ s.ids.Passed j ∧ ids.Passed j := by
  obtain ⟨upward, passed, fresh⟩ := IdSource.passed_allocate hn.upward h
  refine ⟨⟨fun _ => upward, passed⟩, ?_⟩
  intro j hj
  obtain ⟨new, own⟩ := fresh j hj
  refine ⟨?_, new, own⟩
  cases hd : s.data.find? j with
  | none => rfl
  | some d => exact absurd (hn.passed j d hd) new

/-- Content is taken up under an id that is free, if there is room. -/
theorem takeUp_created {ids : IdSource} {o : Outcome DatumId}
    (making : ∀ memory, s.memory.allocate content.size = .ok (memory, .ok ()) →
      Making s spec id content ids memory) (onward : s.ids.Onward ids)
    (h : ({ s with ids } : Shard).takeUp id content spec = .ok o) :
    Created s spec o.shard o.result ∧ o.effects = {} := by
  obtain ⟨⟨memory, granted⟩, hgranted, h⟩ := bind_eq_ok h
  cases granted with
  | error e =>
    cases h
    exact ⟨.refused (.intro onward (MemoryBudget.allocate_refused hgranted)), rfl⟩
  | ok =>
    cases h
    exact ⟨.made (making memory hgranted), rfl⟩

/-- **A creation** is refused, or makes one datum: under a fresh id, or under one that was chosen
and is neither live nor retired. -/
theorem create_created {o : Outcome DatumId} (hn : s.Numbered) (h : s.create spec = .ok o) :
    Created s spec o.shard o.result ∧ o.effects = {} := by
  unfold create at h
  split at h
  · cases h
    exact ⟨.refused (.refl s), rfl⟩
  rename_i writers
  split at h
  · cases h
    exact ⟨.refused (.refl s), rfl⟩
  rename_i content hcontent
  split at h
  · rename_i null
    obtain ⟨⟨ids, fresh⟩, hfresh, h⟩ := bind_eq_ok h
    obtain ⟨onward, new⟩ := allocate_noted hn hfresh
    cases fresh with
    | error e =>
      cases h
      exact ⟨.refused (.intro onward (.refl _)), rfl⟩
    | ok id =>
      obtain ⟨absent, unpassed, own⟩ := new id rfl
      refine takeUp_created (fun memory hmemory => ?_) onward h
      exact ⟨absent, fun _ => unpassed, fun chosen => absurd null chosen,
        fun _ => IdSource.allocate_eq_ok hfresh, writers, hcontent, onward, own, hmemory⟩
  rename_i chosen
  split at h
  · cases h
    exact ⟨.refused (.refl s), rfl⟩
  rename_i absent
  split at h
  · cases h
    exact ⟨.refused (.refl s), rfl⟩
  rename_i unused
  obtain ⟨ids, hids, h⟩ := bind_eq_ok h
  obtain ⟨upward, passed, own⟩ := IdSource.passed_reserve hn.upward hids
  refine takeUp_created (fun memory hmemory => ?_) ⟨fun _ => upward, passed⟩ h
  exact ⟨by simpa [Table.contains] using absent,
    fun retired => absurd (List.contains_iff_mem.2 retired) unused, fun _ => rfl,
    fun null => absurd null chosen, writers, hcontent, ⟨fun _ => upward, passed⟩, own, hmemory⟩

/-- No datum is made under the null id. -/
theorem Making.ne_null {ids : IdSource} {memory : MemoryBudget}
    (h : Making s spec id content ids memory) (hn : s.Numbered) : id ≠ nullId := by
  by_cases null : spec.id = nullId
  · rintro rfl
    have next := hn.upward.next
    rw [← (h.next null).2] at next
    exact absurd next (by decide)
  · rw [h.chosen null]
    exact null

end Creation

/-! ## Containers on demand -/

/-- The content of a container that is made on demand. -/
abbrev fresh : Content := .container { subscriptKind := .string }

/-- How an operation on a container, made if need be, can end. -/
inductive Acted {α : Type} (s : Shard) (id : DatumId) (act : Shard → Except Fault (Outcome α))
    (o : Outcome α) : Prop where
  /-- there is a datum already -/
  | there (live : s.data.find? id ≠ none) (acted : act s = .ok o)
  /-- nothing was made, or what was made was taken back, though not for the null id -/
  | refused {e : Error} (absent : s.data.find? id = none) (refused : RefusedAs s o)
    (result : o.result = .error e)
    (unmade : id = nullId → ∃ ready e, s.ensureContainer id = .ok ready ∧ ready.result = .error e)
  /-- a container was made for good -/
  | made {a : α} {j : DatumId} {ids : IdSource} {memory : MemoryBudget}
    (making : Making s (.container id .string) j fresh ids memory)
    (acted : act (s.made (.container id .string) j fresh ids memory) = .ok o)
    (result : o.result = .ok a)
  /-- a container was made under another id, and is left behind -/
  | leaked {e : Error} {j : DatumId} {ids : IdSource} {memory : MemoryBudget} (null : id = nullId)
    (making : Making s (.container id .string) j fresh ids memory)
    (refused : RefusedAs (s.made (.container id .string) j fresh ids memory) o)
    (result : o.result = .error e)

section Demand

variable {s s' : Shard} {id : DatumId} {ids : IdSource} {memory : MemoryBudget}

/-- Taking back a container that was just made leaves nothing of it. No bytes were counted for it,
so that giving them back is not even a change of the budget. -/
theorem discard_made (absent : s.data.find? id = none)
    (granted : s.memory.allocate fresh.size = .ok (memory, .ok ())) (onward : s.ids.Onward ids)
    (noted : Noted (s.made (.container id .string) id fresh ids memory) s') :
    ∃ s'', s'.discard id = .ok s'' ∧ Noted s s'' := by
  obtain ⟨onward', held⟩ := noted
  rename_i ids' memory'
  have found : (s.data.insert id ⟨fresh, 1, 1, false, 0⟩).find? id =
      some ⟨fresh, 1, 1, false, 0⟩ := Table.find?_insert_self _ _ _
  have erased : (s.data.insert id ⟨fresh, 1, 1, false, 0⟩).erase id = s.data := by
    rw [Table.erase_insert, Table.erase_of_find? absent]
  have uncounted : Checked.subSize (s.counts.created + 1) 1 = .ok s.counts.created :=
    if_pos (Nat.le_add_left 1 _)
  have empty : fresh.size = 0 := rfl
  refine ⟨{ s with ids := ids', memory := memory' }, ?_, ?_⟩
  · simp only [discard, made, Spec.container, found, erased, uncounted, empty,
      MemoryBudget.release_zero]
    rfl
  · exact .intro (onward.trans onward') ((MemoryBudget.allocate_zero granted).trans held)

/-- A container is made, or there is no need, or it is refused. -/
theorem ensureContainer_created {o : Outcome Bool} (hn : s.Numbered)
    (h : s.ensureContainer id = .ok o) :
    (s.data.find? id ≠ none ∧ o.shard = s ∧ o.result = .ok false) ∨
    s.data.find? id = none ∧ ∃ r, Created s (.container id .string) o.shard r ∧
      o.result = r.map fun _ => true := by
  unfold ensureContainer at h
  split at h
  · rename_i there
    cases h
    exact .inl ⟨Option.isSome_iff_ne_none.1 there, rfl, rfl⟩
  rename_i absent
  refine .inr ⟨by simpa [Table.contains] using absent, ?_⟩
  split at h
  · cases h
    exact ⟨.error (.closed id), .refused (.refl s), rfl⟩
  · obtain ⟨made, hmade, h⟩ := bind_eq_ok h
    cases h
    exact ⟨made.result, (create_created hn hmade).1, rfl⟩

/-- **An operation on a container** that is made if need be, if a refused operation leaves notes
only. A datum that was made under a fresh id is not the one that is taken back. -/
theorem onContainer_acted {α : Type} {act : Shard → Except Fault (Outcome α)} {o : Outcome α}
    (hn : s.Numbered)
    (hrefused : ∀ s o e, act s = .ok o → o.result = .error e → RefusedAs s o)
    (h : s.onContainer id act = .ok o) : Acted s id act o := by
  obtain ⟨ready, hready, h⟩ := bind_eq_ok h
  rcases ensureContainer_created hn hready with ⟨live, same, hresult⟩ | ⟨absent, r, hr, hresult⟩
  · rw [hresult, same] at h
    obtain ⟨o₁, ho₁, h⟩ := bind_eq_ok h
    have : o = o₁ := by
      split at h
      · cases h; rfl
      · cases h; rfl
    exact .there live (this ▸ ho₁)
  rcases ready with ⟨shard, result, effects⟩
  cases hr with
  | refused noted =>
    cases hresult
    cases h
    exact .refused absent ⟨noted, rfl⟩ rfl fun _ => ⟨_, _, hready, rfl⟩
  | made making =>
    rename_i j content ids memory
    obtain rfl : fresh = content := Except.ok.inj making.ofSpec
    cases hresult
    obtain ⟨o₁, ho₁, h⟩ := bind_eq_ok h
    cases hresult₁ : o₁.result with
    | ok a =>
      rw [hresult₁] at h
      cases h
      exact .made making ho₁ hresult₁
    | error e =>
      rw [hresult₁] at h
      obtain ⟨shard, hdiscard, h⟩ := bind_eq_ok h
      cases h
      have refused := hrefused _ _ e ho₁ hresult₁
      by_cases null : id = nullId
      · have other : id ≠ j := fun e => making.ne_null hn (e ▸ null)
        have kept : o₁.shard.discard id = .ok o₁.shard := by
          have noted := refused.noted
          generalize o₁.shard = left at noted
          cases noted
          have none_there : (s.data.insert j ⟨fresh, 1, 1, false, fresh.size⟩).find? id = none :=
            (Table.find?_insert_ne _ other _).trans absent
          simp only [discard, Spec.container, none_there]
          rfl
        cases kept.symm.trans hdiscard
        exact .leaked null making ⟨refused.noted, refused.effects⟩ rfl
      · cases making.chosen null
        obtain ⟨left, hleft, noted⟩ := discard_made absent making.granted making.onward
          refused.noted
        cases hleft.symm.trans hdiscard
        exact .refused absent ⟨noted, refused.effects⟩ rfl fun e => absurd e null

end Demand

end Shard

end WorkPool
