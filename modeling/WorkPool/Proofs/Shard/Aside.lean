import WorkPool.Proofs.Shard.Contents

/-!
# Operations that have nothing to do with ids

Whether no id is left is read off the answers of a shard, so that of an operation that neither
draws an id nor passes over one two things have to be shown: it leaves the source of ids alone, and
no refusal of it says that there are none left. Both are `Aside`, with one lemma for each operation;
the checks that come first are taken one by one in `saysSpent_live` and its like.
-/

namespace WorkPool

/-- Whether an error says that no id is left. -/
def Error.isSpent : Error → Bool
  | .resource name _ _ => name == "datum_ids"
  | _ => false

/-- Whether an answer says that no id is left. -/
def saysSpent {α : Type} : Except Error α → Bool
  | .error e => e.isSpent
  | .ok _ => false

section SaysSpent

variable {α β : Type}

theorem saysSpent_map (f : α → β) (x : Except Error α) : saysSpent (x.map f) = saysSpent x := by
  cases x with
  | error e => rfl
  | ok a => rfl

/-- Two checks do not say that ids are spent, if neither does. -/
theorem saysSpent_bind {x : Except Error α} {f : α → Except Error β} (hx : saysSpent x = false)
    (hf : ∀ a, saysSpent (f a) = false) : saysSpent (x >>= f) = false := by
  cases x with
  | error e => exact hx
  | ok a => exact hf a

/-- A check that is made before anything else. -/
theorem saysSpent_unless {c : Prop} [Decidable c] {e : Error} {x : Except Error α}
    (he : e.isSpent = false) (hx : saysSpent x = false) :
    saysSpent (if c then .error e else x) = false := by
  split
  · exact he
  · exact hx

end SaysSpent

/-- What a refused use of bytes says. -/
theorem MemoryBudget.isSpent_of_allocate {b b' : MemoryBudget} {n : Nat} {e : Error}
    (h : b.allocate n = .ok (b', .error e)) : e.isSpent = false := by
  obtain ⟨total, -, h⟩ := bind_eq_ok h
  split at h
  · cases h
    rfl
  · cases h

/-- To lack room is not to lack ids. -/
theorem MemoryBudget.isSpent_of_resize {b b' : MemoryBudget} {old new : Nat} {e : Error}
    (h : b.resize old new = .ok (b', .error e)) : e.isSpent = false := by
  rw [MemoryBudget.resize] at h
  split at h
  · exact isSpent_of_allocate h
  · cases h

namespace Shard

variable {s s' : Shard} {id : DatumId} {d : Datum}

/-! ## What no check says -/

section Checks

/-- A datum that is not there is not found; that has nothing to do with ids. -/
theorem saysSpent_live (s : Shard) (id : DatumId) : saysSpent (s.live id) = false := by
  rw [live]
  split
  · rfl
  · rfl

theorem saysSpent_changeable (s : Shard) (id : DatumId) : saysSpent (s.changeable id) = false :=
  saysSpent_unless rfl (saysSpent_live s id)

theorem saysSpent_checkWritable (d : Datum) (id : DatumId) (drops : UInt32) :
    saysSpent (d.checkWritable id drops) = false :=
  saysSpent_unless rfl (saysSpent_unless rfl rfl)

theorem saysSpent_container (d : Datum) (id : DatumId) (name : String) :
    saysSpent (d.container id name) = false := by
  rw [Datum.container]
  split
  · rfl
  · rfl

theorem saysSpent_checkSubscript (c : Container) (subscript : String) :
    saysSpent (c.checkSubscript subscript) = false :=
  saysSpent_unless rfl rfl

theorem saysSpent_containerAt (s : Shard) (id : DatumId) (name : String) :
    saysSpent (s.containerAt id name) = false := by
  apply saysSpent_bind (saysSpent_live s id)
  intro d
  exact saysSpent_container d id name

/-- Bytes that do not spell a value are refused as such. -/
theorem saysSpent_ofBytes (kind : Kind) (bytes : Bytes) :
    saysSpent (Value.ofBytes kind bytes) = false := by
  have number {α : Type} [Wire α] :
      saysSpent (Value.number kind bytes : Except Error α) = false := by
    rw [Value.number]
    split
    · split
      · rfl
      · rfl
    · rfl
  have text : saysSpent (Value.text kind bytes) = false := by
    rw [Value.text]
    split
    · rfl
    · rfl
  cases kind with
  | integer => exact (saysSpent_map _ _).trans number
  | float => exact (saysSpent_map _ _).trans number
  | string => exact (saysSpent_map _ _).trans text
  | file => exact (saysSpent_map _ _).trans text
  | blob => rfl
  | container =>
    rw [Value.ofBytes]
    split
    · rfl
    · rfl

/-- A description of a datum that makes no sense is refused as such. -/
theorem saysSpent_ofSpec (spec : Spec) : saysSpent (Content.ofSpec spec) = false := by
  rw [Content.ofSpec]
  split
  all_goals try rfl
  simp only
  split
  · rfl
  · rfl

/-- No check of a value that is stored says that ids are spent. -/
theorem saysSpent_checkStore (s : Shard) (id : DatumId) (value : Value) (drops : UInt32) :
    saysSpent (s.checkStore id value drops) = false := by
  apply saysSpent_bind (saysSpent_changeable s id)
  intro d
  apply saysSpent_bind (saysSpent_checkWritable d id drops)
  intro _
  simp only
  split
  · rfl
  split
  · rfl
  · rfl

theorem saysSpent_checkBytes (s : Shard) (id : DatumId) (bytes : Bytes) :
    saysSpent (s.checkBytes id bytes) = false := by
  apply saysSpent_bind (saysSpent_live s id)
  intro d
  simp only
  split
  · rfl
  · exact saysSpent_ofBytes _ _

/-- No check of a member that is written says that ids are spent. -/
theorem saysSpent_checkInsert (s : Shard) (id : DatumId) (subscript : String) (drops : UInt32) :
    saysSpent (s.checkInsert id subscript drops) = false := by
  apply saysSpent_bind (saysSpent_changeable s id)
  intro d
  apply saysSpent_bind (saysSpent_checkWritable d id drops)
  intro _
  apply saysSpent_bind (saysSpent_container d id _)
  intro c
  apply saysSpent_bind (saysSpent_checkSubscript c subscript)
  intro _
  split
  · rfl
  · rfl

/-- No check of a subscript that is reserved says that ids are spent. -/
theorem saysSpent_checkReserve (s : Shard) (id : DatumId) (subscript : String) :
    saysSpent (s.checkReserve id subscript) = false := by
  apply saysSpent_bind (saysSpent_changeable s id)
  intro d
  apply saysSpent_bind (saysSpent_checkWritable d id 0)
  intro _
  apply saysSpent_bind (saysSpent_container d id _)
  intro c
  apply saysSpent_bind (saysSpent_checkSubscript c subscript)
  intro _
  rfl

theorem saysSpent_has (s : Shard) (id : DatumId) (key : Option String) :
    saysSpent (s.has id key) = false := by
  rw [has]
  split
  · rfl
  split
  · rfl
  · exact saysSpent_bind (saysSpent_container _ id _) fun _ => rfl

/-- Reading a whole datum does not say that ids are spent. -/
theorem saysSpent_retrieve (s : Shard) (id : DatumId) (acceptOpen : Bool) :
    saysSpent (s.retrieve id acceptOpen) = false := by
  apply saysSpent_bind (saysSpent_live s id)
  intro d
  simp only
  split
  · split
    · rfl
    split
    · rfl
    · rfl
  · split
    · rfl
    · rfl

end Checks

/-! ## Operations that have nothing to do with ids -/

/-- The ids that are left stay, and no refusal says that there are none. -/
structure Aside {α : Type} (s : Shard) (o : Outcome α) : Prop where
  ids : o.shard.ids = s.ids
  unsaid : saysSpent o.result = false

section Aside

variable {α β : Type} {subscript : String} {rank : Rank} {token : UInt64}

/-- What the answer is made into does not matter. -/
theorem Aside.map {o : Outcome α} (h : Aside s o) (f : α → β) : Aside s (o.map f) :=
  ⟨h.ids, (saysSpent_map f _).trans h.unsaid⟩

/-- Who only looks takes no id. -/
theorem aside_inspect {r : Except Error α} (h : saysSpent r = false) : Aside s (s.inspect r) :=
  ⟨rfl, h⟩

/-- A check was not passed. -/
theorem aside_refuse {x : Except Error β} {e : Error} (h : saysSpent x = false)
    (failed : x = .error e) : Aside s (s.refuse e : Outcome α) := by
  rw [failed] at h
  exact ⟨rfl, h⟩

/-- There was no room. -/
theorem aside_memory {memory : MemoryBudget} {old new : Nat} {e : Error}
    (h : s.memory.resize old new = .ok (memory, .error e)) :
    Aside s (({ s with memory } : Shard).refuse e : Outcome α) :=
  ⟨rfl, MemoryBudget.isSpent_of_resize h⟩

theorem ids_closeDatum (s : Shard) (id : DatumId) (d : Datum) :
    (s.closeDatum id d).1.ids = s.ids := ids_collect _ _

/-- Putting a datum back with fewer writers takes no id. -/
theorem ids_settle {drops : UInt32} {notices : List (Rank × Notice)}
    (h : s.settle id d drops = .ok (s', notices)) : s'.ids = s.ids := by
  rw [settle] at h
  split at h
  · cases h
    rfl
  obtain ⟨writers, -, h⟩ := bind_eq_ok h
  simp only at h
  split at h
  · cases h
    exact ids_closeDatum s id _
  · cases h
    rfl

/-- Taking a datum back gives no id back. -/
theorem ids_discard (h : s.discard id = .ok s') : s'.ids = s.ids := by
  rw [discard] at h
  split at h
  · obtain ⟨created, -, h⟩ := bind_eq_ok h
    cases h
    rfl
  · cases h
    rfl

/-- Setting a scalar takes no id. -/
theorem store_aside {value : Value} {drops : UInt32} {o : Outcome Unit}
    (h : s.store id value drops = .ok o) : Aside s o := by
  cases store_stores h with
  | refused failed => exact aside_refuse (saysSpent_checkStore s id value drops) failed
  | full resized => exact aside_memory resized
  | done _ _ settled =>
    have kept := ids_settle settled
    exact ⟨kept, rfl⟩

/-- Setting a scalar from raw bytes takes no id. -/
theorem storeBytes_aside {bytes : Bytes} {drops : UInt32} {o : Outcome Unit}
    (h : s.storeBytes id bytes drops = .ok o) : Aside s o := by
  rw [storeBytes] at h
  split at h
  · rename_i failed
    cases h
    exact aside_refuse (saysSpent_checkBytes s id bytes) failed
  · exact store_aside h

/-- Adding writers takes no id. -/
theorem addWriters_aside {count : UInt32} {o : Outcome Unit}
    (h : s.addWriters id count = .ok o) : Aside s o := by
  rw [addWriters] at h
  split at h
  · rename_i failed
    cases h
    exact aside_refuse (saysSpent_changeable s id) failed
  split at h
  · cases h
    exact ⟨rfl, rfl⟩
  obtain ⟨writers, -, h⟩ := bind_eq_ok h
  cases h
  exact ⟨rfl, rfl⟩

/-- Giving up writers takes no id. -/
theorem dropWriters_aside {count : UInt32} {o : Outcome Unit}
    (h : s.dropWriters id count = .ok o) : Aside s o := by
  cases dropWriters_givesUp h with
  | refused failed =>
    refine aside_refuse (saysSpent_bind (saysSpent_changeable s id) ?_) failed
    intro d
    exact saysSpent_checkWritable d id count
  | done _ _ _ settled => exact ⟨ids_settle settled, rfl⟩

theorem addReaders_aside {count : UInt32} {o : Outcome Unit}
    (h : s.addReaders id count = .ok o) : Aside s o := by
  rw [addReaders] at h
  split at h
  · rename_i failed
    cases h
    exact aside_refuse (saysSpent_changeable s id) failed
  obtain ⟨readers, -, h⟩ := bind_eq_ok h
  cases h
  exact ⟨rfl, rfl⟩

/-- Giving up readers takes no id, even if the datum is collected. -/
theorem dropReaders_aside (s : Shard) (id : DatumId) (count : UInt32) :
    Aside s (s.dropReaders id count) := by
  rw [dropReaders]
  split
  · rename_i failed
    exact aside_refuse (saysSpent_changeable s id) failed
  split
  · exact ⟨rfl, rfl⟩
  · exact ⟨ids_collect _ _, rfl⟩

/-- Closing a datum takes no id. -/
theorem close_aside (s : Shard) (id : DatumId) : Aside s (s.close id) := by
  rw [close]
  split
  · rename_i failed
    exact aside_refuse (saysSpent_changeable s id) failed
  split
  · exact ⟨rfl, rfl⟩
  · exact ⟨ids_closeDatum s id _, rfl⟩

theorem lock_aside (s : Shard) (id : DatumId) (rank : Rank) : Aside s (s.lock id rank) := by
  rw [lock]
  split
  · rename_i failed
    exact aside_refuse (saysSpent_live s id) failed
  split
  · exact ⟨rfl, rfl⟩
  · exact ⟨rfl, rfl⟩

theorem unlock_aside (s : Shard) (id : DatumId) (rank : Rank) : Aside s (s.unlock id rank) := by
  rw [unlock]
  split
  · rename_i failed
    exact aside_refuse (saysSpent_live s id) failed
  split
  · split
    · exact ⟨rfl, rfl⟩
    · exact ⟨rfl, rfl⟩
  · exact ⟨rfl, rfl⟩

/-- Waiting for a subscript takes no id. -/
theorem awaitSubscript_aside (s : Shard) (sub : Subscription) (subscript name : String) :
    Aside s (s.awaitSubscript sub subscript name) := by
  rw [awaitSubscript]
  split
  · rename_i failed
    refine aside_refuse (saysSpent_bind (saysSpent_live s sub.id) ?_) failed
    intro d
    apply saysSpent_bind (saysSpent_container d sub.id name)
    intro c
    exact saysSpent_bind (saysSpent_checkSubscript c subscript) fun _ => rfl
  split
  · exact ⟨rfl, rfl⟩
  split
  · exact ⟨rfl, rfl⟩
  · exact ⟨rfl, rfl⟩

/-- Waiting for a datum takes no id. -/
theorem subscribe_aside (s : Shard) (id : DatumId) (key : Option String) (rank : Rank)
    (token : UInt64) : Aside s (s.subscribe id key rank token) := by
  cases key with
  | some subscript => exact awaitSubscript_aside s _ subscript _
  | none =>
    simp only [subscribe]
    split
    · rename_i failed
      exact aside_refuse (saysSpent_live s id) failed
    split
    · exact ⟨rfl, rfl⟩
    · exact ⟨rfl, rfl⟩

theorem refer_aside (s : Shard) (id : DatumId) (subscript : String) (reference : Option DatumId)
    (rank : Rank) (token : UInt64) : Aside s (s.refer id subscript reference rank token) := by
  have waited := awaitSubscript_aside s ⟨id, some subscript, rank, token, reference⟩ subscript
    "container_reference"
  simp only [refer]
  split
  · exact ⟨waited.ids, waited.unsaid⟩
  · exact waited

/-- Writing a member into a container that is there takes no id. -/
theorem insertMember_aside {member : Bytes} {drops : UInt32} {o : Outcome Unit}
    (h : s.insertMember id subscript member drops = .ok o) : Aside s o := by
  cases insertMember_inserts h with
  | refused failed => exact aside_refuse (saysSpent_checkInsert s id subscript drops) failed
  | full resized => exact aside_memory resized
  | done _ _ _ settled =>
    have kept := ids_settle settled
    exact ⟨kept, rfl⟩

/-- Reserving a subscript of a container that is there takes no id. -/
theorem reserveSubscript_aside {o : Outcome Bool} (h : s.reserveSubscript id subscript = .ok o) :
    Aside s o := by
  cases reserveSubscript_reserves h with
  | refused failed => exact aside_refuse (saysSpent_checkReserve s id subscript) failed
  | full resized => exact aside_memory resized
  | taken | done => exact ⟨rfl, rfl⟩

end Aside

end Shard

end WorkPool
