import WorkPool.Proofs.Container
import WorkPool.Proofs.Result
import WorkPool.Shard

/-!
# A write goes through once its bytes are granted

A write checks the datum, asks for the bytes that it takes, and only then looks the datum up again
to change it. By that time the bytes are counted, so that a failure would leave them counted for
nothing; and there are several steps that could fail: the datum may not be there, its content may
not take the value or be no container, the member may be present, and the datum may not be there
to give up writers of.

None of these steps fails. To ask for bytes changes the budget and nothing else, so each of them
finds what the checks have found. So a write has three outcomes only: a check fails, there is no
room, or all is done (`store_stores`, `insertMember_inserts`, `reserveSubscript_reserves`). And
the only fault that it can have comes from the counting of bytes (`store_eq_error`,
`insertMember_eq_error`, `reserveSubscript_eq_error`).
-/

namespace WorkPool

/-- The scalar content that holds a value. -/
def Content.ofValue? : Value → Option Content
  | .integer n => some (.integer (some n))
  | .float x => some (.float (some x))
  | .string s => some (.string (some s))
  | .blob b => some (.blob (some b))
  | .file s => some (.file (some s))
  | .container _ => none

/-- A scalar takes every value of its kind. -/
theorem Content.set_eq_ok {content : Content} {value : Value}
    (scalar : content.kind ≠ .container) (kind : value.kind = content.kind) :
    ∃ content', content.set value = .ok content' ∧ ofValue? value = some content' := by
  cases content with
  | container c => exact absurd rfl scalar
  | _ =>
    cases value <;> cases kind
    exact ⟨_, rfl, rfl⟩

namespace Shard

variable {s : Shard} {id : DatumId} {d : Datum} {f : Fault}

/-! ## Passed checks -/

section Checks

theorem find?_of_live (h : s.live id = .ok d) : s.data.find? id = some d := by
  unfold live at h
  split at h
  · cases h
    assumption
  · cases h

theorem find?_of_changeable (h : s.changeable id = .ok d) : s.data.find? id = some d :=
  find?_of_live (unless_eq_ok h).2

theorem open_of_checkWritable {drops : UInt32} {u : Unit} (h : d.checkWritable id drops = .ok u) :
    d.closed = false := by
  simpa using (unless_eq_ok h).1

theorem drops_of_checkWritable {drops : UInt32} {u : Unit}
    (h : d.checkWritable id drops = .ok u) : drops ≤ d.writers := by
  have h := (unless_eq_ok h).2
  exact UInt32.not_lt.1 (unless_eq_ok h).1

theorem content_of_container {name : String} {c : Container} (h : d.container id name = .ok c) :
    d.content = .container c := by
  unfold Datum.container Content.container? at h
  cases hc : d.content with
  | container c' => rw [hc] at h; cases h; rfl
  | _ => rw [hc] at h; cases h

theorem changeable_insert (unretired : s.retired.contains id = false) :
    { s with data := s.data.insert id d }.changeable id = .ok d := by
  simp only [changeable, live, unretired, Table.find?_insert_self]
  rfl

end Checks

/-! ## Asking for bytes -/

section Charges

variable {α : Type} {old new : Nat} {act act' : Shard → Except Fault (Outcome α)}

theorem charge_congr (same : ∀ memory, act { s with memory } = act' { s with memory }) :
    s.charge old new act = s.charge old new act' := by
  unfold charge
  refine congrArg (s.memory.resize old new >>= ·) (funext fun charged => ?_)
  obtain ⟨memory, granted⟩ := charged
  cases granted with
  | error e => rfl
  | ok => exact same memory

/-- Bytes are refused, or what they were asked for is done. -/
theorem charge_eq_ok {o : Outcome α} (h : s.charge old new act = .ok o) :
    (∃ memory e, s.memory.resize old new = .ok (memory, .error e) ∧
      o = { s with memory }.refuse e) ∨
    ∃ memory, s.memory.resize old new = .ok (memory, .ok ()) ∧ act { s with memory } = .ok o := by
  obtain ⟨⟨memory, granted⟩, resized, h⟩ := bind_eq_ok h
  cases granted with
  | error e => exact .inl ⟨memory, e, resized, (Except.ok.inj h).symm⟩
  | ok => exact .inr ⟨memory, resized, h⟩

theorem charge_eq_error (h : s.charge old new act = .error f) :
    s.memory.resize old new = .error f ∨
    ∃ memory, s.memory.resize old new = .ok (memory, .ok ()) ∧ act { s with memory } = .error f := by
  rcases bind_eq_error h with h | ⟨⟨memory, granted⟩, resized, h⟩
  · exact .inl h
  cases granted with
  | error e => cases h
  | ok => exact .inr ⟨memory, resized, h⟩

end Charges

/-! ## Giving up writers -/

/-- Put a datum back with fewer writers; it closes when the last one leaves. -/
def settle (s : Shard) (id : DatumId) (d : Datum) (drops : UInt32) :
    Except Fault (Shard × List (Rank × Notice)) :=
  if drops = 0 then return ({ s with data := s.data.insert id d }, [])
  else do
    let writers ← Checked.subCount d.writers drops
    let d := { d with writers }
    if writers = 0 then return s.closeDatum id d
    else return ({ s with data := s.data.insert id d }, [])

/-- The outcome of giving up writers of a datum. -/
def settledOutcome (settled : Shard × List (Rank × Notice)) : Outcome Unit :=
  ⟨settled.1, .ok (), { notices := settled.2 }⟩

theorem closeDatum_insert (s : Shard) (id : DatumId) (d d' : Datum) :
    { s with data := s.data.insert id d }.closeDatum id d' = s.closeDatum id d' := by
  simp only [closeDatum, Table.insert_insert]

/-- **Writers of a datum that was put back** are given up without an error: the datum is found, and
it closes as if it had not been put back before. -/
theorem giveUp_insert (unretired : s.retired.contains id = false) (drops : UInt32) :
    { s with data := s.data.insert id d }.giveUp id drops =
      (s.settle id d drops).map settledOutcome := by
  unfold giveUp settle
  by_cases none_leaves : drops = 0
  · rw [if_pos none_leaves, if_pos none_leaves]
    rfl
  rw [if_neg none_leaves, if_neg none_leaves, changeable_insert unretired]
  simp only [closeDatum_insert, Table.insert_insert]
  cases Checked.subCount d.writers drops with
  | error f => rfl
  | ok writers =>
    simp only [bind, Except.bind]
    split <;> rfl

/-- No more writers leave than there are. -/
theorem settle_ne_error (s : Shard) (id : DatumId) {d : Datum} {drops : UInt32}
    (enough : drops ≤ d.writers) : s.settle id d drops ≠ .error f := by
  unfold settle
  split
  · exact pure_ne_error _ _
  · rw [Checked.subCount, if_pos enough]
    simp only [bind, Except.bind]
    split <;> exact pure_ne_error _ _

/-- What an attempt to give up writers comes to. -/
inductive GivesUp (s : Shard) (id : DatumId) (count : UInt32) : Outcome Unit → Prop where
  /-- a check fails -/
  | refused {e : Error} (failed : (do (← s.changeable id).checkWritable id count) = .error e) :
    GivesUp s id count (s.refuse e)
  /-- they are given up -/
  | done {d : Datum} {s' : Shard} {notices : List (Rank × Notice)}
    (live : s.data.find? id = some d) (opened : d.closed = false) (enough : count ≤ d.writers)
    (settled : s.settle id d count = .ok (s', notices)) :
    GivesUp s id count ⟨s', .ok (), { notices }⟩

theorem dropWriters_eq {count : UInt32} (changeable : s.changeable id = .ok d)
    (writable : d.checkWritable id count = .ok ()) :
    s.dropWriters id count = (s.settle id d count).map settledOutcome := by
  have same : { s with data := s.data.insert id d } = s := by
    rw [Table.insert_of_find? (find?_of_changeable changeable)]
  have unretired : s.retired.contains id = false := Bool.eq_false_iff.2 (unless_eq_ok changeable).1
  rw [← giveUp_insert unretired, same, dropWriters, changeable]
  simp only [bind, Except.bind, writable]

theorem dropWriters_givesUp {count : UInt32} {o : Outcome Unit}
    (h : s.dropWriters id count = .ok o) : GivesUp s id count o := by
  cases checked : (do (← s.changeable id).checkWritable id count) with
  | error e =>
    rw [dropWriters, checked] at h
    cases h
    exact .refused checked
  | ok =>
    obtain ⟨d, changeable, writable⟩ := bind_eq_ok checked
    rw [dropWriters_eq changeable writable] at h
    obtain ⟨⟨s', notices⟩, settled, rfl⟩ := map_eq_ok h
    exact .done (find?_of_changeable changeable) (open_of_checkWritable writable)
      (drops_of_checkWritable writable) settled

/-- Writers that are checked for are given up without a fault. -/
theorem dropWriters_ne_error (s : Shard) (id : DatumId) (count : UInt32) :
    s.dropWriters id count ≠ .error f := by
  cases checked : (do (← s.changeable id).checkWritable id count) with
  | error e =>
    rw [dropWriters, checked]
    exact pure_ne_error _ _
  | ok =>
    obtain ⟨d, changeable, writable⟩ := bind_eq_ok checked
    rw [dropWriters_eq changeable writable]
    cases settled : s.settle id d count with
    | error f' => exact absurd settled (settle_ne_error s id (drops_of_checkWritable writable))
    | ok settled => exact pure_ne_error _ _

/-! ## Scalars -/

section Scalars

variable {value : Value} {drops : UInt32}

/-- A value may be stored into a datum, and gives it some content. -/
structure Storable (s : Shard) (id : DatumId) (value : Value) (drops : UInt32) (d : Datum)
    (content : Content) : Prop where
  live : s.data.find? id = some d
  opened : d.closed = false
  enough : drops ≤ d.writers
  scalar : d.content.kind ≠ .container
  kind : value.kind = d.content.kind
  holds : Content.ofValue? value = some content

/-- What an attempt to store a value comes to. -/
inductive Stores (s : Shard) (id : DatumId) (value : Value) (drops : UInt32) :
    Outcome Unit → Prop where
  /-- a check fails -/
  | refused {e : Error} (failed : s.checkStore id value drops = .error e) :
    Stores s id value drops (s.refuse e)
  /-- there is no room -/
  | full {d : Datum} {memory : MemoryBudget} {e : Error}
    (resized : s.memory.resize d.footprint value.size = .ok (memory, .error e)) :
    Stores s id value drops ({ s with memory }.refuse e)
  /-- the value is stored -/
  | done {d : Datum} {content : Content} {memory : MemoryBudget} {s' : Shard}
    {notices : List (Rank × Notice)} (storable : s.Storable id value drops d content)
    (granted : s.memory.resize d.footprint value.size = .ok (memory, .ok ()))
    (settled : { s with memory }.settle id { d with content, footprint := value.size } drops =
      .ok (s', notices)) :
    Stores s id value drops ⟨s', .ok (), { notices }⟩

theorem checkStore_eq_ok (h : s.checkStore id value drops = .ok d) :
    s.changeable id = .ok d ∧ ∃ content, d.content.set value = .ok content ∧
      s.Storable id value drops d content := by
  obtain ⟨d₁, changeable, h⟩ := bind_eq_ok h
  obtain ⟨_, writable, h⟩ := bind_eq_ok h
  simp only at h
  split at h
  · cases h
  rename_i scalar
  split at h
  · cases h
  rename_i kind
  cases h
  have kind := Decidable.not_not.1 kind
  obtain ⟨content, set, holds⟩ := Content.set_eq_ok scalar kind
  exact ⟨changeable, content, set, find?_of_changeable changeable, open_of_checkWritable writable,
    drops_of_checkWritable writable, scalar, kind, holds⟩

/-- **A store that passes its checks** goes through if its bytes are granted. -/
theorem store_eq (checked : s.checkStore id value drops = .ok d) :
    ∃ content, s.Storable id value drops d content ∧
      s.store id value drops = s.charge d.footprint value.size fun s =>
        (s.settle id { d with content, footprint := value.size } drops).map settledOutcome := by
  obtain ⟨changeable, content, set, storable⟩ := checkStore_eq_ok checked
  have unretired : s.retired.contains id = false := Bool.eq_false_iff.2 (unless_eq_ok changeable).1
  refine ⟨content, storable, ?_⟩
  rw [store, checked]
  refine charge_congr fun memory => ?_
  have again : { s with memory }.changeable id = .ok d := changeable
  simp only [bind, Except.bind, again, set, pure, Except.pure]
  exact giveUp_insert (s := { s with memory }) unretired drops

/-- A store is refused by a check or for want of room, or it is done. -/
theorem store_stores {o : Outcome Unit} (h : s.store id value drops = .ok o) :
    Stores s id value drops o := by
  cases checked : s.checkStore id value drops with
  | error e =>
    rw [store, checked] at h
    cases h
    exact .refused checked
  | ok d =>
    obtain ⟨content, storable, straight⟩ := store_eq checked
    rw [straight] at h
    rcases charge_eq_ok h with ⟨memory, e, resized, rfl⟩ | ⟨memory, granted, h⟩
    · exact .full resized
    · obtain ⟨⟨s', notices⟩, settled, rfl⟩ := map_eq_ok h
      exact .done storable granted settled

/-- A store faults in counting bytes, if at all. -/
theorem store_eq_error (h : s.store id value drops = .error f) :
    ∃ d, s.data.find? id = some d ∧ s.memory.resize d.footprint value.size = .error f := by
  cases checked : s.checkStore id value drops with
  | error e =>
    rw [store, checked] at h
    cases h
  | ok d =>
    obtain ⟨content, storable, straight⟩ := store_eq checked
    rw [straight] at h
    rcases charge_eq_error h with h | ⟨memory, -, h⟩
    · exact ⟨d, storable.live, h⟩
    · exact absurd (map_eq_error h) (settle_ne_error _ id storable.enough)

end Scalars

/-! ## Members -/

section Members

variable {subscript : String} {member : Bytes} {drops : UInt32} {c : Container}

/-- The waits that a write ends, and those that it leaves. -/
def endedBy (s : Shard) (id : DatumId) (subscript : String) (old : Option Bytes) :
    List Subscription × Subscriptions :=
  if old.isSome then ([], s.subscriptions)
  else s.subscriptions.take (Subscriptions.onSubscript id subscript)

/-- A member may be written to a container. -/
structure Insertable (s : Shard) (id : DatumId) (subscript : String) (drops : UInt32) (d : Datum)
    (c : Container) : Prop where
  live : s.data.find? id = some d
  opened : d.closed = false
  enough : drops ≤ d.writers
  container : d.content = .container c
  spelled : c.checkSubscript subscript = .ok ()
  allowed : s.allowOverwrite = true ∨ c.lookup subscript = none

/-- The outcome of a write that ends some waits, when writers were given up after it. -/
def insertedOutcome (ended : List Subscription) (member : Bytes)
    (settled : Shard × List (Rank × Notice)) : Outcome Unit :=
  ⟨settled.1, .ok (), {
    notices := ended.map (·.notice (.inserted member)) ++ settled.2
    references := ended.filterMap fun e => e.reference.map fun target => (target, member) }⟩

/-- What an attempt to write a member comes to. -/
inductive Inserts (s : Shard) (id : DatumId) (subscript : String) (member : Bytes)
    (drops : UInt32) : Outcome Unit → Prop where
  /-- a check fails -/
  | refused {e : Error} (failed : s.checkInsert id subscript drops = .error e) :
    Inserts s id subscript member drops (s.refuse e)
  /-- there is no room -/
  | full {old new : Nat} {memory : MemoryBudget} {e : Error}
    (resized : s.memory.resize old new = .ok (memory, .error e)) :
    Inserts s id subscript member drops ({ s with memory }.refuse e)
  /-- the member is written -/
  | done {d : Datum} {c : Container} {others : Nat} {memory : MemoryBudget} {s' : Shard}
    {notices : List (Rank × Notice)} (insertable : s.Insertable id subscript drops d c)
    (rest : others + c.memberBytes subscript = d.footprint)
    (granted : s.memory.resize d.footprint (others +
      ((if c.contains subscript then 0 else subscript.utf8ByteSize) + member.length)) =
        .ok (memory, .ok ()))
    (settled : { s with
      memory, subscriptions := (s.endedBy id subscript (c.lookup subscript)).2 }.settle id { d with
        content := .container (c.write subscript member)
        footprint := others +
          ((if c.contains subscript then 0 else subscript.utf8ByteSize) + member.length) } drops =
      .ok (s', notices)) :
    Inserts s id subscript member drops
      (insertedOutcome (s.endedBy id subscript (c.lookup subscript)).1 member (s', notices))

theorem checkInsert_eq_ok (h : s.checkInsert id subscript drops = .ok (d, c)) :
    s.changeable id = .ok d ∧ s.Insertable id subscript drops d c := by
  obtain ⟨d₁, changeable, h⟩ := bind_eq_ok h
  obtain ⟨_, writable, h⟩ := bind_eq_ok h
  obtain ⟨c₁, container, h⟩ := bind_eq_ok h
  obtain ⟨_, spelled, h⟩ := bind_eq_ok h
  split at h
  · cases h
  rename_i free
  cases h
  refine ⟨changeable, find?_of_changeable changeable, open_of_checkWritable writable,
    drops_of_checkWritable writable, content_of_container container, spelled, ?_⟩
  by_cases allowed : s.allowOverwrite = true
  · exact .inl allowed
  · refine .inr (Option.not_isSome_iff_eq_none.1 fun there => free ⟨?_, there⟩)
    simpa using allowed

/-- The member that the checks have allowed is written. -/
theorem putMember_eq_ok (member : Bytes) (changeable : s.changeable id = .ok d)
    (insertable : s.Insertable id subscript drops d c) :
    ∃ how, s.putMember id subscript member = .ok (d, how, c.write subscript member) ∧
      (how = .replaced ↔ (c.lookup subscript).isSome = true) := by
  obtain ⟨how, inserted, replaced⟩ := c.insert_eq_ok (m := member) insertable.allowed
  refine ⟨how, ?_, replaced⟩
  simp only [putMember, changeable, bind, Except.bind, insertable.container, inserted]
  rfl

/-- **An insertion that passes its checks** goes through if its bytes are granted. -/
theorem insertMember_eq (checked : s.checkInsert id subscript drops = .ok (d, c)) :
    s.insertMember id subscript member drops =
      Checked.subSize d.footprint (c.memberBytes subscript) >>= fun others =>
        let footprint := others +
          ((if c.contains subscript then 0 else subscript.utf8ByteSize) + member.length)
        let ended := s.endedBy id subscript (c.lookup subscript)
        s.charge d.footprint footprint fun s =>
          ({ s with subscriptions := ended.2 }.settle id
            { d with content := .container (c.write subscript member), footprint } drops).map
              (insertedOutcome ended.1 member) := by
  obtain ⟨changeable, insertable⟩ := checkInsert_eq_ok checked
  have unretired : s.retired.contains id = false := Bool.eq_false_iff.2 (unless_eq_ok changeable).1
  rw [insertMember, checked]
  refine congrArg (Checked.subSize d.footprint (c.memberBytes subscript) >>= ·)
    (funext fun others => charge_congr fun memory => ?_)
  obtain ⟨how, put, replaced⟩ := putMember_eq_ok (s := { s with memory }) member
    changeable ⟨insertable.live, insertable.opened, insertable.enough, insertable.container,
      insertable.spelled, insertable.allowed⟩
  have ended : (if how = .replaced then ([], s.subscriptions)
      else s.subscriptions.take (Subscriptions.onSubscript id subscript)) =
        s.endedBy id subscript (c.lookup subscript) := by
    rw [endedBy]
    simp only [replaced]
  have settled := giveUp_insert (s := { s with
      memory, subscriptions := (s.endedBy id subscript (c.lookup subscript)).2 })
    (d := { d with
      content := .container (c.write subscript member)
      footprint := others +
        ((if c.contains subscript then 0 else subscript.utf8ByteSize) + member.length) })
    unretired drops
  simp only [put, ended, settled]
  cases ({ s with memory, subscriptions := (s.endedBy id subscript (c.lookup subscript)).2 } :
    Shard).settle id _ drops <;> rfl

/-- An insertion is refused by a check or for want of room, or it is done. -/
theorem insertMember_inserts {o : Outcome Unit}
    (h : s.insertMember id subscript member drops = .ok o) :
    Inserts s id subscript member drops o := by
  cases checked : s.checkInsert id subscript drops with
  | error e =>
    rw [insertMember, checked] at h
    cases h
    exact .refused checked
  | ok found =>
    obtain ⟨d, c⟩ := found
    rw [insertMember_eq checked] at h
    obtain ⟨others, rest, h⟩ := bind_eq_ok h
    rcases charge_eq_ok h with ⟨memory, e, resized, rfl⟩ | ⟨memory, granted, h⟩
    · exact .full resized
    · obtain ⟨⟨s', notices⟩, settled, rfl⟩ := map_eq_ok h
      exact .done (checkInsert_eq_ok checked).2 (Checked.subSize_eq_ok rest) granted settled

/-- An insertion faults in counting bytes, if at all. -/
theorem insertMember_eq_error (h : s.insertMember id subscript member drops = .error f) :
    ∃ d c, s.data.find? id = some d ∧ d.content = .container c ∧
      (Checked.subSize d.footprint (c.memberBytes subscript) = .error f ∨
        ∃ others, others + c.memberBytes subscript = d.footprint ∧
          s.memory.resize d.footprint (others +
            ((if c.contains subscript then 0 else subscript.utf8ByteSize) + member.length)) =
              .error f) := by
  cases checked : s.checkInsert id subscript drops with
  | error e =>
    rw [insertMember, checked] at h
    cases h
  | ok found =>
    obtain ⟨d, c⟩ := found
    have insertable := (checkInsert_eq_ok checked).2
    rw [insertMember_eq checked] at h
    refine ⟨d, c, insertable.live, insertable.container, ?_⟩
    rcases bind_eq_error h with h | ⟨others, rest, h⟩
    · exact .inl h
    rcases charge_eq_error h with h | ⟨memory, -, h⟩
    · exact .inr ⟨others, Checked.subSize_eq_ok rest, h⟩
    · exact absurd (map_eq_error h) (settle_ne_error _ id insertable.enough)

/-- A subscript may be reserved in a container. -/
structure Reservable (s : Shard) (id : DatumId) (subscript : String) (d : Datum) (c : Container) :
    Prop where
  unretired : id ∉ s.retired
  live : s.data.find? id = some d
  opened : d.closed = false
  container : d.content = .container c
  spelled : c.checkSubscript subscript = .ok ()

/-- What an attempt to reserve a subscript comes to. -/
inductive Reserves (s : Shard) (id : DatumId) (subscript : String) : Outcome Bool → Prop where
  /-- a check fails -/
  | refused {e : Error} (failed : s.checkReserve id subscript = .error e) :
    Reserves s id subscript (s.refuse e)
  /-- the subscript is there already -/
  | taken {d : Datum} {c : Container} (reservable : s.Reservable id subscript d c)
    (there : c.contains subscript = true) : Reserves s id subscript (s.answer false)
  /-- there is no room -/
  | full {old new : Nat} {memory : MemoryBudget} {e : Error}
    (resized : s.memory.resize old new = .ok (memory, .error e)) :
    Reserves s id subscript ({ s with memory }.refuse e)
  /-- the subscript is reserved -/
  | done {d : Datum} {c : Container} {memory : MemoryBudget}
    (reservable : s.Reservable id subscript d c) (free : c.contains subscript = false)
    (granted : s.memory.resize d.footprint (d.footprint + subscript.utf8ByteSize) =
      .ok (memory, .ok ())) :
    Reserves s id subscript ({ s with
      memory
      data := s.data.insert id { d with
        content := .container (c.hold subscript)
        footprint := d.footprint + subscript.utf8ByteSize } }.answer true)

theorem checkReserve_eq_ok (h : s.checkReserve id subscript = .ok (d, c)) :
    s.changeable id = .ok d ∧ s.Reservable id subscript d c := by
  obtain ⟨d₁, changeable, h⟩ := bind_eq_ok h
  obtain ⟨_, writable, h⟩ := bind_eq_ok h
  obtain ⟨c₁, container, h⟩ := bind_eq_ok h
  obtain ⟨_, spelled, h⟩ := bind_eq_ok h
  cases h
  have unretired : id ∉ s.retired := by simpa using (unless_eq_ok changeable).1
  exact ⟨changeable, unretired, find?_of_changeable changeable, open_of_checkWritable writable,
    content_of_container container, spelled⟩

/-- **A reservation that passes its checks** goes through if its bytes are granted. -/
theorem reserveSubscript_eq (checked : s.checkReserve id subscript = .ok (d, c))
    (free : c.contains subscript = false) :
    s.reserveSubscript id subscript =
      s.charge d.footprint (d.footprint + subscript.utf8ByteSize) fun s =>
        .ok ({ s with data := s.data.insert id { d with
          content := .container (c.hold subscript)
          footprint := d.footprint + subscript.utf8ByteSize } }.answer true) := by
  obtain ⟨changeable, reservable⟩ := checkReserve_eq_ok checked
  rw [reserveSubscript, checked]
  simp only [free, Bool.false_eq_true, if_false]
  refine charge_congr fun memory => ?_
  have again : { s with memory }.changeable id = .ok d := changeable
  simp only [again, reservable.container]
  rfl

/-- A reservation is refused by a check or for want of room, or it is done, unless the subscript is
there. -/
theorem reserveSubscript_reserves {o : Outcome Bool}
    (h : s.reserveSubscript id subscript = .ok o) : Reserves s id subscript o := by
  cases checked : s.checkReserve id subscript with
  | error e =>
    rw [reserveSubscript, checked] at h
    cases h
    exact .refused checked
  | ok found =>
    obtain ⟨d, c⟩ := found
    have reservable := (checkReserve_eq_ok checked).2
    cases free : c.contains subscript with
    | true =>
      rw [reserveSubscript, checked] at h
      simp only [free, if_true] at h
      cases h
      exact .taken reservable free
    | false =>
      rw [reserveSubscript_eq checked free] at h
      rcases charge_eq_ok h with ⟨memory, e, resized, rfl⟩ | ⟨memory, granted, h⟩
      · exact .full resized
      · cases h
        exact .done reservable free granted

/-- A reservation faults in counting bytes, if at all. -/
theorem reserveSubscript_eq_error (h : s.reserveSubscript id subscript = .error f) :
    ∃ d, s.data.find? id = some d ∧
      s.memory.resize d.footprint (d.footprint + subscript.utf8ByteSize) = .error f := by
  cases checked : s.checkReserve id subscript with
  | error e =>
    rw [reserveSubscript, checked] at h
    cases h
  | ok found =>
    obtain ⟨d, c⟩ := found
    cases free : c.contains subscript with
    | true =>
      rw [reserveSubscript, checked] at h
      simp only [free, if_true] at h
      cases h
    | false =>
      rw [reserveSubscript_eq checked free] at h
      rcases charge_eq_error h with h | ⟨memory, -, h⟩
      · exact ⟨d, (checkReserve_eq_ok checked).2.live, h⟩
      · cases h

end Members

end Shard

end WorkPool
