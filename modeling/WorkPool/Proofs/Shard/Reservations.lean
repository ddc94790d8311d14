import WorkPool.Proofs.Shard.Contents
import WorkPool.Proofs.Shard.Sealed

/-!
# A reservation elects one winner

Of all who reserve a subscript at most one is told that it was free, and whoever is told so comes
before everybody who writes a member there. Main statement: a subscript is **taken**, in the
record of a run, exactly as long as a live container has an entry for it or the container was
collected, and a reservation is granted exactly if the subscript was never taken before.

`Elected` is the invariant. That an entry was entered by somebody is read off the answers
(`Becomes.entry`), and that it is never taken away holds of every kind of step (`HoldsAt.change`).
-/

namespace WorkPool

/-- The subscript that an operation enters into a container. -/
def Operation.entry? : Operation → Option (DatumId × String)
  | .insert id subscript _ _ => some (id, subscript)
  | .reserve id subscript => some (id, subscript)
  | _ => none

/-- Whether an operation looks at data in a way that does not show reservations. -/
def Operation.looks : Operation → Bool
  | .has .. | .enumerate .. | .lookup .. | .kindOf _ | .subscriptKindOf _ | .sizeOf _ => true
  | _ => false

namespace Answered

/-- Whether an operation has taken a subscript, by a write or by a reservation. -/
def takes (a : Answered) (id : DatumId) (subscript : String) : Bool :=
  match a.op, a.answer with
  | .insert j k _ _, .ok _ => j == id && k == subscript
  | .reserve j k, .ok (.flag true) => j == id && k == subscript
  | _, _ => false

/-- Whether an operation has won a subscript: it was reserved, and was told to be free. -/
def wins (a : Answered) (id : DatumId) (subscript : String) : Bool :=
  match a.op, a.answer with
  | .reserve j k, .ok (.flag true) => j == id && k == subscript
  | _, _ => false

variable {a : Answered} {id : DatumId} {subscript : String}

/-- Who has taken a subscript has entered it. -/
theorem entry_of_takes (h : a.takes id subscript = true) :
    a.op.entry? = some (id, subscript) ∧ ∃ reply, a.answer = .ok reply := by
  unfold takes at h
  split at h
  · rename_i op answer
    simp only [Bool.and_eq_true, beq_iff_eq] at h
    rw [op, h.1, h.2]
    exact ⟨rfl, _, answer⟩
  · rename_i op answer
    simp only [Bool.and_eq_true, beq_iff_eq] at h
    rw [op, h.1, h.2]
    exact ⟨rfl, _, answer⟩
  · cases h

/-- Who has won a subscript has reserved it, and it was granted. -/
theorem reserve_of_wins (h : a.wins id subscript = true) :
    a.op = .reserve id subscript ∧ a.answer = .ok (.flag true) := by
  unfold wins at h
  split at h
  · rename_i op answer
    simp only [Bool.and_eq_true, beq_iff_eq] at h
    rw [op, h.1, h.2]
    exact ⟨rfl, answer⟩
  · cases h

/-- Who has won a subscript has taken it. -/
theorem takes_of_wins (h : a.wins id subscript = true) : a.takes id subscript = true := by
  unfold wins at h
  split at h
  · rename_i op answer
    rw [takes, op, answer]
    exact h
  · cases h

end Answered

/-! ## Entries and contents -/

/-- A container that something is entered into has the entries of the one that was there. -/
theorem Content.contains_entered {before : Option Content} {subscript : String} :
    (entered before).contains subscript = true ↔
      ∃ c, before = some (.container c) ∧ c.contains subscript = true := by
  constructor
  · intro there
    cases before with
    | none => cases there
    | some content =>
      cases content with
      | container c => exact ⟨c, rfl, there⟩
      | _ => cases there
  · rintro ⟨c, rfl, there⟩
    exact there

theorem Content.ofValue?_ne_container {value : Value} {c : Container} :
    Content.ofValue? value ≠ some (.container c) := by
  cases value <;> exact nofun

/-- Two containers have the same members, in the same order. -/
structure Container.Alike (c c' : Container) : Prop where
  subscriptKind : c'.subscriptKind = c.subscriptKind
  size : c'.size = c.size
  present : c'.present = c.present
  lookup : ∀ subscript, c'.lookup subscript = c.lookup subscript

/-- **A reservation is not seen**: it gives nothing a member. -/
theorem Container.alike_hold (c : Container) (subscript : String) :
    c.Alike (c.hold subscript) where
  subscriptKind := c.subscriptKind_hold subscript
  size := c.size_hold subscript
  present := c.present_hold subscript
  lookup := c.lookup_hold subscript

namespace Operation

variable {op : Operation} {id : DatumId} {subscript : String}

/-- Where a container comes from that an answer tells of: it was there before, or it is new and
empty, or something was entered into it. -/
theorem container_of_after {answer : Except Error Reply} {before : Option Content} {c : Container}
    (h : op.after answer id before = some (.container c)) :
    before = some (.container c) ∨ (∃ kind, c = { subscriptKind := kind }) ∨
      (∃ k m drops reply, op = .insert id k m drops ∧ answer = .ok reply ∧
        c = (Content.entered before).write k m) ∨
      ∃ k reply, op = .reserve id k ∧ answer = .ok reply ∧
        c = (Content.entered before).hold k := by
  unfold after at h
  split at h
  · split at h
    · exact .inr (.inl (Content.eq_of_ofSpec (eq_ok_of_toOption h)))
    · exact .inl h
  · split at h
    · exact absurd h Content.ofValue?_ne_container
    · exact .inl h
  · split at h
    · obtain ⟨content, -, h⟩ := Option.bind_eq_some_iff.1 h
      obtain ⟨value, -, h⟩ := Option.bind_eq_some_iff.1 h
      exact absurd h Content.ofValue?_ne_container
    · exact .inl h
  · split at h
    · rename_i same
      cases h
      exact .inr (.inr (.inl ⟨_, _, _, _, by rw [same], rfl, rfl⟩))
    · exact .inl h
  · split at h
    · rename_i same
      cases h
      exact .inr (.inr (.inr ⟨_, _, by rw [same], rfl, rfl⟩))
    · exact .inl h
  · exact .inl h

/-- An entry that an answer tells of was there before, or the operation has entered it. -/
theorem entry_of_after {answer : Except Error Reply} {before : Option Content}
    (h : ∃ c, op.after answer id before = some (.container c) ∧ c.contains subscript = true) :
    (∃ c, before = some (.container c) ∧ c.contains subscript = true) ∨
      op.entry? = some (id, subscript) ∧ ∃ reply, answer = .ok reply := by
  obtain ⟨c, holds, there⟩ := h
  rcases container_of_after holds with same | ⟨kind, rfl⟩ | ⟨k, m, drops, reply, rfl, rfl, rfl⟩ |
    ⟨k, reply, rfl, rfl, rfl⟩
  · exact .inl ⟨c, same, there⟩
  · cases there
  · rcases (Container.contains_write _ _ _ _).1 there with entry | rfl
    · exact .inl (Content.contains_entered.1 entry)
    · exact .inr ⟨rfl, reply, rfl⟩
  · rcases (Container.contains_hold _ _ _).1 there with entry | rfl
    · exact .inl (Content.contains_entered.1 entry)
    · exact .inr ⟨rfl, reply, rfl⟩

/-- What an operation enters, its answer tells of. -/
theorem after_entry (entry : op.entry? = some (id, subscript)) (reply : Reply)
    (before : Option Content) :
    ∃ c, op.after (.ok reply) id before = some (.container c) ∧ c.contains subscript = true := by
  cases op with
  | insert j k member drops =>
    cases entry
    exact ⟨_, if_pos rfl, (Container.contains_write _ _ _ _).2 (.inr rfl)⟩
  | reserve j k =>
    cases entry
    exact ⟨_, if_pos rfl, (Container.contains_hold _ _ _).2 (.inr rfl)⟩
  | _ => cases entry

end Operation

/-- What is written to a container leaves what a write and a reservation leave. A value is no
content of a container. -/
theorem Datum.Written.keeps {P : Container → Prop} {d : Datum} {content : Content}
    {footprint : Nat} {c : Container} (write : ∀ c k m, P c → P (c.write k m))
    (reserve : ∀ c k, P c → P (c.hold k)) (h : d.Written content footprint)
    (container : d.content = .container c) (holds : P c) :
    ∃ c', content = .container c' ∧ P c' := by
  cases h with
  | none => exact ⟨c, container, holds⟩
  | @scalar value content kind holds =>
    rw [container] at kind
    cases value with
    | container => cases holds
    | _ => cases kind
  | @member c' others k member container' rest =>
    cases container.symm.trans container'
    exact ⟨_, rfl, write c k member holds⟩
  | @reserved c' k container' free =>
    cases container.symm.trans container'
    exact ⟨_, rfl, reserve c k holds⟩

namespace Shard

variable {s s' : Shard} {id : DatumId} {subscript : String} {op : Operation} {rank : Rank}
  {o : Outcome Reply}

/-- A live container has an entry for a subscript, with a member or without. -/
def HasEntry (s : Shard) (id : DatumId) (subscript : String) : Prop :=
  ∃ c, s.contentAt id = some (.container c) ∧ c.contains subscript = true

/-! ## Entries stay -/

/-- There is a live container with a property. -/
def HoldsAt (s : Shard) (id : DatumId) (P : Container → Prop) : Prop :=
  ∃ c, s.contentAt id = some (.container c) ∧ P c

/-- Containers are read from the data alone. -/
theorem HoldsAt.congr {P : Container → Prop} (h : s.HoldsAt id P)
    (same : s'.data.find? id = s.data.find? id) : s'.HoldsAt id P := by
  obtain ⟨c, holds, property⟩ := h
  exact ⟨c, (contentAt_congr same).trans holds, property⟩

/-- **Every kind of step** leaves what a write and a reservation leave, or collects the
container. -/
theorem HoldsAt.change {P : Container → Prop} (write : ∀ c k m, P c → P (c.write k m))
    (reserve : ∀ c k, P c → P (c.hold k)) (change : Change s s')
    (h : s.HoldsAt id P ∨ id ∈ s.retired) : s'.HoldsAt id P ∨ id ∈ s'.retired := by
  refine h.elim (fun there => ?_) fun retired => .inr (change.retired retired)
  have there' := there
  obtain ⟨c, holds, property⟩ := there'
  obtain ⟨d, live, container⟩ := Option.map_eq_some_iff.1 holds
  cases change with
  | note noted => exact .inl (there.congr (by rw [noted.data]))
  | await | lock | unlock => exact .inl there
  | make making =>
    have other := Table.ne_of_find? making.absent live
    exact .inl (there.congr (Table.find?_insert_ne _ other.symm _))
  | @turn j d₁ d' memory closed turning read =>
    by_cases turned : id = j
    · subst turned
      cases live.symm.trans turning.live
      obtain ⟨c', container', property'⟩ :=
        turning.turns.written.keeps write reserve container property
      refine .inl ⟨c', ?_, property'⟩
      rw [contentAt_of_find? (Table.find?_insert_self _ _ _), container']
    · exact .inl (there.congr (Table.find?_insert_ne _ turned _))
  | @retire j d₁ d' memory closed turning ended unread =>
    by_cases collected : id = j
    · exact .inr (collected ▸ List.mem_cons_self)
    · exact .inl (there.congr (Table.find?_erase_ne _ collected))

/-- **Any number of steps** leave what a write and a reservation leave, or collect the container. -/
theorem HoldsAt.changes {P : Container → Prop} (write : ∀ c k m, P c → P (c.write k m))
    (reserve : ∀ c k, P c → P (c.hold k)) (changes : Changes s s')
    (h : s.HoldsAt id P ∨ id ∈ s.retired) : s'.HoldsAt id P ∨ id ∈ s'.retired :=
  changes.keep (P := fun s => s.HoldsAt id P ∨ id ∈ s.retired)
    (fun _ _ h change => HoldsAt.change write reserve change h) h

/-- An entry stays, or its container is collected. -/
theorem HasEntry.changes (changes : Changes s s')
    (h : s.HasEntry id subscript ∨ id ∈ s.retired) :
    s'.HasEntry id subscript ∨ id ∈ s'.retired :=
  HoldsAt.changes (P := fun c => c.contains subscript = true)
    (fun c k m there => (c.contains_write k subscript m).2 (.inl there))
    (fun c k there => (c.contains_hold k subscript).2 (.inl there)) changes h

/-- An entry stays with every operation, or its container is collected. -/
theorem Reached.entry (h : Reached s) (ho : s.perform rank op = .ok o)
    (there : s.HasEntry id subscript ∨ id ∈ s.retired) :
    o.shard.HasEntry id subscript ∨ id ∈ o.shard.retired :=
  HasEntry.changes (perform_changes h.waits h.lives.numbered ho) there

/-! ## Reservations -/

/-- What a reservation in a container that is there has found. -/
structure Reserved (s : Shard) (id : DatumId) (subscript : String) (free : Bool)
    (o : Outcome Bool) (d : Datum) (c : Container) : Prop where
  unretired : id ∉ s.retired
  live : s.data.find? id = some d
  container : d.content = .container c
  /-- the answer says whether the subscript was free -/
  answer : free = !c.contains subscript
  /-- what was not free is left alone -/
  same : free = false → o = s.answer false
  /-- what was free is reserved -/
  data : free = true → o.shard.data = s.data.insert id { d with
    content := .container (c.hold subscript)
    footprint := d.footprint + subscript.utf8ByteSize }
  effects : o.effects = {}

/-- **A reservation** in a container that is there. -/
theorem reserveSubscript_reserved {o : Outcome Bool} {free : Bool}
    (h : s.reserveSubscript id subscript = .ok o) (result : o.result = .ok free) :
    ∃ d c, Reserved s id subscript free o d c := by
  cases reserveSubscript_reserves h with
  | refused | full => cases result
  | @taken d c reservable there =>
    cases result
    refine ⟨d, c, reservable.unretired, reservable.live, reservable.container, ?_, fun _ => rfl,
      Bool.noConfusion, rfl⟩
    rw [there]
    rfl
  | @done d c memory reservable vacant granted =>
    cases result
    refine ⟨d, c, reservable.unretired, reservable.live, reservable.container, ?_,
      Bool.noConfusion, fun _ => rfl, rfl⟩
    rw [vacant]
    rfl

/-- **What a reservation answers.** It is granted exactly if there is no entry for the subscript, as
in a new container. If it is not, nothing changes; if it is, and the container was there, it is put
back with one subscript more. There is never anything at the null id. -/
theorem reserve_answers {reply : Reply} (h : Reached s)
    (ho : s.perform rank (.reserve id subscript) = .ok o) (result : o.result = .ok reply) :
    ∃ free, reply = .flag free ∧ id ∉ s.retired ∧
      (free = true ↔ ¬ s.HasEntry id subscript) ∧ o.effects = {} ∧
      (free = false → o.shard = s) ∧
      (free = true → s.data.contains id = true → ∃ d c footprint, s.data.find? id = some d ∧
        d.content = .container c ∧ o.shard.data = s.data.insert id { d with
          content := .container (c.hold subscript), footprint }) := by
  obtain ⟨o₁, hreserve, ho⟩ := bind_eq_ok ho
  cases ho
  obtain ⟨free, answered, rfl⟩ := map_eq_ok result
  refine ⟨free, rfl, ?_⟩
  cases onContainer_acted h.lives.numbered (fun _ _ _ => reserveSubscript_refused) hreserve with
  | there live acted =>
    obtain ⟨d, c, reserved⟩ := reserveSubscript_reserved acted answered
    have holds : s.contentAt id = some (.container c) := by
      rw [contentAt_of_find? reserved.live, reserved.container]
    refine ⟨reserved.unretired, ?_, reserved.effects, fun taken => ?_, fun granted _ => ?_⟩
    · rw [reserved.answer, Bool.not_eq_true', ← Bool.not_eq_true]
      refine not_congr ⟨fun there => ⟨c, holds, there⟩, ?_⟩
      rintro ⟨c', holds', there⟩
      cases holds.symm.trans holds'
      exact there
    · show o₁.shard = s
      rw [reserved.same taken]
      rfl
    · exact ⟨d, c, _, reserved.live, reserved.container, reserved.data granted⟩
  | refused absent refused unanswered unmade =>
    cases answered.symm.trans unanswered
  | @made a j ids memory making acted _ =>
    obtain ⟨d, c, reserved⟩ := reserveSubscript_reserved acted answered
    have live := reserved.live
    by_cases null : id = nullId
    · have other : id ≠ j := fun e => making.ne_null h.lives.numbered (e ▸ null)
      cases ((Table.find?_insert_ne _ other _).trans (null ▸ h.free.absent)).symm.trans live
    obtain rfl : j = id := making.chosen null
    cases (Table.find?_insert_self _ _ _).symm.trans live
    cases reserved.container
    cases reserved.answer
    have vacant : ¬ s.HasEntry j subscript := by
      rintro ⟨c, holds, -⟩
      rw [contentAt_of_none making.absent] at holds
      cases holds
    refine ⟨reserved.unretired, iff_of_true rfl vacant, reserved.effects, nofun, fun _ there => ?_⟩
    rw [Table.contains, making.absent] at there
    cases there
  | leaked null making refused unanswered =>
    cases answered.symm.trans unanswered

/-! ## Who enters an entry -/

/-- An entry comes from before, or was entered by the operation. -/
theorem Becomes.entry (h : Becomes s op o id) (entry : o.shard.HasEntry id subscript) :
    s.HasEntry id subscript ∨
      op.entry? = some (id, subscript) ∧ ∃ reply, o.result = .ok reply := by
  cases h with
  | told same => exact Operation.entry_of_after (by rw [← same]; exact entry)
  | collected gone retired =>
    obtain ⟨c, holds, -⟩ := entry
    rw [gone] at holds
    cases holds
  | leftBehind null refused absent empty =>
    obtain ⟨c, holds, there⟩ := entry
    rw [empty] at holds
    cases holds
    cases there

/-- What was entered is there, unless the container was collected. -/
theorem Becomes.entered {reply : Reply} (h : Becomes s op o id)
    (entry : op.entry? = some (id, subscript)) (result : o.result = .ok reply) :
    o.shard.HasEntry id subscript ∨ id ∈ o.shard.retired := by
  cases h with
  | told same =>
    refine .inl ?_
    rw [HasEntry, same, result]
    exact Operation.after_entry entry reply _
  | collected gone retired => exact .inr retired
  | leftBehind null refused absent empty => cases refused.symm.trans result

/-! ## Every run -/

/-- What is taken is there, and what is there was taken. -/
structure Elected (s : Shard) (past : List Answered) : Prop where
  /-- an entry was taken by somebody -/
  taken : ∀ id subscript, s.HasEntry id subscript → ∃ a ∈ past, a.takes id subscript = true
  /-- what was taken is there, unless the container was collected -/
  kept : ∀ a ∈ past, ∀ id subscript, a.takes id subscript = true →
    s.HasEntry id subscript ∨ id ∈ s.retired
  /-- at most one has won -/
  once : ∀ id subscript, past.countP (fun a => a.wins id subscript) ≤ 1

variable {past : List Answered}

/-- A new shard has no entries. -/
theorem Elected.new (index : UInt64) (settings : Settings) :
    Elected (Shard.new index settings) [] := by
  refine ⟨fun id subscript entry => ?_, (fun _ past => nomatch past), fun _ _ => Nat.zero_le 1⟩
  obtain ⟨c, holds, -⟩ := entry
  rw [contentAt_of_none rfl] at holds
  cases holds

/-- A reservation is granted exactly if nobody has taken the subscript before. -/
theorem Elected.granted_iff (h : Elected s past) {free : Bool} (unretired : id ∉ s.retired)
    (granted : free = true ↔ ¬ s.HasEntry id subscript) :
    free = true ↔ ∀ a ∈ past, a.takes id subscript = false := by
  rw [granted]
  constructor
  · intro vacant a ha
    refine Bool.eq_false_iff.2 fun takes => ?_
    exact (h.kept a ha id subscript takes).elim vacant unretired
  · intro untaken entry
    obtain ⟨a, ha, takes⟩ := h.taken id subscript entry
    rw [untaken a ha] at takes
    cases takes

/-- **One operation** keeps it. Where a reservation is not granted, the entry was there. -/
theorem Elected.perform (h : Elected s past) (reached : Reached s)
    (ho : s.perform rank op = .ok o) : Elected o.shard (past ++ [⟨rank, op, o.result⟩]) where
  taken id subscript entry := by
    have becomes := perform_becomes reached.lives.numbered reached.free ho id
    have before (entry : s.HasEntry id subscript) :
        ∃ a ∈ past ++ [⟨rank, op, o.result⟩], a.takes id subscript = true := by
      obtain ⟨a, ha, takes⟩ := h.taken id subscript entry
      exact ⟨a, List.mem_append_left _ ha, takes⟩
    rcases becomes.entry entry with old | ⟨entered, reply, result⟩
    · exact before old
    by_cases takes : Answered.takes ⟨rank, op, o.result⟩ id subscript = true
    · exact ⟨_, List.mem_append_right _ List.mem_cons_self, takes⟩
    refine before ?_
    cases op with
    | insert j k member drops =>
      cases entered
      simp [Answered.takes, result] at takes
    | reserve j k =>
      cases entered
      obtain ⟨free, rfl, -, granted, -⟩ := reserve_answers reached ho result
      refine Classical.byContradiction fun vacant => takes ?_
      rw [result, granted.2 vacant]
      simp [Answered.takes]
    | _ => cases entered
  kept a ha id subscript takes := by
    rcases List.mem_append.1 ha with old | new
    · exact reached.entry ho (h.kept a old id subscript takes)
    · rw [List.mem_singleton.1 new] at takes
      obtain ⟨entered, reply, result⟩ := Answered.entry_of_takes takes
      exact (perform_becomes reached.lives.numbered reached.free ho id).entered entered result
  once id subscript := by
    rw [List.countP_append, List.countP_singleton]
    split
    · rename_i wins
      obtain ⟨rfl, result⟩ := Answered.reserve_of_wins wins
      obtain ⟨free, e, unretired, granted, -⟩ := reserve_answers reached ho result
      cases e
      have untaken := (h.granted_iff unretired granted).1 rfl
      have none_won : past.countP (fun a => a.wins id subscript) = 0 := by
        refine List.countP_eq_zero.2 fun a ha wins => ?_
        have takes := Answered.takes_of_wins wins
        rw [untaken a ha] at takes
        cases takes
      omega
    · exact h.once id subscript

/-! ## Reservations are not seen -/

/-- Two shards hold the same, but for subscripts that are only reserved. -/
def Alike (s s' : Shard) : Prop :=
  ∀ id, s'.contentAt id = s.contentAt id ∨ ∃ c c', s.contentAt id = some (.container c) ∧
    s'.contentAt id = some (.container c') ∧ c.Alike c'

theorem containerAt_eq (s : Shard) (id : DatumId) (name : String) :
    s.containerAt id name = match s.contentAt id with
      | none => .error (.unknownDatum id)
      | some (.container c) => .ok c
      | some content =>
        .error (.refused name s!"<{id}> is a {content.kind.name}, not a container") := by
  unfold containerAt live contentAt
  cases s.data.find? id with
  | none => rfl
  | some d =>
    show d.container id name = _
    unfold Datum.container
    cases content : d.content <;> simp [Content.container?, content]

/-- What does not see reservations reads alike containers alike. -/
theorem Alike.containerAt {α : Type} (h : Alike s s') (id : DatumId) (name : String)
    {f : Container → α} (hf : ∀ c c', c.Alike c' → f c' = f c) :
    (s'.containerAt id name).map f = (s.containerAt id name).map f := by
  rw [containerAt_eq, containerAt_eq]
  rcases h id with same | ⟨c, c', holds, holds', alike⟩
  · rw [same]
  · rw [holds, holds']
    exact congrArg Except.ok (hf c c' alike)

theorem has_eq (s : Shard) (id : DatumId) (key : Option String) :
    s.has id key = match s.contentAt id, key with
      | none, _ => .ok false
      | some _, none => .ok true
      | some _, some subscript =>
        (s.containerAt id "exists").map fun c => (c.lookup subscript).isSome := by
  unfold has containerAt live contentAt
  cases s.data.find? id with
  | none => rfl
  | some d =>
    cases key with
    | none => rfl
    | some subscript =>
      show (d.container id "exists" >>= _) = (d.container id "exists").map _
      cases d.container id "exists" <;> rfl

/-- Whether something is there is answered alike. -/
theorem Alike.has (h : Alike s s') (id : DatumId) (key : Option String) :
    s'.has id key = s.has id key := by
  have lookup (subscript : String) :
      ((s'.containerAt id "exists").map fun c => (c.lookup subscript).isSome) =
        (s.containerAt id "exists").map fun c => (c.lookup subscript).isSome :=
    h.containerAt id _ fun c c' alike => by rw [alike.lookup]
  simp only [has_eq, lookup]
  rcases h id with same | ⟨c, c', holds, holds', -⟩
  · rw [same]
  · rw [holds, holds']
    cases key <;> rfl

theorem kind_eq (s : Shard) (id : DatumId) :
    ((s.live id).map fun d => Reply.kind d.content.kind) = match s.contentAt id with
      | none => .error (.unknownDatum id)
      | some content => .ok (.kind content.kind) := by
  unfold live contentAt
  cases s.data.find? id with
  | none => rfl
  | some d => rfl

/-- What kind a datum is of is answered alike. -/
theorem Alike.kind (h : Alike s s') (id : DatumId) :
    ((s'.live id).map fun d => Reply.kind d.content.kind) =
      (s.live id).map fun d => Reply.kind d.content.kind := by
  rw [kind_eq, kind_eq]
  rcases h id with same | ⟨c, c', holds, holds', -⟩
  · rw [same]
  · rw [holds, holds']
    rfl

/-- **Whoever does not look at reservations** sees the same in both. -/
theorem Alike.inspects (h : Alike s s') (looks : op.looks = true) (rank : Rank) :
    ∃ r, s.perform rank op = .ok (s.inspect r) ∧ s'.perform rank op = .ok (s'.inspect r) := by
  have told {r r' : Except Error Reply} (same : r' = r) :
      (.ok (s'.inspect r') : Except Fault (Outcome Reply)) = .ok (s'.inspect r) := by rw [same]
  cases op with
  | has id key => exact ⟨_, rfl, told (congrArg (Except.map Reply.flag) (h.has id key))⟩
  | enumerate id offset count =>
    refine ⟨_, rfl, told (h.containerAt id _ ?_)⟩
    intro c c' alike
    simp only [Container.page, alike.present]
  | lookup id subscript =>
    refine ⟨_, rfl, told (h.containerAt id _ ?_)⟩
    intro c c' alike
    rw [alike.lookup]
  | subscriptKindOf id =>
    refine ⟨_, rfl, told (h.containerAt id _ ?_)⟩
    intro c c' alike
    rw [alike.subscriptKind]
  | sizeOf id =>
    refine ⟨_, rfl, told (h.containerAt id _ ?_)⟩
    intro c c' alike
    rw [alike.size]
  | kindOf id => exact ⟨_, rfl, told (h.kind id)⟩
  | _ => cases looks

/-- A container that is put back with one more reservation. -/
theorem alike_of_reserve {d : Datum} {c : Container} {footprint : Nat}
    (live : s.data.find? id = some d) (container : d.content = .container c)
    (h : s'.data = s.data.insert id { d with
      content := .container (c.hold subscript), footprint }) : Alike s s' := by
  have put := puts_of_data h
  intro j
  by_cases same : j = id
  · subst same
    refine .inr ⟨c, c.hold subscript, ?_, ?_, c.alike_hold subscript⟩
    · rw [contentAt_of_find? live, container]
    · rw [contentAt, h, Table.find?_insert_self]
      rfl
  · exact .inl (contentAt_congr (put.others j same))

/-- **A reservation elects one winner.** In every run of a new shard, for every subscript of every
id,

* at most one reservation is told that it was free;
* a reservation that is not refused is told so exactly if, before it, no write to the subscript was
  carried out and no reservation of it was told so;
* one that is not told so changes nothing, and whoever looks into a container, or counts or pages
  through it, finds the same before and after one that is told so, if the container was there. -/
theorem reservation_elects_one {s : Shard} {log : WaitLog} (index : UInt64) (settings : Settings)
    (hi : index < settings.servers) (hn : (settings.servers.toNat : Int) ≤ topId)
    (calls : List ShardCall) (hrun : (Shard.new index settings).run {} calls = .ok (s, log))
    (id : DatumId) (subscript : String) :
    ((Shard.new index settings).record calls).countP (fun a => a.wins id subscript) ≤ 1 ∧
    ∀ rank o reply, s.perform rank (.reserve id subscript) = .ok o → o.result = .ok reply →
      ∃ free, reply = .flag free ∧
        (free = true ↔
          ∀ a ∈ (Shard.new index settings).record calls, a.takes id subscript = false) ∧
        (free = false → o.shard = s ∧ o.effects = {}) ∧
        (free = true → s.data.contains id = true → o.effects = {} ∧
          ∀ rank op, op.looks = true → ∃ r,
            s.perform rank op = .ok (s.inspect r) ∧
            o.shard.perform rank op = .ok (o.shard.inspect r)) := by
  obtain ⟨reached, elected⟩ := record_induction (P := Elected)
    (fun _ _ _ _ _ reached elected ho => elected.perform reached ho)
    (fun _ _ elected => ⟨elected.taken, elected.kept, elected.once⟩) (Reached.new hi hn)
    (Elected.new index settings) hrun
  rw [List.nil_append] at elected
  refine ⟨elected.once id subscript, fun rank o reply ho result => ?_⟩
  obtain ⟨free, rfl, unretired, granted, effects, same, put⟩ := reserve_answers reached ho result
  refine ⟨free, rfl, elected.granted_iff unretired granted, fun taken => ⟨same taken, effects⟩,
    fun won there => ⟨effects, fun rank op looks => ?_⟩⟩
  obtain ⟨d, c, footprint, live, container, data⟩ := put won there
  exact (alike_of_reserve live container data).inspects looks rank

/-- Two reserve the same subscript, and one reserves a subscript that has a member. -/
def reserveTwice : List ShardCall :=
  [.perform 0 (.reserve 5 "a"), .perform 1 (.reserve 5 "a"), .perform 1 (.insert 5 "b" [1] 0),
    .perform 0 (.reserve 5 "b")]

/-- Two ranks reserve a subscript, and one of them is granted it. -/
theorem reservation_elects_one_twice : ∃ s log,
    (Shard.new 1 { servers := 2 }).run {} reserveTwice = .ok (s, log) ∧
    ((Shard.new 1 { servers := 2 }).record reserveTwice).countP (fun a => a.wins 5 "a") = 1 ∧
    ((Shard.new 1 { servers := 2 }).record reserveTwice).countP (fun a => a.wins 5 "b") = 0 ∧
    (∃ o, s.perform 0 (.reserve 5 "b") = .ok o ∧ o.result = .ok (.flag false) ∧ o.shard = s) ∧
    ∃ o r, s.perform 0 (.reserve 5 "c") = .ok o ∧ o.result = .ok (.flag true) ∧
      s.perform 1 (.enumerate 5 0 none) = .ok (s.inspect r) ∧
      o.shard.perform 1 (.enumerate 5 0 none) = .ok (o.shard.inspect r) := by
  have ran : Except.toOption (do
      let ended ← (Shard.new 1 { servers := 2 }).run {} reserveTwice
      let taken ← ended.1.perform 0 (.reserve 5 "b")
      let won ← ended.1.perform 0 (.reserve 5 "c")
      return (taken.result.toOption, won.result.toOption, ended.1.data.contains 5)) =
      some (some (.flag false), some (.flag true), true) := by decide +kernel
  obtain ⟨⟨s, log⟩, hrun, ran⟩ := bind_eq_ok (eq_ok_of_toOption ran)
  obtain ⟨taken, htaken, ran⟩ := bind_eq_ok ran
  obtain ⟨won, hwon, ran⟩ := bind_eq_ok ran
  obtain ⟨isTaken, facts⟩ := Prod.mk.inj (Except.ok.inj ran)
  obtain ⟨isWon, there⟩ := Prod.mk.inj facts
  have isTaken := eq_ok_of_toOption isTaken
  have isWon := eq_ok_of_toOption isWon
  have elects := reservation_elects_one 1 { servers := 2 } (by decide) (by decide) reserveTwice hrun
  refine ⟨s, log, hrun, by decide +kernel, by decide +kernel, ⟨taken, htaken, isTaken, ?_⟩, ?_⟩
  · obtain ⟨free, e, -, same, -⟩ := (elects 5 "b").2 0 taken _ htaken isTaken
    cases e
    exact (same rfl).1
  · obtain ⟨free, e, -, -, unseen⟩ := (elects 5 "c").2 0 won _ hwon isWon
    cases e
    obtain ⟨r, before, after⟩ := (unseen rfl there).2 1 (.enumerate 5 0 none) rfl
    exact ⟨won, r, hwon, isWon, before, after⟩

end Shard

end WorkPool
