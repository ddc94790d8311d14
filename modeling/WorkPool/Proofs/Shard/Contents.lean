import WorkPool.Proofs.Shard.Refusals

/-!
# What operations make of contents

What the data of a shard hold is told by the answers that it has given. `Operation.after` is what
an operation makes of the content at an id, as its answer says: a creation gives it, a store
replaces it, and a write or a reservation adds an entry, to a new container if there was none.

Main statement: `perform_becomes` — after every operation the content at every id is what the
answer says, unless the datum was collected. There is one thing that no answer tells: a refused
write to the null id may leave an empty container under an id of its own.

`Shard.record` are the operations of a run with their answers, and `record_induction` carries over
to a run what its operations keep; `Shard.history` has the shards as well that they were asked of.
-/

namespace WorkPool

/-- The container that an entry is written to; a new one is keyed by strings. -/
def Content.entered (before : Option Content) : Container :=
  (before.bind container?).getD { subscriptKind := .string }

namespace Operation

/-- What an operation makes of the content at an id, as its answer says. -/
def after (op : Operation) (answer : Except Error Reply) (id : DatumId) (before : Option Content) :
    Option Content :=
  match op, answer with
  | .create spec, .ok (.id j) => if id = j then (Content.ofSpec spec).toOption else before
  | .store j value _, .ok _ => if id = j then Content.ofValue? value else before
  | .storeBytes j bytes _, .ok _ =>
    if id = j then
      before.bind fun content =>
        (Value.ofBytes content.kind bytes).toOption.bind Content.ofValue?
    else before
  | .insert j subscript member _, .ok _ =>
    if id = j then some (.container ((Content.entered before).write subscript member)) else before
  | .reserve j subscript, .ok _ =>
    if id = j then some (.container ((Content.entered before).hold subscript)) else before
  | _, _ => before

/-- What is refused makes nothing of anything. -/
theorem after_error (op : Operation) (e : Error) (id : DatumId) (before : Option Content) :
    op.after (.error e) id before = before := by
  cases op <;> rfl

end Operation

namespace Shard

/-- What the datum with an id holds. -/
def contentAt (s : Shard) (id : DatumId) : Option Content := (s.data.find? id).map Datum.content

variable {s s' t : Shard} {id : DatumId} {d : Datum} {content : Content} {e : Error}

/-- The content of a live datum. -/
theorem contentAt_of_find? (h : s.data.find? id = some d) : s.contentAt id = some d.content := by
  rw [contentAt, h]
  rfl

/-- Where there is no datum there is no content. -/
theorem contentAt_of_none (h : s.data.find? id = none) : s.contentAt id = none := by
  rw [contentAt, h]
  rfl

/-- Content is read from the data alone. -/
theorem contentAt_congr (h : s'.data.find? id = s.data.find? id) :
    s'.contentAt id = s.contentAt id := by
  rw [contentAt, contentAt, h]

/-! ## Putting a datum back -/

/-- One datum is left with some content, unless it was collected, and the others are untouched. -/
structure Puts (s : Shard) (id : DatumId) (content : Content) (s' : Shard) : Prop where
  self : s'.LeftAs id content
  others : ∀ j, j ≠ id → s'.data.find? j = s.data.find? j

/-- A datum that is put back. -/
theorem puts_of_data (h : s'.data = s.data.insert id d) : Puts s id d.content s' := by
  refine ⟨.inl ⟨d, ?_, rfl⟩, fun j other => ?_⟩
  · rw [h, Table.find?_insert_self]
  · rw [h, Table.find?_insert_ne _ other]

/-- A datum that is put back, and collected if it is due. -/
theorem puts_collect (h : t.data = s.data.insert id d) :
    Puts s id d.content (t.collect id) := by
  have put := puts_of_data h
  refine ⟨?_, fun j other => (find?_collect_ne t id other).trans (put.others j other)⟩
  rcases find?_collect_self t id with stays | gone
  · refine .inl ⟨d, ?_, rfl⟩
    rw [stays, h, Table.find?_insert_self]
  · exact .inr gone

/-- A datum is put back, and once more. -/
theorem Puts.trans {first : Content} (h : Puts s id first t) (h' : Puts t id content s') :
    Puts s id content s' :=
  ⟨h'.self, fun j other => (h'.others j other).trans (h.others j other)⟩

/-- A datum that is there is left as it is. -/
theorem puts_self (live : s.data.find? id = some d) : Puts s id d.content s :=
  ⟨.inl ⟨d, live, rfl⟩, fun _ _ => rfl⟩

/-- A datum that is put back closed. -/
theorem closeDatum_puts (s : Shard) (id : DatumId) (d : Datum) :
    Puts s id d.content (s.closeDatum id d).1 := by
  unfold closeDatum
  exact puts_collect (d := { d with closed := true }) rfl

/-- A datum that is put back with fewer writers. -/
theorem settle_puts {drops : UInt32} {notices : List (Rank × Notice)}
    (h : s.settle id d drops = .ok (s', notices)) : Puts s id d.content s' := by
  unfold settle at h
  split at h
  · cases h
    exact puts_of_data rfl
  obtain ⟨writers, -, h⟩ := bind_eq_ok h
  simp only at h
  split at h
  · cases h
    exact closeDatum_puts s id { d with writers }
  · cases h
    exact puts_of_data (d := { d with writers }) rfl

/-- Who is spared keeps the data. -/
theorem Spared.data {α : Type} {o : Outcome α} (h : Spared s o) : o.shard.data = s.data := by
  obtain ⟨⟨violations, shard⟩, -⟩ := h
  rw [shard]

/-- Notes are no data. -/
theorem Noted.data (h : Noted s s') : s'.data = s.data := by
  obtain ⟨-, -⟩ := h
  rfl

/-! ## Operation by operation -/

/-- An operation is refused and leaves all data alone, or puts one datum back. -/
def Writes {α : Type} (s : Shard) (id : DatumId) (o : Outcome α) (made : α → Content → Prop) :
    Prop :=
  (∃ e, o.result = .error e) ∧ o.shard.data = s.data ∨
    ∃ a content, o.result = .ok a ∧ made a content ∧ Puts s id content o.shard

section Operations

/-- A refusal writes nothing. -/
theorem writes_refuse {α : Type} {made : α → Content → Prop} (s : Shard) (id : DatumId)
    (e : Error) : Writes s id (s.refuse e : Outcome α) made := .inl ⟨⟨e, rfl⟩, rfl⟩

/-- A refusal for want of room writes nothing. -/
theorem Spared.writes {α : Type} {o : Outcome α} {made : α → Content → Prop} (h : Spared s o)
    (he : o.result = .error e) : Writes s id o made := .inl ⟨⟨e, he⟩, h.data⟩

/-- Setting a scalar writes the value. -/
theorem store_writes {value : Value} {drops : UInt32} {o : Outcome Unit}
    (h : s.store id value drops = .ok o) :
    Writes s id o fun _ content => Content.ofValue? value = some content := by
  cases store_stores h with
  | refused => exact writes_refuse s id _
  | full resized => exact (spared_memory resized).writes rfl
  | done storable granted settled =>
    have put := settle_puts settled
    exact .inr ⟨_, _, rfl, storable.holds, put.self, put.others⟩

/-- Setting a scalar from raw bytes writes what they spell for the kind that is there. -/
theorem storeBytes_writes {bytes : Bytes} {drops : UInt32} {o : Outcome Unit}
    (h : s.storeBytes id bytes drops = .ok o) :
    Writes s id o fun _ content => (s.contentAt id).bind (fun before =>
      (Value.ofBytes before.kind bytes).toOption.bind Content.ofValue?) = some content := by
  unfold storeBytes at h
  split at h
  · cases h
    exact writes_refuse s id _
  rename_i value decoded
  obtain ⟨d, live, decoded⟩ := bind_eq_ok decoded
  split at decoded
  · cases decoded
  rcases store_writes h with refused | ⟨a, content, result, holds, put⟩
  · exact .inl refused
  · change Value.ofBytes d.content.kind bytes = .ok value at decoded
    refine .inr ⟨a, content, result, ?_, put⟩
    rw [contentAt_of_find? (find?_of_live live), Option.bind_some, decoded]
    exact holds

/-- With other counts a datum holds what it held. -/
theorem addWriters_writes {count : UInt32} {o : Outcome Unit} (h : s.addWriters id count = .ok o) :
    Writes s id o fun _ content => s.contentAt id = some content := by
  unfold addWriters at h
  split at h
  · cases h
    exact writes_refuse s id _
  rename_i d hd
  split at h
  · cases h
    exact writes_refuse s id _
  obtain ⟨writers, -, h⟩ := bind_eq_ok h
  cases h
  exact .inr ⟨_, _, rfl, contentAt_of_find? (find?_of_changeable hd),
    puts_of_data (d := { d with writers }) rfl⟩

/-- Giving up writers leaves the content. -/
theorem dropWriters_writes {count : UInt32} {o : Outcome Unit}
    (h : s.dropWriters id count = .ok o) :
    Writes s id o fun _ content => s.contentAt id = some content := by
  cases dropWriters_givesUp h with
  | refused => exact writes_refuse s id _
  | done live _ _ settled =>
    exact .inr ⟨_, _, rfl, contentAt_of_find? live, settle_puts settled⟩

theorem addReaders_writes {count : UInt32} {o : Outcome Unit} (h : s.addReaders id count = .ok o) :
    Writes s id o fun _ content => s.contentAt id = some content := by
  unfold addReaders at h
  split at h
  · cases h
    exact writes_refuse s id _
  rename_i d hd
  obtain ⟨readers, -, h⟩ := bind_eq_ok h
  cases h
  exact .inr ⟨_, _, rfl, contentAt_of_find? (find?_of_changeable hd),
    puts_of_data (d := { d with readers }) rfl⟩

/-- Giving up readers leaves the content, or nothing at all. -/
theorem dropReaders_writes (s : Shard) (id : DatumId) (count : UInt32) :
    Writes s id (s.dropReaders id count) fun _ content => s.contentAt id = some content := by
  unfold dropReaders
  split
  · exact writes_refuse s id _
  rename_i d hd
  split
  · exact writes_refuse s id _
  · exact .inr ⟨_, _, rfl, contentAt_of_find? (find?_of_changeable hd),
      puts_collect (d := { d with readers := d.readers - count }) rfl⟩

/-- Closing leaves the content. -/
theorem close_writes (s : Shard) (id : DatumId) :
    Writes s id (s.close id) fun _ content => s.contentAt id = some content := by
  unfold close
  split
  · exact writes_refuse s id _
  rename_i d hd
  split
  · exact writes_refuse s id _
  · exact .inr ⟨_, _, rfl, contentAt_of_find? (find?_of_changeable hd),
      closeDatum_puts s id { d with writers := 0 }⟩

/-! Entries of containers. -/

variable {subscript : String}

/-- Writing a member writes it into the container that is there. -/
theorem insertMember_writes {member : Bytes} {drops : UInt32} {o : Outcome Unit}
    (h : s.insertMember id subscript member drops = .ok o) :
    Writes s id o fun _ content => ∃ c, s.contentAt id = some (.container c) ∧
      content = .container (c.write subscript member) := by
  cases insertMember_inserts h with
  | refused => exact writes_refuse s id _
  | full resized => exact (spared_memory resized).writes rfl
  | done insertable rest granted settled =>
    have put := settle_puts settled
    refine .inr ⟨_, _, rfl, ⟨_, ?_, rfl⟩, put.self, put.others⟩
    rw [contentAt_of_find? insertable.live, insertable.container]

/-- A subscript that is there is as good as reserved. -/
theorem reserveSubscript_writes {o : Outcome Bool} (h : s.reserveSubscript id subscript = .ok o) :
    Writes s id o fun _ content => ∃ c, s.contentAt id = some (.container c) ∧
      content = .container (c.hold subscript) := by
  have before {d : Datum} {c : Container} (reservable : s.Reservable id subscript d c) :
      s.contentAt id = some (.container c) := by
    rw [contentAt_of_find? reservable.live, reservable.container]
  cases reserveSubscript_reserves h with
  | refused => exact writes_refuse s id _
  | @taken d c reservable there =>
    refine .inr ⟨false, d.content, rfl, ⟨c, before reservable, ?_⟩, puts_self reservable.live⟩
    rw [reservable.container, Container.hold, Container.reserve, if_pos there]
  | full resized => exact (spared_memory resized).writes rfl
  | @done d c memory reservable free granted =>
    exact .inr ⟨true, _, rfl, ⟨c, before reservable, rfl⟩, puts_of_data (d := { d with
      content := .container (c.hold subscript)
      footprint := d.footprint + subscript.utf8ByteSize }) rfl⟩

/-- How an operation that enters something into a container, made if need be, can end. -/
inductive Entered {α : Type} (s : Shard) (id : DatumId) (o : Outcome α)
    (write : Container → Container) : Prop where
  /-- it is refused, or the container is put back -/
  | writes (writes : Writes s id o fun _ content =>
      content = .container (write (Content.entered (s.contentAt id))))
  /-- a container was made under another id, and is left behind -/
  | leaked {e : Error} {j : DatumId} (null : id = nullId) (result : o.result = .error e)
    (absent : s.data.find? j = none) (left : Puts s j fresh o.shard)

/-- What an operation enters goes on from the container that was there, or from a new one. There is
never anything at the null id. -/
theorem onContainer_entered {α : Type} {act : Shard → Except Fault (Outcome α)} {o : Outcome α}
    {write : Container → Container} (hn : s.Numbered) (free : NullFree s)
    (hrefused : ∀ s o e, act s = .ok o → o.result = .error e → RefusedAs s o)
    (hact : ∀ s o, act s = .ok o → Writes s id o fun _ content =>
      ∃ c, s.contentAt id = some (.container c) ∧ content = .container (write c))
    (h : s.onContainer id act = .ok o) : Entered s id o write := by
  cases onContainer_acted hn hrefused h with
  | there live acted =>
    refine .writes ((hact s o acted).imp_right ?_)
    rintro ⟨a, content, result, ⟨c, before, rfl⟩, put⟩
    refine ⟨a, _, result, ?_, put⟩
    rw [before]
    rfl
  | refused absent refused result unmade => exact .writes (.inl ⟨⟨_, result⟩, refused.noted.data⟩)
  | @made a j ids memory making acted result =>
    have new : Puts s j fresh (s.made (.container id .string) j fresh ids memory) :=
      puts_of_data (d := ⟨fresh, 1, 1, false, fresh.size⟩) rfl
    rcases hact _ _ acted with ⟨⟨e, he⟩, -⟩ | ⟨a, content, result, ⟨c, there, rfl⟩, put⟩
    · rw [result] at he
      cases he
    by_cases null : id = nullId
    · have other : id ≠ j := fun e => making.ne_null hn (e ▸ null)
      rw [contentAt_of_none ((new.others id other).trans (null ▸ free.absent))] at there
      cases there
    · obtain rfl : j = id := making.chosen null
      cases (contentAt_of_find? (Table.find?_insert_self _ _ _)).symm.trans there
      refine .writes (.inr ⟨a, _, result, ?_, new.trans put⟩)
      rw [contentAt_of_none making.absent]
      rfl
  | leaked null making refused result =>
    refine .leaked null result making.absent ?_
    have put := puts_of_data (d := ⟨fresh, 1, 1, false, fresh.size⟩) refused.noted.data
    exact put

/-! Waits and locks. -/

/-- Waiting changes no data. -/
theorem data_awaitSubscript (s : Shard) (sub : Subscription) (subscript name : String) :
    (s.awaitSubscript sub subscript name).shard.data = s.data := by
  unfold awaitSubscript
  split
  · rfl
  split
  · rfl
  split
  · rfl
  · rfl

theorem data_subscribe (s : Shard) (id : DatumId) (key : Option String) (rank : Rank)
    (token : UInt64) : (s.subscribe id key rank token).shard.data = s.data := by
  cases key with
  | some subscript => exact data_awaitSubscript s _ subscript _
  | none =>
    unfold subscribe
    simp only
    split
    · rfl
    split
    · rfl
    · rfl

theorem data_refer (s : Shard) (id : DatumId) (subscript : String) (reference : Option DatumId)
    (rank : Rank) (token : UInt64) :
    (s.refer id subscript reference rank token).shard.data = s.data := by
  unfold refer
  simp only
  split
  · exact data_awaitSubscript s _ subscript _
  · exact data_awaitSubscript s _ subscript _

theorem data_lock (s : Shard) (id : DatumId) (rank : Rank) :
    (s.lock id rank).shard.data = s.data := by
  unfold lock
  split
  · rfl
  split
  · rfl
  · rfl

theorem data_unlock (s : Shard) (id : DatumId) (rank : Rank) :
    (s.unlock id rank).shard.data = s.data := by
  unfold unlock
  split
  · rfl
  split
  · split
    · rfl
    · rfl
  · rfl

end Operations

/-! ## All operations -/

/-- What becomes of the content at an id. -/
inductive Becomes (s : Shard) (op : Operation) (o : Outcome Reply) (id : DatumId) : Prop where
  /-- it is what the answer says -/
  | told (same : o.shard.contentAt id = op.after o.result id (s.contentAt id))
  /-- the datum is collected -/
  | collected (gone : o.shard.contentAt id = none) (retired : id ∈ o.shard.retired)
  /-- a container was made for a refused write, and is left behind -/
  | leftBehind {e : Error} (null : op.entered? = some nullId) (refused : o.result = .error e)
    (absent : s.contentAt id = none) (empty : o.shard.contentAt id = some fresh)

section Becomes

variable {op : Operation} {rank : Rank}

/-- An operation that changes no data, and is to change none. -/
theorem becomes_of_data {o : Outcome Reply} (h : o.shard.data = s.data)
    (same : op.after o.result id (s.contentAt id) = s.contentAt id) : Becomes s op o id := by
  refine .told ?_
  rw [same]
  exact contentAt_congr (by rw [h])

/-- An operation that is refused and changes no data. -/
theorem becomes_of_refused {o : Outcome Reply} (he : o.result = .error e)
    (h : o.shard.data = s.data) : Becomes s op o id := by
  refine becomes_of_data h ?_
  rw [he]
  exact op.after_error e id _

/-- An operation that puts one datum back with the content it should have. -/
theorem Puts.becomes {o : Outcome Reply} {j : DatumId} (h : Puts s j content o.shard)
    (self : op.after o.result j (s.contentAt j) = some content)
    (others : id ≠ j → op.after o.result id (s.contentAt id) = s.contentAt id) :
    Becomes s op o id := by
  by_cases same : id = j
  · subst same
    rcases h.self with ⟨d, live, holds⟩ | ⟨gone, retired⟩
    · refine .told ?_
      rw [self, contentAt_of_find? live, holds]
    · exact .collected (contentAt_of_none gone) retired
  · refine .told ?_
    rw [others same]
    exact contentAt_congr (h.others id same)

/-- An operation that puts one datum back. -/
theorem Writes.becomes {α : Type} {o : Outcome α} {j : DatumId} {made : α → Content → Prop}
    (h : Writes s j o made) (f : α → Reply)
    (self : ∀ a content, made a content →
      op.after (.ok (f a)) j (s.contentAt j) = some content)
    (others : ∀ a, id ≠ j → op.after (.ok (f a)) id (s.contentAt id) = s.contentAt id) :
    Becomes s op (o.map f) id := by
  rcases h with ⟨⟨e, he⟩, data⟩ | ⟨a, content, result, holds, put⟩
  · exact becomes_of_refused (Outcome.map_error he) data
  · have answer : (o.map f).result = .ok (f a) := by
      rw [Outcome.map, result]
      rfl
    refine Puts.becomes put ?_ ?_
    · rw [answer]
      exact self a content holds
    · rw [answer]
      exact others a

/-- A container that was made for a refused write is left behind. -/
theorem Puts.leftBehind {o : Outcome Reply} {j : DatumId} (h : Puts s j fresh o.shard)
    (absent : s.data.find? j = none) (null : op.entered? = some nullId)
    (he : o.result = .error e) : Becomes s op o id := by
  by_cases left : id = j
  · subst left
    rcases h.self with ⟨d, live, holds⟩ | ⟨gone, retired⟩
    · refine .leftBehind null he (contentAt_of_none absent) ?_
      rw [contentAt_of_find? live, holds]
    · exact .collected (contentAt_of_none gone) retired
  · refine .told ?_
    rw [he, op.after_error]
    exact contentAt_congr (h.others id left)

/-- A write or a reservation, or any operation that enters something into a container. -/
theorem Entered.becomes {α : Type} {o : Outcome α} {j : DatumId} {write : Container → Container}
    (h : Entered s j o write) (f : α → Reply) (entered : op.entered? = some j)
    (self : ∀ a, op.after (.ok (f a)) j (s.contentAt j) =
      some (.container (write (Content.entered (s.contentAt j)))))
    (others : ∀ a, id ≠ j → op.after (.ok (f a)) id (s.contentAt id) = s.contentAt id) :
    Becomes s op (o.map f) id := by
  cases h with
  | writes writes =>
    refine writes.becomes f ?_ others
    rintro a content rfl
    exact self a
  | @leaked e k null result absent left =>
    exact Puts.leftBehind left absent (null ▸ entered) (Outcome.map_error result)

/-- **Every operation** makes of the contents what its answer says. -/
theorem perform_becomes {o : Outcome Reply} (hn : s.Numbered) (free : NullFree s)
    (h : s.perform rank op = .ok o) (id : DatumId) : Becomes s op o id := by
  cases op with
  | create spec =>
    obtain ⟨o, ho, h⟩ := bind_eq_ok h
    cases h
    obtain ⟨created, -⟩ := create_created hn ho
    obtain ⟨shard, result, effects⟩ := o
    cases created with
    | refused noted => exact becomes_of_refused rfl noted.data
    | @made j content ids memory making =>
      have put : Puts s j content (s.made spec j content ids memory) :=
        puts_of_data (d := ⟨content, spec.writers, spec.readers, false, content.size⟩) rfl
      refine Puts.becomes put ?_ fun other => if_neg other
      show (if j = j then (Content.ofSpec spec).toOption else _) = some content
      rw [if_pos rfl, making.ofSpec]
      rfl
  | store j value drops =>
    obtain ⟨o, ho, h⟩ := bind_eq_ok h
    cases h
    exact (store_writes ho).becomes _ (fun _ _ holds => (if_pos rfl).trans holds)
      fun _ other => if_neg other
  | storeBytes j bytes drops =>
    obtain ⟨o, ho, h⟩ := bind_eq_ok h
    cases h
    exact (storeBytes_writes ho).becomes _ (fun _ _ holds => (if_pos rfl).trans holds)
      fun _ other => if_neg other
  | addWriters j count =>
    obtain ⟨o, ho, h⟩ := bind_eq_ok h
    cases h
    exact (addWriters_writes ho).becomes _ (fun _ _ holds => holds) fun _ _ => rfl
  | dropWriters j count =>
    obtain ⟨o, ho, h⟩ := bind_eq_ok h
    cases h
    exact (dropWriters_writes ho).becomes _ (fun _ _ holds => holds) fun _ _ => rfl
  | addReaders j count =>
    obtain ⟨o, ho, h⟩ := bind_eq_ok h
    cases h
    exact (addReaders_writes ho).becomes _ (fun _ _ holds => holds) fun _ _ => rfl
  | dropReaders j count =>
    cases h
    exact (dropReaders_writes s j count).becomes _ (fun _ _ holds => holds) fun _ _ => rfl
  | close j =>
    cases h
    exact (close_writes s j).becomes _ (fun _ _ holds => holds) fun _ _ => rfl
  | insert j subscript member drops =>
    obtain ⟨o, ho, h⟩ := bind_eq_ok h
    cases h
    have entered := onContainer_entered hn free (fun _ _ _ => insertMember_refused)
      (fun _ _ => insertMember_writes) ho
    exact entered.becomes _ rfl (fun _ => if_pos rfl) fun _ other => if_neg other
  | reserve j subscript =>
    obtain ⟨o, ho, h⟩ := bind_eq_ok h
    cases h
    have entered := onContainer_entered hn free (fun _ _ _ => reserveSubscript_refused)
      (fun _ _ => reserveSubscript_writes) ho
    exact entered.becomes _ rfl (fun _ => if_pos rfl) fun _ other => if_neg other
  | unique =>
    obtain ⟨o, ho, h⟩ := bind_eq_ok h
    cases h
    obtain ⟨⟨ids, fresh⟩, -, ho⟩ := bind_eq_ok ho
    cases ho
    exact becomes_of_data rfl rfl
  | subscribe j subscript token =>
    cases h
    exact becomes_of_data (data_subscribe s j subscript rank token) rfl
  | refer j subscript reference token =>
    cases h
    exact becomes_of_data (data_refer s j subscript reference rank token) rfl
  | lock j =>
    cases h
    exact becomes_of_data (data_lock s j rank) rfl
  | unlock j =>
    cases h
    exact becomes_of_data (data_unlock s j rank) rfl
  | has | retrieve | enumerate | lookup | kindOf | subscriptKindOf | sizeOf =>
    cases h
    exact becomes_of_data rfl rfl

end Becomes

/-! ## Every run -/

/-- What is known of a shard in the course of a run. -/
structure Reached (s : Shard) : Prop where
  waits : s.Waits
  lives : Lives s
  free : NullFree s

section Run

variable {rank : Rank} {op : Operation} {o : Outcome Reply}

/-- A new shard is reached by no step at all. -/
theorem Reached.new {index : UInt64} {settings : Settings} (hi : index < settings.servers)
    (hn : (settings.servers.toNat : Int) ≤ topId) : Reached (Shard.new index settings) :=
  ⟨(Tracked.new hi hn).waits, lives_new hi hn, rfl, List.not_mem_nil⟩

/-- What the steps of an operation keep, it keeps. -/
theorem Reached.changes (h : Reached s) (waits : s'.Waits) (changes : Changes s s') :
    Reached s' := by
  have kept : Lives s' ∧ NullFree s' :=
    changes.keep (P := fun s => Lives s ∧ NullFree s)
      (fun _ _ h change => ⟨h.1.change change, h.2.change h.1.numbered change⟩) ⟨h.lives, h.free⟩
  exact ⟨waits, kept.1, kept.2⟩

/-- What is reached stays so with every operation. -/
theorem Reached.perform (h : Reached s) (ho : s.perform rank op = .ok o) : Reached o.shard :=
  h.changes (perform_fires h.waits h.lives.numbered ho).waits
    (perform_changes h.waits h.lives.numbered ho)

/-- What is reached stays so when all waits are dropped. -/
theorem Reached.invalidate (h : Reached s) : Reached s.invalidate.1 :=
  h.changes (fun _ waiting => nomatch waiting) (.single (.await []))

end Run

end Shard

/-- An operation that was carried out, with its answer. -/
structure Answered where
  rank : Rank
  op : Operation
  answer : Except Error Reply

/-- The same, with the shard that it was asked of. -/
structure Asked extends Answered where
  shard : Shard

namespace Shard

variable {s s' : Shard}

/-- The operations of a run, with their answers. -/
def record (s : Shard) : List ShardCall → List Answered
  | [] => []
  | .perform rank op :: calls =>
    match s.perform rank op with
    | .ok o => ⟨rank, op, o.result⟩ :: o.shard.record calls
    | .error _ => []
  | .invalidate :: calls => s.invalidate.1.record calls

/-- The operations of a run, with their answers and the shards they were asked of. -/
def history (s : Shard) : List ShardCall → List Asked
  | [] => []
  | .perform rank op :: calls =>
    match s.perform rank op with
    | .ok o => ⟨⟨rank, op, o.result⟩, s⟩ :: o.shard.history calls
    | .error _ => []
  | .invalidate :: calls => s.invalidate.1.history calls

/-- The record is the history without the states. -/
theorem record_eq_map (s : Shard) (calls : List ShardCall) :
    s.record calls = (s.history calls).map Asked.toAnswered := by
  induction calls generalizing s with
  | nil => rfl
  | cons call calls ih =>
    cases call with
    | perform rank op =>
      rw [record, history]
      split
      · rw [List.map_cons, ih]
      · rfl
    | invalidate => exact ih _

/-- **A run keeps what its operations keep** of the shard and of what was asked so far. -/
theorem history_induction (past : List Asked) {P : Shard → List Asked → Prop}
    (perform : ∀ s past rank op o, Reached s → P s past → s.perform rank op = .ok o →
      P o.shard (past ++ [⟨⟨rank, op, o.result⟩, s⟩]))
    (invalidate : ∀ s past, P s past → P s.invalidate.1 past)
    {log log' : WaitLog} {calls : List ShardCall} (reached : Reached s) (start : P s past)
    (h : s.run log calls = .ok (s', log')) : Reached s' ∧ P s' (past ++ s.history calls) := by
  induction calls generalizing s past log with
  | nil =>
    cases h
    rw [history, List.append_nil]
    exact ⟨reached, start⟩
  | cons call calls ih =>
    obtain ⟨⟨s₁, log₁⟩, hcall, h⟩ := bind_eq_ok h
    cases call with
    | perform rank op =>
      obtain ⟨o, ho, hcall⟩ := bind_eq_ok hcall
      cases hcall
      have later := ih _ (reached.perform ho) (perform s past rank op o reached start ho) h
      rw [List.append_assoc] at later
      rw [history, ho]
      exact later
    | invalidate =>
      cases hcall
      exact ih past reached.invalidate (invalidate s past start) h

/-- **A run keeps what its operations keep** of the shard and of what was answered so far. -/
theorem record_induction {P : Shard → List Answered → Prop}
    (perform : ∀ s past rank op o, Reached s → P s past → s.perform rank op = .ok o →
      P o.shard (past ++ [⟨rank, op, o.result⟩]))
    (invalidate : ∀ s past, P s past → P s.invalidate.1 past) {past : List Answered}
    {log log' : WaitLog} {calls : List ShardCall} (reached : Reached s) (start : P s past)
    (h : s.run log calls = .ok (s', log')) : Reached s' ∧ P s' (past ++ s.record calls) := by
  rw [record_eq_map]
  refine history_induction [] (P := fun s asked => P s (past ++ asked.map Asked.toAnswered))
    ?_ (fun s asked => invalidate s _) reached ?_ h
  · intro s asked rank op o reached known ho
    rw [List.map_append, ← List.append_assoc]
    exact perform s _ rank op o reached known ho
  · rw [List.map_nil, List.append_nil]
    exact start

end Shard

end WorkPool
