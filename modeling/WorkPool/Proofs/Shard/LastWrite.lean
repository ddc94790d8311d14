import WorkPool.Proofs.RawBytes
import WorkPool.Proofs.Shard.Reading

/-!
# The last write wins

What is read of a datum is what was written to it last. Main statement: whoever reads a scalar is
told the value of the last store since its creation, and the name that a file was created with if
there was none; whoever looks up a subscript is told the member that was written to it last.

Both are read off the record of a run. `Traced` says of every scalar where its content comes from,
and `Current` says of every member which write it comes from; `Inscribed`, which is there already,
says that nothing that was written is lost. A value may be stored as raw bytes, and then it is the
one value of the kind of the datum that has these bytes (`Value.ofBytes_eq_ok_iff`).
-/

namespace WorkPool

/-! ## Values and contents -/

namespace Content

variable {spec : Spec} {content : Content} {v : Value}

theorem kind_of_ofValue? (h : ofValue? v = some content) : content.kind = v.kind := by
  cases v <;> cases h <;> rfl

theorem scalar?_of_ofValue? (h : ofValue? v = some content) : content.scalar? = some v := by
  cases v <;> cases h <;> rfl

theorem kind_of_ofSpec (h : ofSpec spec = .ok content) : content.kind = spec.kind := by
  unfold ofSpec at h
  cases kind : spec.kind with
  | container =>
    simp only [kind] at h
    split at h
    · cases h
      rfl
    · cases h
  | _ =>
    rw [kind] at h
    cases h
    rfl

/-- Content of the kind of a container is a container. -/
theorem container_of_kind (h : content.kind = .container) : ∃ c, content = .container c := by
  cases content with
  | container c => exact ⟨c, rfl⟩
  | _ => cases h

end Content

/-- The value that a datum is created with: only a file has one, if it is given a name. -/
def Spec.value? (spec : Spec) : Option Value :=
  if spec.kind = .file then spec.filename.map .file else none

theorem Content.scalar?_of_ofSpec {spec : Spec} {content : Content}
    (h : ofSpec spec = .ok content) : content.scalar? = spec.value? := by
  unfold ofSpec at h
  unfold Spec.value?
  cases kind : spec.kind with
  | container =>
    simp only [kind] at h
    split at h
    · cases h
      rfl
    · cases h
  | _ =>
    rw [kind] at h
    cases h
    rfl

/-! ## Stores in a record -/

namespace Answered

/-- Whether an operation has created a datum. -/
def creates (a : Answered) (id : DatumId) : Bool :=
  match a.op, a.answer with
  | .create _, .ok (.id j) => j == id
  | _, _ => false

/-- Whether an operation has stored a value, given as such or as raw bytes. -/
def stores (a : Answered) (id : DatumId) : Bool :=
  match a.op, a.answer with
  | .store j _ _, .ok _ => j == id
  | .storeBytes j _ _, .ok _ => j == id
  | _, _ => false

/-- The value that an operation gives to a scalar of some kind. -/
def Gives (a : Answered) (kind : Kind) (v : Value) : Prop :=
  match a.op with
  | .store _ value _ => value = v
  | .storeBytes _ bytes _ => v.kind = kind ∧ v.toBytes = bytes
  | _ => False

/-- No operation gives two values. -/
theorem Gives.unique {a : Answered} {kind : Kind} {v w : Value} (scalar : kind ≠ .container)
    (h : a.Gives kind v) (h' : a.Gives kind w) : w = v := by
  obtain ⟨rank, op, answer⟩ := a
  cases op with
  | store j value drops => exact Eq.trans (Eq.symm h') h
  | storeBytes j bytes drops =>
    have read := (Value.ofBytes_eq_ok_iff scalar).2 h
    have read' := (Value.ofBytes_eq_ok_iff scalar).2 h'
    exact Except.ok.inj (read'.symm.trans read)
  | _ => exact False.elim h

/-- The last operation of a record with a property. -/
def latest (p : Answered → Bool) (past : List Answered) : Option Answered := past.reverse.find? p

variable {p : Answered → Bool} {past : List Answered} {a : Answered}

theorem latest_concat (p : Answered → Bool) (past : List Answered) (a : Answered) :
    latest p (past ++ [a]) = if p a = true then some a else latest p past := by
  rw [latest, List.reverse_append, List.reverse_singleton, List.singleton_append, List.find?_cons,
    latest]
  cases p a <;> rfl

theorem holds_of_latest (h : latest p past = some a) : a ∈ past ∧ p a = true :=
  ⟨List.mem_reverse.1 (List.mem_of_find?_eq_some h), List.find?_some h⟩

end Answered

open Answered (latest)

/-- Where a scalar comes from that an answer tells of: it was there before, or it was created, or a
value was stored. -/
theorem Operation.scalar_of_after {op : Operation} {answer : Except Error Reply} {id : DatumId}
    {before : Option Content} {content : Content}
    (h : op.after answer id before = some content) (scalar : content.kind ≠ .container)
    (rank : Rank) :
    before = some content ∧ Answered.stores ⟨rank, op, answer⟩ id = false ∧
        Answered.creates ⟨rank, op, answer⟩ id = false ∨
      (∃ spec, op = .create spec ∧ answer = .ok (.id id) ∧ Content.ofSpec spec = .ok content) ∨
      Answered.stores ⟨rank, op, answer⟩ id = true ∧
        Answered.creates ⟨rank, op, answer⟩ id = false ∧
        ∃ v, Content.ofValue? v = some content ∧ ((∃ drops, op = .store id v drops) ∨
          ∃ bytes drops old, op = .storeBytes id bytes drops ∧ before = some old ∧
            Value.ofBytes old.kind bytes = .ok v) := by
  unfold after at h
  split at h
  · split at h
    · rename_i same
      rw [same]
      exact .inr (.inl ⟨_, rfl, rfl, eq_ok_of_toOption h⟩)
    · rename_i other
      exact .inl ⟨h, rfl, beq_false_of_ne (Ne.symm other)⟩
  · split at h
    · rename_i same
      subst same
      exact .inr (.inr ⟨beq_self_eq_true _, rfl, _, h, .inl ⟨_, rfl⟩⟩)
    · rename_i other
      exact .inl ⟨h, beq_false_of_ne (Ne.symm other), rfl⟩
  · split at h
    · rename_i same
      subst same
      obtain ⟨old, there, h⟩ := Option.bind_eq_some_iff.1 h
      obtain ⟨v, read, h⟩ := Option.bind_eq_some_iff.1 h
      exact .inr (.inr ⟨beq_self_eq_true _, rfl, v, h,
        .inr ⟨_, _, old, rfl, there, eq_ok_of_toOption read⟩⟩)
    · rename_i other
      exact .inl ⟨h, beq_false_of_ne (Ne.symm other), rfl⟩
  · split at h
    · cases h
      exact absurd rfl scalar
    · exact .inl ⟨h, rfl, rfl⟩
  · split at h
    · cases h
      exact absurd rfl scalar
    · exact .inl ⟨h, rfl, rfl⟩
  · rename_i notCreate notStore notBytes notInsert notReserve
    refine .inl ⟨h, ?_, ?_⟩
    · unfold Answered.stores
      split
      · rename_i op answer
        exact (notStore _ _ _ _ op answer).elim
      · rename_i op answer
        exact (notBytes _ _ _ _ op answer).elim
      · rfl
    · unfold Answered.creates
      split
      · rename_i op answer
        exact (notCreate _ _ op answer).elim
      · rfl

namespace Shard

variable {s s' : Shard} {id : DatumId} {subscript : String} {op : Operation} {rank : Rank}
  {o : Outcome Reply} {c : Container} {d : Datum} {content : Content} {spec : Spec}
  {past since : List Answered} {a : Answered}

/-! ## Scalars -/

/-- What a scalar holds was given by the last store since its creation, or it holds what it was
created with. -/
structure Origin (id : DatumId) (spec : Spec) (since : List Answered) (content : Content) : Prop
    where
  kind : spec.kind = content.kind
  /-- this was the creation -/
  uncreated : ∀ a ∈ since, a.creates id = false
  stored : ∀ a, latest (·.stores id) since = some a →
    ∃ v, a.Gives spec.kind v ∧ Content.ofValue? v = some content
  unstored : latest (·.stores id) since = none → Content.ofSpec spec = .ok content

theorem origin_new (h : Content.ofSpec spec = .ok content) : Origin id spec [] content where
  kind := (Content.kind_of_ofSpec h).symm
  uncreated _ none := nomatch none
  stored _ none := nomatch none
  unstored _ := h

theorem Origin.uncreated_concat (h : Origin id spec since content)
    (uncreated : a.creates id = false) : ∀ b ∈ since ++ [a], b.creates id = false :=
  List.forall_mem_append.2 ⟨h.uncreated, List.forall_mem_singleton.2 uncreated⟩

/-- Nothing comes of an operation that stores nothing. -/
theorem Origin.aside (h : Origin id spec since content) (unstored : a.stores id = false)
    (uncreated : a.creates id = false) : Origin id spec (since ++ [a]) content := by
  have same : latest (·.stores id) (since ++ [a]) = latest (·.stores id) since := by
    rw [Answered.latest_concat, unstored]
    rfl
  refine ⟨h.kind, h.uncreated_concat uncreated, ?_, ?_⟩
  · rw [same]
    exact h.stored
  · rw [same]
    exact h.unstored

/-- A store is the last one for now. -/
theorem Origin.store {content' : Content} {v : Value} (h : Origin id spec since content)
    (stores : a.stores id = true) (uncreated : a.creates id = false) (gives : a.Gives spec.kind v)
    (kind : v.kind = content.kind) (holds : Content.ofValue? v = some content') :
    Origin id spec (since ++ [a]) content' := by
  have last : latest (·.stores id) (since ++ [a]) = some a := by
    rw [Answered.latest_concat, if_pos stores]
  refine ⟨?_, h.uncreated_concat uncreated, ?_, ?_⟩
  · rw [h.kind, ← kind, Content.kind_of_ofValue? holds]
  · rw [last]
    intro b hb
    cases hb
    exact ⟨v, gives, holds⟩
  · rw [last]
    intro none
    cases none

/-- Every scalar goes back to its creation. -/
def Traced (s : Shard) (past : List Answered) : Prop :=
  ∀ id content, s.contentAt id = some content → content.kind ≠ .container →
    ∃ earlier creator spec since,
      past = earlier ++ ⟨creator, .create spec, .ok (.id id)⟩ :: since ∧
        Origin id spec since content

/-- A store that is carried out finds a scalar of the kind of the value. -/
theorem kind_of_store {value : Value} {drops : UInt32} {reply : Reply}
    (h : s.perform rank (.store id value drops) = .ok o) (result : o.result = .ok reply) :
    ∃ old, s.contentAt id = some old ∧ old.kind ≠ .container ∧ value.kind = old.kind := by
  obtain ⟨stored, hstored, h⟩ := bind_eq_ok h
  cases h
  obtain ⟨-, result, -⟩ := map_eq_ok result
  cases store_stores hstored with
  | refused | full => cases result
  | done storable =>
    exact ⟨_, contentAt_of_find? storable.live, storable.scalar, storable.kind⟩

/-- **One operation** keeps the scalars traced: what is stored goes on from what was there. -/
theorem Traced.perform (h : Traced s past) (reached : Reached s)
    (ho : s.perform rank op = .ok o) : Traced o.shard (past ++ [⟨rank, op, o.result⟩]) := by
  intro id content holds scalar
  have onward {old : Content} {v : Value} (there : s.contentAt id = some old)
      (unlisted : old.kind ≠ .container) (kind : v.kind = old.kind)
      (stores : Answered.stores ⟨rank, op, o.result⟩ id = true)
      (uncreated : Answered.creates ⟨rank, op, o.result⟩ id = false)
      (gives : Answered.Gives ⟨rank, op, o.result⟩ old.kind v)
      (holds : Content.ofValue? v = some content) :
      ∃ earlier creator spec since, past ++ [⟨rank, op, o.result⟩] =
        earlier ++ ⟨creator, .create spec, .ok (.id id)⟩ :: since ∧
          Origin id spec since content := by
    obtain ⟨earlier, creator, spec, since, split, origin⟩ := h id old there unlisted
    refine ⟨earlier, creator, spec, since ++ [_], ?_,
      origin.store stores uncreated (origin.kind ▸ gives) kind holds⟩
    rw [split, List.append_assoc, List.cons_append]
  cases perform_becomes reached.lives.numbered reached.free ho id with
  | told same =>
    rw [same] at holds
    rcases Operation.scalar_of_after holds scalar rank with ⟨before, unstored, uncreated⟩ |
      ⟨spec, rfl, answer, ofSpec⟩ | ⟨stores, uncreated, v, ofValue, stored | bytes⟩
    · obtain ⟨earlier, creator, spec, since, split, origin⟩ := h id content before scalar
      refine ⟨earlier, creator, spec, since ++ [_], ?_, origin.aside unstored uncreated⟩
      rw [split, List.append_assoc, List.cons_append]
    · rw [answer]
      exact ⟨past, rank, spec, [], rfl, origin_new ofSpec⟩
    · obtain ⟨drops, rfl⟩ := stored
      cases result : o.result with
      | error e =>
        rw [result] at stores
        cases stores
      | ok reply =>
        obtain ⟨old, there, unlisted, kind⟩ := kind_of_store ho result
        rw [← result]
        exact onward there unlisted kind stores uncreated rfl ofValue
    · obtain ⟨raw, drops, old, rfl, there, read⟩ := bytes
      have unlisted : old.kind ≠ .container := by
        intro container
        rw [container, Value.ofBytes] at read
        split at read
        · cases read
          cases ofValue
        · cases read
      have given := (Value.ofBytes_eq_ok_iff unlisted).1 read
      exact onward there unlisted given.1 stores uncreated given ofValue
  | collected gone retired =>
    rw [gone] at holds
    cases holds
  | leftBehind null refused absent empty =>
    rw [empty] at holds
    cases holds
    exact absurd rfl scalar

/-- What is told of a scalar is its value, if it has one. -/
theorem perform_retrieve_scalar (live : s.data.find? id = some d)
    (scalar : d.content.kind ≠ .container) (rank : Rank) (acceptOpen : Bool) :
    s.perform rank (.retrieve id acceptOpen) = .ok (s.inspect (d.content.scalar?.elim
      (.error (.refused "retrieve" s!"<{id}> has no value yet")) fun v => .ok (.value v))) := by
  have found : s.live id = .ok d := by rw [Shard.live, live]
  simp only [Shard.perform, retrieve, found, bind, Except.bind]
  cases content : d.content with
  | container c =>
    rw [content] at scalar
    exact absurd rfl scalar
  | integer n => cases n <;> rfl
  | float x => cases x <;> rfl
  | string text => cases text <;> rfl
  | blob b => cases b <;> rfl
  | file name => cases name <;> rfl

/-! ## Members -/

/-- Every member is that of the last write. -/
def Current (s : Shard) (past : List Answered) : Prop :=
  ∀ id c k m, s.contentAt id = some (.container c) → c.lookup k = some m →
    ∃ writer drops reply, latest (·.writes id k) past =
      some ⟨writer, .insert id k m drops, .ok reply⟩

/-- A member of a container that something is entered into was there before. -/
theorem Content.lookup_of_entered {before : Option Content} {k : String} {m : Bytes}
    (h : (Content.entered before).lookup k = some m) :
    ∃ c, before = some (.container c) ∧ c.lookup k = some m := by
  obtain ⟨c, holds, -⟩ := Content.lookup_entered (Option.isSome_iff_exists.2 ⟨m, h⟩)
  subst holds
  exact ⟨c, rfl, h⟩

/-- **One operation** keeps the members current: a member that was there is that of the last write,
unless the operation writes one. -/
theorem Current.perform (h : Current s past) (reached : Reached s)
    (ho : s.perform rank op = .ok o) : Current o.shard (past ++ [⟨rank, op, o.result⟩]) := by
  intro id c k m holds found
  have onward {old : Container} (there : s.contentAt id = some (.container old))
      (member : old.lookup k = some m)
      (unwritten : Answered.writes ⟨rank, op, o.result⟩ id k = false) :
      ∃ writer drops reply, latest (·.writes id k) (past ++ [⟨rank, op, o.result⟩]) =
        some ⟨writer, .insert id k m drops, .ok reply⟩ := by
    obtain ⟨writer, drops, reply, last⟩ := h id old k m there member
    exact ⟨writer, drops, reply, by rw [Answered.latest_concat, unwritten]; exact last⟩
  cases perform_becomes reached.lives.numbered reached.free ho id with
  | told same =>
    rw [same] at holds
    by_cases writes : Answered.writes ⟨rank, op, o.result⟩ id k = true
    · obtain ⟨member, drops, reply, rfl, result⟩ := Answered.insert_of_writes writes
      change o.result = .ok reply at result
      rw [result] at holds
      cases (if_pos rfl).symm.trans holds
      cases (Container.lookup_write_self _ _ _).symm.trans found
      exact ⟨rank, drops, reply, by rw [Answered.latest_concat, if_pos writes, result]⟩
    · have unwritten := Bool.eq_false_iff.2 writes
      rcases Operation.container_of_after holds with before | ⟨kind, rfl⟩ |
        ⟨k', m', drops, reply, rfl, result, rfl⟩ | ⟨k', reply, rfl, result, rfl⟩
      · exact onward before found unwritten
      · cases found
      · have other : k ≠ k' := by
          rintro rfl
          rw [Answered.writes, result] at unwritten
          simp at unwritten
        rw [Container.lookup_write_ne _ other] at found
        obtain ⟨old, there, member⟩ := Content.lookup_of_entered found
        exact onward there member unwritten
      · rw [Container.lookup_hold] at found
        obtain ⟨old, there, member⟩ := Content.lookup_of_entered found
        exact onward there member unwritten
  | collected gone retired =>
    rw [gone] at holds
    cases holds
  | leftBehind null refused absent empty =>
    rw [empty] at holds
    cases holds
    cases found

/-! ## Members that are not overwritten -/

theorem Change.allowOverwrite (change : Change s s') : s'.allowOverwrite = s.allowOverwrite := by
  cases change with
  | note noted =>
    obtain ⟨-, -⟩ := noted
    rfl
  | await | lock | unlock | make | turn | retire => rfl

/-- A member that is there is not replaced, unless that is allowed. -/
theorem insertMember_present {member : Bytes} {drops : UInt32} {o : Outcome Unit}
    (strict : s.allowOverwrite = false) (there : s.HasMember id subscript)
    (h : s.insertMember id subscript member drops = .ok o) : ∃ e, o.result = .error e := by
  cases insertMember_inserts h with
  | refused | full => exact ⟨_, rfl⟩
  | done insertable =>
    obtain ⟨c', holds, present⟩ := there
    rw [contentAt_of_find? insertable.live, insertable.container] at holds
    cases holds
    rcases insertable.allowed with allowed | absent
    · cases strict.symm.trans allowed
    · rw [absent] at present
      cases present

/-- **A write is carried out** only where no member is and the container was not collected. A
container that is made for it was not there before. -/
theorem unwritten_of_insert {member : Bytes} {drops : UInt32} {reply : Reply}
    (reached : Reached s) (strict : s.allowOverwrite = false)
    (h : s.perform rank (.insert id subscript member drops) = .ok o)
    (result : o.result = .ok reply) : ¬ (s.HasMember id subscript ∨ id ∈ s.retired) := by
  rintro (there | retired)
  · obtain ⟨inserted, hinserted, h⟩ := bind_eq_ok h
    cases h
    obtain ⟨_, result, -⟩ := map_eq_ok result
    have acted := onContainer_acted reached.lives.numbered (fun _ _ _ => insertMember_refused)
      hinserted
    cases acted with
    | there live acted =>
      obtain ⟨e, refused⟩ := insertMember_present strict there acted
      cases result.symm.trans refused
    | refused absent _ refused _ => cases result.symm.trans refused
    | leaked _ _ _ refused => cases result.symm.trans refused
    | made making =>
      obtain ⟨c, holds, -⟩ := there
      have absent : s.data.find? id = none := by
        by_cases null : id = nullId
        · exact null ▸ reached.free.absent
        · have chosen := making.chosen null
          exact (congrArg s.data.find? chosen).symm.trans making.absent
      rw [contentAt_of_none absent] at holds
      cases holds
  · have sealed : s.Sealed id (.integer none) := .inr retired
    have writes : (Operation.insert id subscript member drops).writes? = some id := rfl
    obtain ⟨e, refused⟩ := sealed.refuses writes rank
    cases h.symm.trans refused
    cases result

/-- Where members are not replaced, there is one write to a subscript at most. -/
def Once (s : Shard) (past : List Answered) : Prop :=
  s.allowOverwrite = false → ∀ id k, past.countP (·.writes id k) ≤ 1

/-- **One operation** keeps it, since what was written is there still or was collected. -/
theorem Once.perform (h : Once s past) (inscribed : Inscribed s past) (reached : Reached s)
    (ho : s.perform rank op = .ok o) : Once o.shard (past ++ [⟨rank, op, o.result⟩]) := by
  have same : o.shard.allowOverwrite = s.allowOverwrite :=
    (perform_changes reached.waits reached.lives.numbered ho).keep
      (P := fun s' => s'.allowOverwrite = s.allowOverwrite)
      (fun _ _ kept change => change.allowOverwrite.trans kept) rfl
  intro strict id k
  rw [same] at strict
  rw [List.countP_append, List.countP_singleton]
  split
  · rename_i writes
    obtain ⟨member, drops, reply, rfl, result⟩ := Answered.insert_of_writes writes
    have unwritten := unwritten_of_insert reached strict ho result
    have first : past.countP (·.writes id k) = 0 :=
      List.countP_eq_zero.2 fun a ha wrote => unwritten (inscribed.kept a ha id k wrote)
    exact Nat.add_le_add_right (Nat.le_of_eq first) 1
  · exact h strict id k

/-! ## Every run -/

/-- What is known of a shard and its record. -/
structure Recorded (s : Shard) (past : List Answered) : Prop where
  traced : Traced s past
  current : Current s past
  inscribed : Inscribed s past
  once : Once s past

theorem recorded_new (index : UInt64) (settings : Settings) :
    Recorded (Shard.new index settings) [] where
  traced id content holds := by
    rw [contentAt_of_none rfl] at holds
    cases holds
  current id c k m holds := by
    rw [contentAt_of_none rfl] at holds
    cases holds
  inscribed := inscribed_new index settings
  once _ _ _ := Nat.zero_le 1

/-- The record goes back to the start of the run, and tells where everything comes from. -/
theorem recorded_of_run {index : UInt64} {settings : Settings} {log : WaitLog}
    {calls : List ShardCall} (hi : index < settings.servers)
    (hn : (settings.servers.toNat : Int) ≤ topId)
    (hrun : (Shard.new index settings).run {} calls = .ok (s, log)) :
    Reached s ∧ Recorded s ((Shard.new index settings).record calls) := by
  refine record_induction (P := Recorded) ?_ ?_ (Reached.new hi hn) (recorded_new index settings)
    hrun
  · intro s past rank op o reached known ho
    exact ⟨known.traced.perform reached ho, known.current.perform reached ho,
      known.inscribed.perform reached ho, known.once.perform known.inscribed reached ho⟩
  · intro s past known
    exact ⟨known.traced, known.current, ⟨known.inscribed.written, known.inscribed.kept⟩,
      known.once⟩

/-- What a reader of a scalar is told, by where its content comes from. -/
theorem Origin.retrieved (h : Origin id spec since d.content) (live : s.data.find? id = some d)
    (scalar : d.content.kind ≠ .container) (rank : Rank) (acceptOpen : Bool) :
    (∀ a, latest (·.stores id) since = some a →
      ∃ v, (∀ w, a.Gives spec.kind w ↔ w = v) ∧
        s.perform rank (.retrieve id acceptOpen) = .ok (s.inspect (.ok (.value v)))) ∧
    (∀ v, latest (·.stores id) since = none → spec.value? = some v →
      s.perform rank (.retrieve id acceptOpen) = .ok (s.inspect (.ok (.value v)))) ∧
    ((∃ e, s.perform rank (.retrieve id acceptOpen) = .ok (s.inspect (.error e)) ∧
        e.code = .userError) ↔
      latest (·.stores id) since = none ∧ spec.value? = none) := by
  have told := perform_retrieve_scalar live scalar rank acceptOpen
  have stored : ∀ a, latest (·.stores id) since = some a →
      ∃ v, a.Gives spec.kind v ∧ d.content.scalar? = some v := by
    intro a last
    obtain ⟨v, gives, holds⟩ := h.stored a last
    exact ⟨v, gives, Content.scalar?_of_ofValue? holds⟩
  have unstored (none : latest (·.stores id) since = none) : d.content.scalar? = spec.value? :=
    Content.scalar?_of_ofSpec (h.unstored none)
  refine ⟨?_, ?_, ?_⟩
  · intro a last
    obtain ⟨v, gives, value⟩ := stored a last
    refine ⟨v, fun w => ⟨fun gives' => gives.unique (h.kind ▸ scalar) gives', ?_⟩, ?_⟩
    · rintro rfl
      exact gives
    · rw [told, value]
      rfl
  · intro v none name
    rw [told, unstored none, name]
    rfl
  · cases value : d.content.scalar? with
    | some v =>
      rw [told, value]
      refine ⟨?_, ?_⟩
      · rintro ⟨e, refused, -⟩
        cases refused
      · rintro ⟨none, unnamed⟩
        rw [unstored none, unnamed] at value
        cases value
    | none =>
      rw [told, value]
      refine ⟨fun _ => ?_, fun _ => ⟨_, rfl, rfl⟩⟩
      have never : latest (·.stores id) since = none := by
        refine Option.eq_none_iff_forall_ne_some.2 fun a last => ?_
        obtain ⟨v, -, there⟩ := stored a last
        cases value.symm.trans there
      exact ⟨never, (unstored never).symm.trans value⟩

/-- A member is looked up as it was written last, and is not there if none was written. -/
theorem Recorded.looked_up (h : Recorded s past) (unretired : id ∉ s.retired)
    (holds : s.contentAt id = some (.container c)) (k : String) :
    (∀ m, c.lookup k = some m ↔ ∃ writer drops reply, latest (·.writes id k) past =
      some ⟨writer, .insert id k m drops, .ok reply⟩) ∧
    (c.lookup k = none ↔ ∀ a ∈ past, a.writes id k = false) := by
  have kept : ∀ a ∈ past, a.writes id k = true → (c.lookup k).isSome = true := by
    intro a ha writes
    obtain ⟨c', holds', member⟩ := (h.inscribed.kept a ha id k writes).resolve_right unretired
    cases holds.symm.trans holds'
    exact member
  refine ⟨fun m => ⟨h.current id c k m holds, ?_⟩, ?_, ?_⟩
  · rintro ⟨writer, drops, reply, last⟩
    obtain ⟨ha, writes⟩ := Answered.holds_of_latest last
    obtain ⟨m', found⟩ := Option.isSome_iff_exists.1 (kept _ ha writes)
    obtain ⟨writer', drops', reply', last'⟩ := h.current id c k m' holds found
    cases last.symm.trans last'
    exact found
  · intro absent a ha
    refine Bool.eq_false_iff.2 fun writes => ?_
    have present := kept a ha writes
    rw [absent] at present
    cases present
  · intro unwritten
    refine Option.eq_none_iff_forall_ne_some.2 fun m found => ?_
    obtain ⟨a, ha, writes⟩ :=
      h.inscribed.written id k ⟨c, holds, Option.isSome_iff_exists.2 ⟨m, found⟩⟩
    rw [unwritten a ha] at writes
    cases writes

/-- **The last write wins.** After every run of a new shard,

* a live scalar was created with its kind, and since its last creation whoever reads it is told the
  one value that the last store has given, as such or as its raw bytes; if there was none, the name
  that a file was created with; and a user error exactly if there is neither;
* whoever looks up a subscript of a live container is told the member of the last write there, and
  none exactly if there was no write;
* if members are not to be replaced, at most one write to a subscript was ever carried out. -/
theorem last_write_wins {s : Shard} {log : WaitLog} (index : UInt64) (settings : Settings)
    (hi : index < settings.servers) (hn : (settings.servers.toNat : Int) ≤ topId)
    (calls : List ShardCall) (hrun : (Shard.new index settings).run {} calls = .ok (s, log))
    (rank : Rank) :
    (∀ id d, s.data.find? id = some d → d.content.kind ≠ .container →
      ∃ earlier creator spec since, (Shard.new index settings).record calls =
          earlier ++ ⟨creator, .create spec, .ok (.id id)⟩ :: since ∧
        (∀ a ∈ since, a.creates id = false) ∧ spec.kind = d.content.kind ∧
        ∀ acceptOpen,
          (∀ a, latest (·.stores id) since = some a →
            ∃ v, (∀ w, a.Gives spec.kind w ↔ w = v) ∧
              s.perform rank (.retrieve id acceptOpen) = .ok (s.inspect (.ok (.value v)))) ∧
          (∀ v, latest (·.stores id) since = none → spec.value? = some v →
            s.perform rank (.retrieve id acceptOpen) = .ok (s.inspect (.ok (.value v)))) ∧
          ((∃ e, s.perform rank (.retrieve id acceptOpen) = .ok (s.inspect (.error e)) ∧
              e.code = .userError) ↔
            latest (·.stores id) since = none ∧ spec.value? = none)) ∧
    (∀ id d, s.data.find? id = some d → d.content.kind = .container → ∀ k,
      ∃ found, s.perform rank (.lookup id k) = .ok (s.inspect (.ok (.member found))) ∧
        (∀ m, found = some m ↔ ∃ writer drops reply,
          latest (·.writes id k) ((Shard.new index settings).record calls) =
            some ⟨writer, .insert id k m drops, .ok reply⟩) ∧
        (found = none ↔
          ∀ a ∈ (Shard.new index settings).record calls, a.writes id k = false)) ∧
    (settings.allowOverwrite = false → ∀ id k,
      ((Shard.new index settings).record calls).countP (·.writes id k) ≤ 1) := by
  obtain ⟨reached, recorded⟩ := recorded_of_run hi hn hrun
  refine ⟨?_, ?_, ?_⟩
  · intro id d live scalar
    obtain ⟨earlier, creator, spec, since, split, origin⟩ :=
      recorded.traced id d.content (contentAt_of_find? live) scalar
    exact ⟨earlier, creator, spec, since, split, origin.uncreated, origin.kind,
      fun acceptOpen => origin.retrieved live scalar rank acceptOpen⟩
  · intro id d live container k
    obtain ⟨c, holdsIn⟩ := Content.container_of_kind container
    have holds : s.contentAt id = some (.container c) := by rw [contentAt_of_find? live, holdsIn]
    have unretired : id ∉ s.retired := by
      intro retired
      cases live.symm.trans (reached.lives.absent id retired)
    exact ⟨_, perform_lookup holds rank k, recorded.looked_up unretired holds k⟩
  · intro strict
    have same : s.allowOverwrite = settings.allowOverwrite :=
      holds_of_run (P := fun s => s.allowOverwrite = settings.allowOverwrite) hi hn hrun rfl
        fun _ _ kept change => change.allowOverwrite.trans kept
    exact recorded.once (same.trans strict)

/-- A float is stored, stored again by its bytes, and not replaced by an integer; a member is
written, and not replaced. -/
def storeTwice : List ShardCall :=
  [.perform 0 (.create { id := 3, kind := .float }), .perform 0 (.store 3 (.float ⟨1⟩) 0),
    .perform 1 (.storeBytes 3 [7, 0, 0, 0, 0, 0, 248, 127] 0), .perform 0 (.store 3 (.integer 5) 0),
    .perform 0 (.insert 5 "a" [1] 0), .perform 1 (.insert 5 "a" [2] 0)]

/-- Two servers, and no member is replaced. -/
def strict : Settings := { servers := 2, allowOverwrite := false }

/-- What is read is a float that is no number, bit by bit. -/
theorem last_write_wins_bits : ∃ s log,
    (Shard.new 1 strict).run {} storeTwice = .ok (s, log) ∧
    s.perform 0 (.retrieve 3 false) =
      .ok (s.inspect (.ok (.value (.float ⟨0x7ff8000000000007⟩)))) ∧
    s.perform 0 (.lookup 5 "a") = .ok (s.inspect (.ok (.member (some [1])))) ∧
    ((Shard.new 1 strict).record storeTwice).countP (·.writes 5 "a") ≤ 1 := by
  have ran : Except.toOption (do
      let ended ← (Shard.new 1 strict).run {} storeTwice
      return ((ended.1.data.find? 3).map (·.content.kind),
        (ended.1.data.find? 5).map (·.content.kind))) =
      some (some .float, some .container) := by decide +kernel
  obtain ⟨⟨s, log⟩, hrun, ran⟩ := bind_eq_ok (eq_ok_of_toOption ran)
  obtain ⟨scalar, container⟩ := Prod.mk.inj (Except.ok.inj ran)
  obtain ⟨d, live, float⟩ := Option.map_eq_some_iff.1 scalar
  obtain ⟨d', live', listed⟩ := Option.map_eq_some_iff.1 container
  obtain ⟨scalars, containers, once⟩ :=
    last_write_wins 1 strict (by decide) (by decide) storeTwice hrun 0
  refine ⟨s, log, hrun, ?_, ?_, once rfl 5 "a"⟩
  · obtain ⟨earlier, creator, spec, since, split, -, kind, told⟩ :=
      scalars 3 d live (by rw [float]; decide)
    have alone : ((Shard.new 1 strict).record storeTwice).tail.all
        (fun a => !a.creates 3) = true := by decide +kernel
    have last : (latest (·.stores 3) ((Shard.new 1 strict).record storeTwice).tail).map
        (·.op) = some (.storeBytes 3 [7, 0, 0, 0, 0, 0, 248, 127] 0) := by decide +kernel
    rw [split] at alone last
    cases earlier with
    | cons first earlier =>
      rw [List.cons_append, List.tail_cons, List.all_append, List.all_cons] at alone
      simp [Answered.creates] at alone
    | nil =>
      obtain ⟨a, last, op⟩ := Option.map_eq_some_iff.1 last
      obtain ⟨v, gives, read⟩ := (told false).1 a last
      have given : a.Gives spec.kind (.float ⟨0x7ff8000000000007⟩) := by
        rw [Answered.Gives, op, kind, float]
        exact ⟨rfl, by decide⟩
      rw [read, (gives _).1 given]
  · obtain ⟨found, told, member, -⟩ := containers 5 d' live' listed "a"
    have last : (latest (·.writes 5 "a") ((Shard.new 1 strict).record storeTwice)).map
        (fun a => (a.op, a.answer.toOption)) =
        some (.insert 5 "a" [1] 0, some .ack) := by decide +kernel
    obtain ⟨⟨writer, op, answer⟩, last, facts⟩ := Option.map_eq_some_iff.1 last
    obtain ⟨rfl, answered⟩ := Prod.mk.inj facts
    obtain rfl := eq_ok_of_toOption answered
    rw [told, (member [1]).2 ⟨writer, 0, .ack, last⟩]

end Shard

end WorkPool
