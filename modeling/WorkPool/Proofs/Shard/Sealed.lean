import WorkPool.Proofs.Shard.Lifecycle

/-!
# Sealed data

A datum that has closed is **sealed**. It takes no more writes, so whoever reads it reads the same
as at its closing, until it is collected; and a collected datum leaves an id that is retired for
good. `Sealed` says that a datum is in one of the two states, with the content that it closed with.

Every kind of step keeps it (`Sealed.change`), and so does every run. What it comes to is told
operation by operation: those that read answer alike (`inspects`), and those that write are refused
and change nothing (`Sealed.refuses`).

How a write to a collected datum is refused depends on what it asks for first (`refuses_retired`):
the datum to be changed, which counts as closed, or its kind, which nobody knows any more.
-/

namespace WorkPool

namespace Operation

/-- The datum that an operation reads. -/
def reads? : Operation → Option DatumId
  | .has id _ | .retrieve id _ | .enumerate id _ _ | .lookup id _ | .kindOf id | .subscriptKindOf id
  | .sizeOf id => some id
  | _ => none

/-- The datum that an operation writes, closes, or gives or takes writers. -/
def writes? : Operation → Option DatumId
  | .store id _ _ | .storeBytes id _ _ | .insert id _ _ _ | .reserve id _ | .addWriters id _
  | .dropWriters id _ | .close id => some id
  | _ => none

/-- The datum that an operation changes, be it only in its readers. -/
def alters? : Operation → Option DatumId
  | .addReaders id _ | .dropReaders id _ => some id
  | op => op.writes?

/-- Whether an operation writes raw bytes, which mean nothing without the kind of the datum. -/
def isRaw : Operation → Bool
  | .storeBytes .. => true
  | _ => false

/-- Whether an operation asks for an id. -/
def asksId : Operation → Bool
  | .create _ | .unique => true
  | _ => false

end Operation

namespace Shard

variable {s s' : Shard} {id : DatumId} {content : Content} {d d' : Datum} {op : Operation}

/-- A datum is live and closed with some content, or its id is retired. -/
def Sealed (s : Shard) (id : DatumId) (content : Content) : Prop :=
  (∃ d, s.data.find? id = some d ∧ d.closed = true ∧ d.content = content) ∨ id ∈ s.retired

/-! ## What steps keep -/

/-- **Every kind of step** leaves a sealed datum sealed, with the same content: of a closed datum
only the readers change. -/
theorem Sealed.change (h : s.Sealed id content) (change : Change s s') : s'.Sealed id content := by
  cases change with
  | note noted =>
    obtain ⟨-, -⟩ := noted
    exact h
  | await | lock | unlock => exact h
  | make making =>
    refine h.imp_left fun ⟨d, live, sealed⟩ => ⟨d, ?_, sealed⟩
    have other := Table.ne_of_find? making.absent live
    exact (Table.find?_insert_ne _ other.symm _).trans live
  | @turn j d₁ d' memory closed turning read =>
    refine h.imp_left fun ⟨d, live, ended, same⟩ => ?_
    by_cases turned : id = j
    · subst turned
      cases live.symm.trans turning.live
      have kept := turning.turns.sealed ended
      refine ⟨d', Table.find?_insert_self _ _ _, ?_, ?_⟩
      · rw [kept]
        exact ended
      · rw [kept]
        exact same
    · exact ⟨d, (Table.find?_insert_ne _ turned _).trans live, ended, same⟩
  | @retire j d₁ d' memory closed turning ended unread =>
    by_cases collected : id = j
    · exact .inr (collected ▸ List.mem_cons_self)
    · refine h.imp (fun ⟨d, live, sealed⟩ => ⟨d, ?_, sealed⟩) (List.mem_cons_of_mem j)
      exact (Table.find?_erase_ne _ collected).trans live

/-- A retired id stays retired. -/
theorem Change.retired (change : Change s s') (h : id ∈ s.retired) : id ∈ s'.retired := by
  cases change with
  | note noted =>
    obtain ⟨-, -⟩ := noted
    exact h
  | await | lock | unlock | make | turn => exact h
  | retire => exact List.mem_cons_of_mem _ h

/-! ## Reading -/

/-- **Whoever reads a closed datum** reads its content, whatever else the shard holds. -/
theorem inspects (live : s.data.find? id = some d) (live' : s'.data.find? id = some d')
    (ended : d.closed = true) (ended' : d'.closed = true) (same : d'.content = d.content)
    (reads : op.reads? = some id) (rank : Rank) :
    ∃ r, s.perform rank op = .ok (s.inspect r) ∧ s'.perform rank op = .ok (s'.inspect r) := by
  have found : s.live id = .ok d := by rw [Shard.live, live]
  have found' : s'.live id = .ok d' := by rw [Shard.live, live']
  have container (name : String) : s'.containerAt id name = s.containerAt id name := by
    simp only [containerAt, found, found', Datum.container, bind, Except.bind, same]
  cases op with
  | has j subscript =>
    cases reads
    have has : s'.has id subscript = s.has id subscript := by
      simp only [Shard.has, live, live', Datum.container, same]
    refine ⟨_, rfl, ?_⟩
    rw [perform, has]
    rfl
  | retrieve j acceptOpen =>
    cases reads
    have retrieve : s'.retrieve id acceptOpen = s.retrieve id acceptOpen := by
      simp only [Shard.retrieve, found, found', bind, Except.bind, same, ended, ended']
      rfl
    refine ⟨_, rfl, ?_⟩
    rw [perform, retrieve]
    rfl
  | kindOf j =>
    cases reads
    refine ⟨.ok (.kind d.content.kind), ?_, ?_⟩
    · rw [perform, found]
      rfl
    · rw [perform, found', ← same]
      rfl
  | enumerate | lookup | subscriptKindOf | sizeOf =>
    cases reads
    refine ⟨_, rfl, ?_⟩
    rw [perform, container]
    rfl
  | _ => cases reads

/-! ## Writing -/

theorem Sealed.changeable (h : s.Sealed id content) :
    (∃ e, s.changeable id = .error e) ∨ ∃ d, s.changeable id = .ok d ∧ d.closed = true := by
  by_cases retired : id ∈ s.retired
  · exact .inl ⟨.closed id, if_pos (List.contains_iff_mem.2 retired)⟩
  · obtain ⟨d, live, ended, -⟩ := h.resolve_right retired
    refine .inr ⟨d, ?_, ended⟩
    rw [Shard.changeable, if_neg (by simpa using retired), Shard.live, live]

/-- What a write asks for first, a sealed datum does not grant. -/
theorem Sealed.checked (h : s.Sealed id content) {α : Type} (drops : UInt32)
    (next : Datum → Except Error α) :
    ∃ e, (do let d ← s.changeable id; d.checkWritable id drops; next d) = .error e := by
  rcases h.changeable with ⟨e, refused⟩ | ⟨d, found, ended⟩
  · rw [refused]
    exact ⟨e, rfl⟩
  · have closed : d.checkWritable id drops = .error (.closed id) := if_pos ended
    refine ⟨.closed id, ?_⟩
    rw [found]
    change (d.checkWritable id drops >>= fun _ => next d) = _
    rw [closed]
    rfl

/-- A sealed datum is no container that could be made. -/
theorem Sealed.onContainer (h : s.Sealed id content) {α : Type}
    (act : Shard → Except Fault (Outcome α)) (refused : ∃ e, act s = .ok (s.refuse e)) :
    ∃ e, s.onContainer id act = .ok (s.refuse e) := by
  by_cases there : s.data.contains id = true
  · obtain ⟨e, refused⟩ := refused
    refine ⟨e, ?_⟩
    rw [Shard.onContainer, ensureContainer, if_pos there]
    simp only [pure, bind, Except.bind, Except.pure, answer, refused, refuse]
    rfl
  · have retired : id ∈ s.retired := by
      refine h.resolve_left fun ⟨d, live, _⟩ => there ?_
      rw [Table.contains, live]
      rfl
    refine ⟨.closed id, ?_⟩
    rw [Shard.onContainer, ensureContainer, if_neg there,
      if_pos (List.contains_iff_mem.2 retired)]
    rfl

theorem Sealed.store (h : s.Sealed id content) (value : Value) (drops : UInt32) :
    ∃ e, s.store id value drops = .ok (s.refuse e) := by
  obtain ⟨e, refused⟩ := h.checked drops _
  exact ⟨e, by rw [Shard.store, checkStore, refused]; rfl⟩

/-- **A write to a sealed datum** is refused, and changes nothing. -/
theorem Sealed.refuses (h : s.Sealed id content) (writes : op.writes? = some id) (rank : Rank) :
    ∃ e, s.perform rank op = .ok (s.refuse e) := by
  cases op with
  | store j value drops =>
    cases writes
    obtain ⟨e, refused⟩ := h.store value drops
    exact ⟨e, by rw [perform, refused]; rfl⟩
  | storeBytes j bytes drops =>
    cases writes
    have refused : ∃ e, s.storeBytes id bytes drops = .ok (s.refuse e) := by
      unfold Shard.storeBytes
      split
      · exact ⟨_, rfl⟩
      · exact h.store _ drops
    obtain ⟨e, refused⟩ := refused
    exact ⟨e, by rw [perform, refused]; rfl⟩
  | insert j subscript member drops =>
    cases writes
    have refused : ∃ e, s.insertMember id subscript member drops = .ok (s.refuse e) := by
      obtain ⟨e, refused⟩ := h.checked drops _
      exact ⟨e, by rw [insertMember, checkInsert, refused]; rfl⟩
    obtain ⟨e, refused⟩ :=
      h.onContainer (fun s => s.insertMember id subscript member drops) refused
    exact ⟨e, by rw [perform, Shard.insert, refused]; rfl⟩
  | reserve j subscript =>
    cases writes
    have refused : ∃ e, s.reserveSubscript id subscript = .ok (s.refuse e) := by
      obtain ⟨e, refused⟩ := h.checked 0 _
      exact ⟨e, by rw [reserveSubscript, checkReserve, refused]; rfl⟩
    obtain ⟨e, refused⟩ := h.onContainer (fun s => s.reserveSubscript id subscript) refused
    exact ⟨e, by rw [perform, Shard.reserve, refused]; rfl⟩
  | addWriters j count =>
    cases writes
    rcases h.changeable with ⟨e, refused⟩ | ⟨d, found, ended⟩
    · exact ⟨e, by rw [perform, addWriters, refused]; rfl⟩
    · exact ⟨.closed id, by rw [perform, addWriters, found]; simp only [ended]; rfl⟩
  | dropWriters j count =>
    cases writes
    rcases h.changeable with ⟨e, refused⟩ | ⟨d, found, ended⟩
    · exact ⟨e, by rw [perform, dropWriters, refused]; rfl⟩
    · have closed : d.checkWritable id count = .error (.closed id) := if_pos ended
      refine ⟨.closed id, ?_⟩
      simp only [perform, dropWriters, found, bind, Except.bind, closed]
      rfl
  | close j =>
    cases writes
    rcases h.changeable with ⟨e, refused⟩ | ⟨d, found, ended⟩
    · exact ⟨e, by rw [perform, close, refused]; rfl⟩
    · exact ⟨.closed id, by rw [perform, close, found]; simp only [ended]; rfl⟩
  | _ => cases writes

/-! ## Ids -/

/-- **The id of a sealed datum** is not handed out. -/
theorem Sealed.not_given (h : s.Sealed id content) (lives : Lives s) (asks : op.asksId = true)
    {rank : Rank} {o : Outcome Reply} (performed : s.perform rank op = .ok o) :
    o.result ≠ .ok (.id id) := by
  intro given
  have passed : s.ids.Passed id := by
    rcases h with ⟨d, live, -⟩ | retired
    · exact lives.numbered.passed id d live
    · exact lives.passed id retired
  cases op with
  | create spec =>
    obtain ⟨o, ho, performed⟩ := bind_eq_ok performed
    cases performed
    obtain ⟨j, result, e⟩ := map_eq_ok given
    cases e
    have created := (create_created lives.numbered ho).1
    rw [result] at created
    generalize o.shard = s' at created
    cases created with
    | made making =>
      rcases h with ⟨d, live, -⟩ | retired
      · cases making.absent.symm.trans live
      · exact making.unused retired passed
  | unique =>
    obtain ⟨o, ho, performed⟩ := bind_eq_ok performed
    cases performed
    obtain ⟨⟨ids, fresh⟩, hfresh, ho⟩ := bind_eq_ok ho
    cases ho
    obtain ⟨j, result, e⟩ := map_eq_ok given
    cases e
    exact ((allocate_noted lives.numbered hfresh).2 id result).2.1 passed
  | _ => cases asks

/-! ## Every run -/

/-- **Closed data do not change, and retired ids do not come back.** Take two states of a run of a
new shard, one before the other.

* A datum that is live and closed in the first is live and closed in the second with the same
  content, and every operation that reads it is answered alike in both; or its id is retired in the
  second.
* An id that is retired in the first is retired in the second, and no live datum has it there.
* In either case every write to the id is refused in the second, and changes nothing; and the id
  is handed out neither as a fresh one nor by a creation. -/
theorem closed_data_kept {s s' : Shard} {log log' : WaitLog} (index : UInt64) (settings : Settings)
    (hi : index < settings.servers) (hn : (settings.servers.toNat : Int) ≤ topId)
    (calls later : List ShardCall)
    (hrun : (Shard.new index settings).run {} calls = .ok (s, log))
    (hlater : s.run log later = .ok (s', log')) (id : DatumId) :
    (∀ d, s.data.find? id = some d → d.closed = true →
      (∃ d', s'.data.find? id = some d' ∧ d'.closed = true ∧ d'.content = d.content ∧
        ∀ rank op, op.reads? = some id →
          ∃ r, s.perform rank op = .ok (s.inspect r) ∧ s'.perform rank op = .ok (s'.inspect r)) ∨
      id ∈ s'.retired) ∧
    (id ∈ s.retired → id ∈ s'.retired ∧ s'.data.find? id = none) ∧
    ((∃ d, s.data.find? id = some d ∧ d.closed = true) ∨ id ∈ s.retired →
      (∀ rank op, op.writes? = some id → ∃ e, s'.perform rank op = .ok (s'.refuse e)) ∧
      ∀ rank op o, op.asksId = true → s'.perform rank op = .ok o → o.result ≠ .ok (.id id)) := by
  have lives : Lives s :=
    holds_of_run hi hn hrun (lives_new hi hn) fun _ _ h change => h.change change
  have changes := run_changes ((Tracked.new hi hn).run hrun) hlater
  have lives' : Lives s' := changes.keep (fun _ _ h change => h.change change) lives
  have kept {content : Content} (h : s.Sealed id content) : s'.Sealed id content :=
    changes.keep (P := fun s => s.Sealed id content) (fun _ _ h change => h.change change) h
  refine ⟨?_, ?_, ?_⟩
  · intro d live ended
    refine (kept (.inl ⟨d, live, ended, rfl⟩)).imp_left fun ⟨d', live', ended', same⟩ => ?_
    exact ⟨d', live', ended', same, fun rank op reads =>
      inspects live live' ended ended' same reads rank⟩
  · intro retired
    have retired' : id ∈ s'.retired :=
      changes.keep (P := fun s => id ∈ s.retired) (fun _ _ h change => change.retired h) retired
    exact ⟨retired', lives'.absent id retired'⟩
  · intro h
    obtain ⟨content, sealed⟩ : ∃ content, s'.Sealed id content := by
      rcases h with ⟨d, live, ended⟩ | retired
      · exact ⟨d.content, kept (.inl ⟨d, live, ended, rfl⟩)⟩
      · exact ⟨.integer none, kept (.inr retired)⟩
    exact ⟨fun rank op writes => sealed.refuses writes rank, fun rank op o asks performed =>
      sealed.not_given lives' asks performed⟩

/-- One datum closes and is read on, and one is closed when nobody reads it. -/
def sealTwo : List ShardCall :=
  [.perform 0 (.create { id := 3, kind := .integer }), .perform 0 (.store 3 (.integer 5) 1),
    .perform 0 (.create { id := 5, kind := .blob }), .perform 0 (.dropReaders 5 1),
    .perform 1 (.close 5)]

/-- Both are written again, and fresh ids are asked for. -/
def writeAgain : List ShardCall :=
  [.perform 1 (.addReaders 3 1), .perform 0 (.store 3 (.integer 6) 0),
    .perform 0 (.insert 5 "key" [1] 0), .perform 0 (.create { id := 5, kind := .blob }),
    .perform 0 .unique, .perform 0 (.create { id := 0, kind := .integer })]

theorem closed_data_kept_again : (1 : UInt64) < 2 ∧ ∃ s log s' log',
    (Shard.new 1 { servers := 2 }).run {} sealTwo = .ok (s, log) ∧
    s.run log writeAgain = .ok (s', log') ∧ s.retired = [5] ∧ s'.size = 2 ∧
    s'.data.find? 5 = none ∧
    (∃ d, s'.data.find? 3 = some d ∧ d.content = .integer (some 5)) ∧
    ∃ e, s'.perform 0 (.storeBytes 3 [7] 0) = .ok (s'.refuse e) := by
  have kept := closed_data_kept 1 { servers := 2 } (by decide) (by decide) sealTwo writeAgain rfl
    rfl
  obtain ⟨d', live', -, same, -⟩ | retired := (kept 3).1 _ rfl rfl
  · exact ⟨by decide, _, _, _, _, rfl, rfl, rfl, rfl, ((kept 5).2.1 List.mem_cons_self).2,
      ⟨d', live', same⟩, ((kept 3).2.2 (.inl ⟨_, rfl, rfl⟩)).1 0 (.storeBytes 3 [7] 0) rfl⟩
  · exact absurd retired (by decide)

/-! ## Collected data -/

theorem changeable_retired (retired : id ∈ s.retired) : s.changeable id = .error (.closed id) :=
  if_pos (List.contains_iff_mem.2 retired)

/-- No container is made in place of a collected datum. -/
theorem onContainer_retired (retired : id ∈ s.retired) (absent : s.data.find? id = none)
    {α : Type} (act : Shard → Except Fault (Outcome α)) :
    s.onContainer id act = .ok (s.refuse (.closed id)) := by
  have gone : ¬ s.data.contains id = true := by
    rw [Table.contains, absent]
    exact Bool.false_ne_true
  rw [onContainer, ensureContainer, if_neg gone, if_pos (List.contains_iff_mem.2 retired)]
  rfl

/-- The error that a write to a collected datum is refused with. -/
def collectedError (op : Operation) (id : DatumId) : Error :=
  if op.isRaw then .unknownDatum id else .closed id

/-- **A write to a collected datum** is refused and changes nothing. It is told that the datum is
closed, but for raw bytes: these ask for the kind of the datum first, and find none. -/
theorem refuses_retired (retired : id ∈ s.retired) (absent : s.data.find? id = none)
    (alters : op.alters? = some id) (rank : Rank) :
    s.perform rank op = .ok (s.refuse (collectedError op id)) := by
  have closed := changeable_retired retired
  have checked {α : Type} (next : Datum → Except Error α) :
      (s.changeable id >>= next) = .error (.closed id) := by
    rw [closed]
    rfl
  cases op with
  | storeBytes j bytes drops =>
    cases alters
    have unknown : s.checkBytes id bytes = .error (.unknownDatum id) := by
      rw [checkBytes, live, absent]
      rfl
    rw [perform, storeBytes, unknown]
    rfl
  | store j value drops =>
    cases alters
    rw [perform, store, checkStore, checked]
    rfl
  | insert j subscript member drops =>
    cases alters
    rw [perform, insert, onContainer_retired retired absent]
    rfl
  | reserve j subscript =>
    cases alters
    rw [perform, reserve, onContainer_retired retired absent]
    rfl
  | dropWriters j count =>
    cases alters
    rw [perform, dropWriters, checked]
    rfl
  | addWriters | addReaders | dropReaders | close =>
    cases alters
    simp only [perform, addWriters, addReaders, dropReaders, close, closed]
    rfl
  | _ => cases alters

/-- **Every write to a collected id is refused, and raw bytes are refused as no other.** After every
run of a new shard, an operation that would change the content, the writers or the readers of a
datum, and finds its id retired, changes nothing. It is refused because the datum is closed, which
is a user error, exactly if it is no write of raw bytes; and because there is no such datum exactly
if it is. -/
theorem collected_writes_refused {s : Shard} {log : WaitLog} (index : UInt64) (settings : Settings)
    (hi : index < settings.servers) (hn : (settings.servers.toNat : Int) ≤ topId)
    (calls : List ShardCall) (hrun : (Shard.new index settings).run {} calls = .ok (s, log))
    (id : DatumId) (retired : id ∈ s.retired) (rank : Rank) (op : Operation)
    (alters : op.alters? = some id) :
    ∃ e, s.perform rank op = .ok (s.refuse e) ∧
      (e = .closed id ∧ e.code = .userError ↔ op.isRaw = false) ∧
      (e = .unknownDatum id ∧ e.code = .notFound ↔ op.isRaw = true) := by
  have lives : Lives s :=
    holds_of_run hi hn hrun (lives_new hi hn) fun _ _ h change => h.change change
  refine ⟨_, refuses_retired retired (lives.absent id retired) alters rank, ?_⟩
  unfold collectedError
  cases op.isRaw with
  | true =>
    exact ⟨⟨fun h => (nomatch h.1), fun h => (nomatch h)⟩, fun _ => rfl, fun _ => ⟨rfl, rfl⟩⟩
  | false =>
    exact ⟨⟨fun _ => rfl, fun _ => ⟨rfl, rfl⟩⟩, fun h => (nomatch h.1), fun h => (nomatch h)⟩

/-- A value that is stored in a collected blob finds it closed, and its bytes find nothing. -/
theorem collected_writes_refused_apart : ∃ s log,
    (Shard.new 1 { servers := 2 }).run {} sealTwo = .ok (s, log) ∧ 5 ∈ s.retired ∧
    s.perform 0 (.store 5 (.blob [1]) 1) = .ok (s.refuse (.closed 5)) ∧
    s.perform 0 (.storeBytes 5 [1] 1) = .ok (s.refuse (.unknownDatum 5)) := by
  have refused := collected_writes_refused 1 { servers := 2 } (by decide) (by decide) sealTwo rfl 5
    List.mem_cons_self 0
  obtain ⟨e, value, closed, -⟩ := refused (.store 5 (.blob [1]) 1) rfl
  obtain ⟨e', bytes, -, unknown⟩ := refused (.storeBytes 5 [1] 1) rfl
  rw [(closed.2 rfl).1] at value
  rw [(unknown.2 rfl).1] at bytes
  exact ⟨_, _, rfl, List.mem_cons_self, value, bytes⟩

end Shard

end WorkPool
