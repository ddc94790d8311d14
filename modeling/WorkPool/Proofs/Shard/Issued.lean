import WorkPool.Proofs.Shard.Aside

/-!
# Fresh ids of one shard

A shard hands out fresh ids and also takes ids that a caller chose. A fresh id is above all ids
that were handed out or taken before, whatever became of the data under them.

* `Shard.drawn`, `Shard.makes` — the ids that an operation gets from the source, and those under
  which it makes a datum, even if the datum is taken back at once or the operation is refused.
* `Passes` — what one operation can do to the source: nothing, learn that no id is left, draw the
  next id, or pass over an id that was chosen. `perform_passes` says so of every operation.
* `fresh_ids_above` — what a run makes of that.
-/

namespace WorkPool

/-- Whether a datum is to get a fresh id, and nothing else speaks against making it. -/
def Spec.draws (spec : Spec) : Bool :=
  spec.id == nullId && spec.writers != 0 && (Content.ofSpec spec).isOk

theorem Spec.draws_eq_true {spec : Spec} (h : spec.draws = true) :
    spec.id = nullId ∧ spec.writers ≠ 0 ∧ ∃ content, Content.ofSpec spec = .ok content := by
  simp only [Spec.draws, Bool.and_eq_true, beq_iff_eq, bne_iff_ne] at h
  obtain ⟨⟨null, writers⟩, valid⟩ := h
  refine ⟨null, writers, ?_⟩
  cases found : Content.ofSpec spec with
  | error e =>
    rw [found] at valid
    cases valid
  | ok content => exact ⟨content, rfl⟩

theorem Spec.draws_of_ofSpec {spec : Spec} {content : Content} (null : spec.id = nullId)
    (writers : spec.writers ≠ 0) (valid : Content.ofSpec spec = .ok content) :
    spec.draws = true := by
  simp [Spec.draws, null, writers, valid, Except.isOk, Except.toBool]

namespace Shard

variable {s s' : Shard} {id : DatumId} {d : Datum}

/-! ## What an operation does to the source -/

/-- What an operation is to make a datum of: what it was asked for, or a container that is neither
live nor retired. -/
def spec? (s : Shard) : Operation → Option Spec
  | .create spec => some spec
  | .insert id _ _ _ | .reserve id _ =>
    if s.data.contains id || s.retired.contains id then none else some (.container id .string)
  | _ => none

/-- Whether an operation asks the source for an id. -/
def draws (s : Shard) : Operation → Bool
  | .unique => true
  | op => (s.spec? op).any Spec.draws

/-- The id that the source hands out to whoever asks, if there is one left. -/
def nextFresh (s : Shard) : List DatumId :=
  match s.ids.allocate with
  | .ok (_, answer) => handedOut answer
  | .error _ => []

/-- The id that an operation gets from the source. -/
def drawn (s : Shard) (op : Operation) : List DatumId := if s.draws op then s.nextFresh else []

/-- The id under which an operation makes a datum. -/
def makes (s : Shard) (op : Operation) : List DatumId :=
  match s.spec? op with
  | some spec =>
    match s.create spec with
    | .ok o => handedOut o.result
    | .error _ => []
  | none => []

/-- What can become of the source: given whether it was asked for an id, which data were made, what
it is afterwards, and whether it was said that no id is left. -/
inductive Passes (s : Shard) : Bool → List DatumId → IdSource → Bool → Prop where
  /-- ids play no part -/
  | aside : Passes s false [] s.ids false
  /-- there was no id left -/
  | spent (none_left : s.ids.limit < s.ids.next) : Passes s true [] s.ids true
  /-- the next id was handed out -/
  | drew {ids : IdSource} {made : List DatumId} (fresh : s.ids.allocate = .ok (ids, .ok s.ids.next))
    (next : ∀ i ∈ made, i = s.ids.next) : Passes s true made ids false
  /-- an id was chosen, and is passed over -/
  | chose {ids : IdSource} {id : DatumId} {made : List DatumId}
    (skipped : s.ids.reserve id = .ok ids)
    (chosen : ∀ i ∈ made, i = id) : Passes s false made ids false

section Passes

variable {op : Operation} {rank : Rank} {spec : Spec} {content : Content}

/-- Content that is taken up, or not, is under the id that was found for it. -/
theorem takeUp_passes {o : Outcome DatumId} (h : s.takeUp id content spec = .ok o) :
    o.shard.ids = s.ids ∧ saysSpent o.result = false ∧ ∀ i ∈ handedOut o.result, i = id := by
  obtain ⟨⟨memory, granted⟩, hgranted, h⟩ := bind_eq_ok h
  cases granted with
  | error e =>
    cases h
    exact ⟨rfl, MemoryBudget.isSpent_of_allocate hgranted, fun _ none_made => nomatch none_made⟩
  | ok =>
    cases h
    exact ⟨rfl, rfl, fun _ made => List.mem_singleton.1 made⟩

/-- **A creation** and the source, whether an id was asked for or not. -/
theorem create_passes {o : Outcome DatumId} (hn : s.Numbered) (h : s.create spec = .ok o) :
    Passes s spec.draws (handedOut o.result) o.shard.ids (saysSpent o.result) := by
  have unasked (failed : ¬ spec.draws = true) : spec.draws = false := by simpa using failed
  rw [create] at h
  split at h
  · rename_i unwritten
    cases h
    rw [unasked fun draws => (Spec.draws_eq_true draws).2.1 unwritten]
    exact .aside
  rename_i writers
  split at h
  · rename_i e invalid
    cases h
    have unsaid := saysSpent_ofSpec spec
    rw [invalid] at unsaid
    have undrawn : ¬ spec.draws = true := by
      intro draws
      obtain ⟨-, -, content, valid⟩ := Spec.draws_eq_true draws
      rw [invalid] at valid
      cases valid
    change Passes s spec.draws [] s.ids e.isSpent
    rw [unasked undrawn, show e.isSpent = false from unsaid]
    exact .aside
  rename_i content valid
  split at h
  · rename_i null
    rw [Spec.draws_of_ofSpec null writers valid]
    by_cases none_left : s.ids.limit < s.ids.next
    · rw [IdSource.allocate_spent none_left] at h
      cases h
      exact .spent none_left
    · obtain ⟨ids, fresh⟩ := IdSource.allocate_of_unspent hn.upward none_left
      rw [fresh] at h
      obtain ⟨same, unsaid, made⟩ := takeUp_passes h
      rw [same, unsaid]
      exact .drew fresh made
  rename_i chosen
  rw [unasked fun draws => chosen (Spec.draws_eq_true draws).1]
  split at h
  · cases h
    exact .aside
  split at h
  · cases h
    exact .aside
  obtain ⟨ids, skipped, h⟩ := bind_eq_ok h
  obtain ⟨same, unsaid, made⟩ := takeUp_passes h
  rw [same, unsaid]
  exact .chose skipped made

/-- **An operation on a container** leaves the source to the creation that comes first, if there is
need for one. -/
theorem onContainer_passes {α : Type} {act : Shard → Except Fault (Outcome α)} {o : Outcome α}
    (hact : ∀ s o, act s = .ok o → Aside s o) (h : s.onContainer id act = .ok o) :
    ((s.data.contains id || s.retired.contains id) = true ∧ Aside s o) ∨
    ((s.data.contains id || s.retired.contains id) = false ∧
      ∃ first, s.create (.container id .string) = .ok first ∧
        o.shard.ids = first.shard.ids ∧ saysSpent o.result = saysSpent first.result) := by
  obtain ⟨ready, hready, h⟩ := bind_eq_ok h
  rw [ensureContainer] at hready
  split at hready
  · rename_i there
    cases hready
    obtain ⟨o₁, ho₁, h⟩ := bind_eq_ok h
    have same : o = o₁ := by
      split at h
      · cases h
        rfl
      · cases h
        rfl
    exact .inl ⟨by rw [there, Bool.true_or], same ▸ hact s o₁ ho₁⟩
  rename_i absent
  split at hready
  · rename_i retired
    cases hready
    cases h
    exact .inl ⟨by rw [retired, Bool.or_true], rfl, rfl⟩
  rename_i unused
  refine .inr ⟨by rw [Bool.eq_false_iff.2 absent, Bool.eq_false_iff.2 unused]; rfl, ?_⟩
  obtain ⟨first, hfirst, hready⟩ := bind_eq_ok hready
  cases hready
  refine ⟨first, hfirst, ?_⟩
  obtain ⟨shard, result, effects⟩ := first
  cases result with
  | error e =>
    cases h
    exact ⟨rfl, rfl⟩
  | ok made =>
    obtain ⟨o₁, ho₁, h⟩ := bind_eq_ok h
    have aside := hact _ o₁ ho₁
    split at h
    · cases h
      exact ⟨aside.ids, aside.unsaid⟩
    · obtain ⟨left, hleft, h⟩ := bind_eq_ok h
      cases h
      exact ⟨(ids_discard hleft).trans aside.ids, aside.unsaid⟩

/-- What an operation does, given what it is to make a datum of. -/
theorem passes_of_create {o : Outcome Reply} {first : Outcome DatumId} (hn : s.Numbered)
    (wanted : s.spec? op = some spec) (asked : s.draws op = spec.draws)
    (created : s.create spec = .ok first) (ids : o.shard.ids = first.shard.ids)
    (said : saysSpent o.result = saysSpent first.result) :
    Passes s (s.draws op) (s.makes op) o.shard.ids (saysSpent o.result) := by
  have made : s.makes op = handedOut first.result := by simp only [makes, wanted, created]
  rw [asked, made, ids, said]
  exact create_passes hn created

theorem Aside.passes {o : Outcome Reply} (h : Aside s o) (asked : s.draws op = false)
    (wanted : s.makes op = []) :
    Passes s (s.draws op) (s.makes op) o.shard.ids (saysSpent o.result) := by
  rw [asked, wanted, h.ids, h.unsaid]
  exact .aside

/-- The operations that make their container first. -/
theorem entry_passes {α : Type} {act : Shard → Except Fault (Outcome α)} {o : Outcome α}
    {f : α → Reply} (hn : s.Numbered) (hact : ∀ s o, act s = .ok o → Aside s o)
    (wanted : s.spec? op = if s.data.contains id || s.retired.contains id then none
      else some (.container id .string))
    (asked : s.draws op = (s.spec? op).any Spec.draws) (h : s.onContainer id act = .ok o) :
    Passes s (s.draws op) (s.makes op) (o.map f).shard.ids (saysSpent (o.map f).result) := by
  rcases onContainer_passes hact h with ⟨known, aside⟩ | ⟨unknown, first, created, ids, said⟩
  · rw [known, if_pos rfl] at wanted
    apply (aside.map f).passes
    · rw [asked, wanted]
      rfl
    · simp only [makes, wanted]
  · rw [unknown, if_neg Bool.false_ne_true] at wanted
    refine passes_of_create hn wanted ?_ created ids ((saysSpent_map f _).trans said)
    rw [asked, wanted]
    rfl

/-- **Every operation** and the source. -/
theorem perform_passes {o : Outcome Reply} (hn : s.Numbered) (h : s.perform rank op = .ok o) :
    Passes s (s.draws op) (s.makes op) o.shard.ids (saysSpent o.result) := by
  cases op with
  | create spec =>
    obtain ⟨o, created, h⟩ := bind_eq_ok h
    cases h
    exact passes_of_create hn rfl rfl created rfl (saysSpent_map _ _)
  | unique =>
    obtain ⟨o, ho, h⟩ := bind_eq_ok h
    cases h
    obtain ⟨⟨ids, answer⟩, fresh, ho⟩ := bind_eq_ok ho
    cases ho
    by_cases none_left : s.ids.limit < s.ids.next
    · cases fresh.symm.trans (IdSource.allocate_spent none_left)
      exact .spent none_left
    · obtain ⟨ids', fresh'⟩ := IdSource.allocate_of_unspent hn.upward none_left
      cases fresh.symm.trans fresh'
      exact .drew fresh fun _ none_made => nomatch none_made
  | insert id subscript member drops =>
    obtain ⟨o, ho, h⟩ := bind_eq_ok h
    cases h
    exact entry_passes hn (fun _ _ => insertMember_aside) rfl rfl ho
  | reserve id subscript =>
    obtain ⟨o, ho, h⟩ := bind_eq_ok h
    cases h
    exact entry_passes hn (fun _ _ => reserveSubscript_aside) rfl rfl ho
  | store id value drops =>
    obtain ⟨o, ho, h⟩ := bind_eq_ok h
    cases h
    exact ((store_aside ho).map _).passes rfl rfl
  | storeBytes id bytes drops =>
    obtain ⟨o, ho, h⟩ := bind_eq_ok h
    cases h
    exact ((storeBytes_aside ho).map _).passes rfl rfl
  | addWriters id count =>
    obtain ⟨o, ho, h⟩ := bind_eq_ok h
    cases h
    exact ((addWriters_aside ho).map _).passes rfl rfl
  | dropWriters id count =>
    obtain ⟨o, ho, h⟩ := bind_eq_ok h
    cases h
    exact ((dropWriters_aside ho).map _).passes rfl rfl
  | addReaders id count =>
    obtain ⟨o, ho, h⟩ := bind_eq_ok h
    cases h
    exact ((addReaders_aside ho).map _).passes rfl rfl
  | dropReaders id count =>
    cases h
    exact ((dropReaders_aside s id count).map _).passes rfl rfl
  | subscribe id key token =>
    cases h
    exact ((subscribe_aside s id key rank token).map _).passes rfl rfl
  | refer id subscript reference token =>
    cases h
    exact ((refer_aside s id subscript reference rank token).map _).passes rfl rfl
  | close id =>
    cases h
    exact ((close_aside s id).map _).passes rfl rfl
  | lock id =>
    cases h
    exact ((lock_aside s id rank).map _).passes rfl rfl
  | unlock id =>
    cases h
    exact ((unlock_aside s id rank).map _).passes rfl rfl
  | has id key =>
    cases h
    exact ((aside_inspect (saysSpent_has s id key)).map _).passes rfl rfl
  | retrieve id acceptOpen =>
    cases h
    exact ((aside_inspect (saysSpent_retrieve s id acceptOpen)).map _).passes rfl rfl
  | kindOf id =>
    cases h
    exact ((aside_inspect (saysSpent_live s id)).map _).passes rfl rfl
  | enumerate id | lookup id | subscriptKindOf id | sizeOf id =>
    cases h
    exact ((aside_inspect (saysSpent_containerAt s id _)).map _).passes rfl rfl

end Passes

section Passes

variable {asked said : Bool} {made : List DatumId} {ids : IdSource}

theorem nextFresh_of_spent (spent : s.ids.limit < s.ids.next) : s.nextFresh = [] := by
  simp only [nextFresh, IdSource.allocate_spent spent, handedOut]

theorem nextFresh_of_allocate {id : DatumId} (h : s.ids.allocate = .ok (ids, .ok id)) :
    s.nextFresh = [id] := by
  simp only [nextFresh, h, handedOut]

theorem Passes.onward (h : Passes s asked made ids said) (hs : s.ids.Upward) :
    s.ids.Onward ids := by
  cases h with
  | aside => exact .refl _
  | spent none_left => exact .refl _
  | drew fresh next =>
    obtain ⟨upward, passed, -⟩ := IdSource.passed_allocate hs fresh
    exact ⟨fun _ => upward, passed⟩
  | chose skipped chosen =>
    obtain ⟨upward, passed, -⟩ := IdSource.passed_reserve hs skipped
    exact ⟨fun _ => upward, passed⟩

theorem Passes.bounded {limit : DatumId} (h : Passes s asked made ids said) (hs : s.ids.Upward)
    (hb : s.ids.Bounded limit) : ids.Bounded limit := by
  cases h with
  | aside => exact hb
  | spent none_left => exact hb
  | drew fresh next => exact hb.allocate hs fresh
  | chose skipped chosen => exact hb.reserve hs skipped

/-- The source counts what it hands out. -/
theorem Passes.issued (h : Passes s asked made ids said) :
    ids.issued = s.ids.issued + (if asked then s.nextFresh else []).length := by
  cases h with
  | aside => rfl
  | spent none_left =>
    rw [nextFresh_of_spent none_left]
    rfl
  | drew fresh next =>
    rw [nextFresh_of_allocate fresh]
    exact IdSource.issued_allocate fresh
  | chose skipped chosen => exact IdSource.issued_reserve skipped

/-- What is handed out or made is passed from then on. -/
theorem Passes.passed (h : Passes s asked made ids said) (hs : s.ids.Upward) {i : DatumId}
    (used : i ∈ (if asked then s.nextFresh else []) ∨ i ∈ made) : ids.Passed i := by
  cases h with
  | aside => rcases used with used | used <;> cases used
  | spent none_left => exact .inl none_left
  | drew fresh next =>
    rw [nextFresh_of_allocate fresh] at used
    obtain rfl : i = s.ids.next := used.elim List.mem_singleton.1 (next i)
    exact ((IdSource.passed_allocate hs fresh).2.2 _ rfl).2
  | chose skipped chosen =>
    rcases used with used | used
    · cases used
    · rw [chosen i used]
      exact (IdSource.passed_reserve hs skipped).2.2

theorem Passes.spent_of_said (h : Passes s asked made ids said) (told : said = true) :
    ids.limit < ids.next := by
  cases h with
  | spent none_left => exact none_left
  | aside | drew | chose => cases told

end Passes

/-! ## Once no id is left -/

section Spent

variable {rank : Rank} {op : Operation}

theorem create_spent {spec : Spec} (spent : s.ids.limit < s.ids.next) (draws : spec.draws = true) :
    s.create spec =
      .ok (s.refuse (.resource "datum_ids" (s.ids.issued + 1) s.ids.issued)) := by
  obtain ⟨null, writers, content, valid⟩ := Spec.draws_eq_true draws
  simp only [create, if_neg writers, valid, if_pos null, IdSource.allocate_spent spent]
  rfl

theorem onContainer_spent {α : Type} {act : Shard → Except Fault (Outcome α)}
    (spent : s.ids.limit < s.ids.next)
    (draws : (if s.data.contains id || s.retired.contains id then none
      else some (Spec.container id .string)).any Spec.draws = true) :
    s.onContainer id act =
      .ok (s.refuse (.resource "datum_ids" (s.ids.issued + 1) s.ids.issued)) := by
  split at draws
  · cases draws
  · rename_i unknown
    rw [Bool.or_eq_true, not_or] at unknown
    simp only [onContainer, ensureContainer, if_neg unknown.1, if_neg unknown.2,
      create_spent spent draws]
    rfl

/-- Whoever asks for an id is told that there is none. -/
theorem perform_spent (spent : s.ids.limit < s.ids.next) (rank : Rank)
    (draws : s.draws op = true) : s.perform rank op =
      .ok (s.refuse (.resource "datum_ids" (s.ids.issued + 1) s.ids.issued)) := by
  cases op with
  | unique =>
    simp only [perform, unique, IdSource.allocate_spent spent]
    rfl
  | create spec =>
    simp only [perform, create_spent spent draws]
    rfl
  | insert id subscript member drops =>
    simp only [perform, insert, onContainer_spent spent draws]
    rfl
  | reserve id subscript =>
    simp only [perform, reserve, onContainer_spent spent draws]
    rfl
  | _ => cases draws

end Spent

/-! ## Every run -/

section Run

variable {past : List Asked} {rank : Rank} {op : Operation} {o : Outcome Reply} {limit : DatumId}

/-- The ids that a run got from the source, oldest first. -/
def idsDrawn (past : List Asked) : List DatumId := past.flatMap fun a => a.shard.drawn a.op

/-- The ids under which a run made data, oldest first. -/
def idsMade (past : List Asked) : List DatumId := past.flatMap fun a => a.shard.makes a.op

/-- What is known of the source in the course of a run. -/
structure Sourced (limit : DatumId) (s : Shard) (past : List Asked) : Prop where
  /-- there is an end to the ids -/
  bounded : s.ids.Bounded limit
  /-- the source has counted what it handed out -/
  issued : s.ids.issued = (idsDrawn past).length
  /-- it will hand out none that was used -/
  passed : ∀ i, i ∈ idsDrawn past ∨ i ∈ idsMade past → s.ids.Passed i
  /-- if it was said that no id is left, there is none -/
  spent : ∀ a ∈ past, saysSpent a.answer = true → s.ids.limit < s.ids.next

theorem sourced_new (index : UInt64) (settings : Settings) :
    Sourced settings.idLimit (Shard.new index settings) [] where
  bounded := .inl rfl
  issued := rfl
  passed _ used := nomatch used
  spent _ ever := nomatch ever

/-- **One operation** keeps it. -/
theorem Sourced.perform (h : Sourced limit s past) (hn : s.Numbered)
    (ho : s.perform rank op = .ok o) :
    Sourced limit o.shard (past ++ [⟨⟨rank, op, o.result⟩, s⟩]) := by
  have passes := perform_passes hn ho
  have onward := passes.onward hn.upward
  have drawn : idsDrawn (past ++ [⟨⟨rank, op, o.result⟩, s⟩]) = idsDrawn past ++ s.drawn op := by
    simp [idsDrawn]
  have made : idsMade (past ++ [⟨⟨rank, op, o.result⟩, s⟩]) = idsMade past ++ s.makes op := by
    simp [idsMade]
  refine ⟨passes.bounded hn.upward h.bounded, ?_, ?_, ?_⟩
  · rw [drawn, List.length_append, passes.issued, h.issued]
    rfl
  · intro i used
    rw [drawn, made, List.mem_append, List.mem_append] at used
    rcases used with (before | now) | before | now
    · exact onward.passed i (h.passed i (.inl before))
    · exact passes.passed hn.upward (.inl now)
    · exact onward.passed i (h.passed i (.inr before))
    · exact passes.passed hn.upward (.inr now)
  · intro a ha said
    rcases List.mem_append.1 ha with before | now
    · exact onward.spent (h.spent a before said)
    · rw [List.mem_singleton.1 now] at said
      exact passes.spent_of_said said

/-- Whoever asked for a fresh id and got one got the next. -/
theorem next_of_answer {id : DatumId} (hn : s.Numbered)
    (asks : op = .unique ∨ ∃ spec, op = .create spec ∧ spec.id = nullId)
    (ho : s.perform rank op = .ok o) (result : o.result = .ok (.id id)) :
    s.draws op = true ∧ ¬ s.ids.limit < s.ids.next ∧ id = s.ids.next := by
  rcases asks with rfl | ⟨spec, rfl, null⟩
  · obtain ⟨o₁, hunique, ho⟩ := bind_eq_ok ho
    cases ho
    obtain ⟨⟨ids, answer⟩, fresh, hunique⟩ := bind_eq_ok hunique
    cases hunique
    obtain ⟨j, rfl, e⟩ := map_eq_ok result
    cases e
    exact ⟨rfl, IdSource.allocate_eq_ok fresh⟩
  · obtain ⟨o₁, hcreate, ho⟩ := bind_eq_ok ho
    cases ho
    obtain ⟨j, answered, e⟩ := map_eq_ok result
    cases e
    have created := (create_created hn hcreate).1
    rw [answered] at created
    generalize o₁.shard = s' at created
    cases created with
    | made making =>
      exact ⟨Spec.draws_of_ofSpec null making.writers making.ofSpec, making.next null⟩

end Run

/-- **Fresh ids lie above all others.** After every run of a new shard, with the ids that the run
drew from the source, as many as the source has counted, and the ids under which it made data,
whether they are live, collected or were taken back,

* an id that is handed out, or given to a datum that names none, is positive, within the limit that
  was set, and above all ids that were drawn and all under which data were made;
* if anybody was told that no id is left, then whoever asks for one is told so. -/
theorem fresh_ids_above {s : Shard} {log : WaitLog} (index : UInt64) (settings : Settings)
    (hi : index < settings.servers) (hn : (settings.servers.toNat : Int) ≤ topId)
    (calls : List ShardCall) (hrun : (Shard.new index settings).run {} calls = .ok (s, log)) :
    (idsDrawn ((Shard.new index settings).history calls)).length = s.ids.issued ∧
    (∀ rank op o id, op = .unique ∨ (∃ spec, op = .create spec ∧ spec.id = nullId) →
      s.perform rank op = .ok o → o.result = .ok (.id id) →
        s.drawn op = [id] ∧ 0 < id ∧ id ≤ settings.idLimit ∧
        (∀ i ∈ idsDrawn ((Shard.new index settings).history calls), i < id) ∧
        ∀ i ∈ idsMade ((Shard.new index settings).history calls), i < id) ∧
    ((∃ a ∈ (Shard.new index settings).history calls, saysSpent a.answer = true) →
      ∀ rank op, s.draws op = true → s.perform rank op =
        .ok (s.refuse (.resource "datum_ids" (s.ids.issued + 1) s.ids.issued))) := by
  obtain ⟨reached, sourced⟩ := history_induction [] (P := Sourced settings.idLimit)
    (fun _ _ _ _ _ reached sourced ho => sourced.perform reached.lives.numbered ho)
    (fun _ _ sourced => ⟨sourced.bounded, sourced.issued, sourced.passed, sourced.spent⟩)
    (Reached.new hi hn) (sourced_new index settings) hrun
  rw [List.nil_append] at sourced
  have numbered := reached.lives.numbered
  refine ⟨sourced.issued.symm, ?_, ?_⟩
  · intro rank op o id asks ho result
    obtain ⟨draws, unspent, rfl⟩ := next_of_answer numbered asks ho result
    obtain ⟨ids, fresh⟩ := IdSource.allocate_of_unspent numbered.upward unspent
    have positive : 0 < s.ids.next := Int64.lt_iff_toInt_lt.2 numbered.upward.next
    refine ⟨?_, positive, sourced.bounded.next_le unspent, ?_, ?_⟩
    · rw [drawn, if_pos draws, nextFresh_of_allocate fresh]
    · intro i drawn
      exact (sourced.passed i (.inl drawn)).resolve_left unspent
    · intro i made
      exact (sourced.passed i (.inr made)).resolve_left unspent
  · rintro ⟨a, ha, said⟩ rank op draws
    exact perform_spent (sourced.spent a ha said) rank draws

/-- An id is drawn, another one is chosen, and a container is made for a write and taken back. -/
def useIds : List ShardCall :=
  [.perform 0 .unique, .perform 0 (.create (.container 5 .string)),
    .perform 1 (.insert 9 "a" [1] 2)]

/-- The last two ids are handed out, and one more is asked for. -/
def useUpIds : List ShardCall :=
  useIds ++ [.perform 0 .unique, .perform 0 .unique, .perform 0 .unique]

/-- With thirteen as the limit, the id after those three is eleven, and when the ids have run out
not even a write to the null id gets one. -/
theorem fresh_ids_above_limited :
    (∃ s log o, (Shard.new 1 { servers := 2, idLimit := 13 }).run {} useIds = .ok (s, log) ∧
      s.perform 0 (.create (.container nullId .string)) = .ok o ∧ o.result = .ok (.id 11) ∧
      idsDrawn ((Shard.new 1 { servers := 2, idLimit := 13 }).history useIds) = [1] ∧
      idsMade ((Shard.new 1 { servers := 2, idLimit := 13 }).history useIds) = [5, 9] ∧
      (∀ i ∈ idsDrawn ((Shard.new 1 { servers := 2, idLimit := 13 }).history useIds), i < 11) ∧
      ∀ i ∈ idsMade ((Shard.new 1 { servers := 2, idLimit := 13 }).history useIds), i < 11) ∧
    ∃ s log, (Shard.new 1 { servers := 2, idLimit := 13 }).run {} useUpIds = .ok (s, log) ∧
      (∃ a ∈ (Shard.new 1 { servers := 2, idLimit := 13 }).history useUpIds,
        saysSpent a.answer = true) ∧
      s.perform 1 (.insert nullId "a" [1] 0) = .ok (s.refuse (.resource "datum_ids" 4 3)) := by
  constructor
  · have ran : Except.toOption (do
        let ended ← (Shard.new 1 { servers := 2, idLimit := 13 }).run {} useIds
        let made ← ended.1.perform 0 (.create (.container nullId .string))
        return made.result.toOption) = some (some (.id 11)) := by decide +kernel
    obtain ⟨⟨s, log⟩, hrun, ran⟩ := bind_eq_ok (eq_ok_of_toOption ran)
    obtain ⟨o, ho, ran⟩ := bind_eq_ok ran
    have result := eq_ok_of_toOption (Except.ok.inj ran)
    obtain ⟨-, fresh, -⟩ := fresh_ids_above 1 { servers := 2, idLimit := 13 } (by decide)
      (by decide) useIds hrun
    obtain ⟨-, -, -, drawn, made⟩ := fresh 0 _ o 11 (.inr ⟨_, rfl, rfl⟩) ho result
    exact ⟨s, log, o, hrun, ho, result, by decide +kernel, by decide +kernel, drawn, made⟩
  · have ran : Except.toOption (do
        let ended ← (Shard.new 1 { servers := 2, idLimit := 13 }).run {} useUpIds
        return (ended.1.draws (.insert nullId "a" [1] 0), ended.1.ids.issued)) =
        some (true, 3) := by decide +kernel
    obtain ⟨⟨s, log⟩, hrun, ran⟩ := bind_eq_ok (eq_ok_of_toOption ran)
    obtain ⟨draws, issued⟩ := Prod.mk.inj (Except.ok.inj ran)
    have said : ∃ a ∈ (Shard.new 1 { servers := 2, idLimit := 13 }).history useUpIds,
        saysSpent a.answer = true := by
      rw [← List.any_eq_true]
      decide +kernel
    obtain ⟨-, -, spent⟩ := fresh_ids_above 1 { servers := 2, idLimit := 13 } (by decide)
      (by decide) useUpIds hrun
    have refused := spent said 1 _ draws
    simp only at issued
    rw [issued] at refused
    exact ⟨s, log, hrun, said, refused⟩

end Shard

end WorkPool
