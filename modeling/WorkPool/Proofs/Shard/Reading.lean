import WorkPool.Proofs.Listing
import WorkPool.Proofs.Shard.Reservations

/-!
# All ways to read a container agree

A container can be read member by member, counted, read page by page or as a whole. Main
statement: all of these show the listing that `enumerate` gives from the start, and who is shown
reservations as well is shown those that were granted and not written to since.

One member and the size are read from the slots of a container, listings from its order. That they
agree rests on `Container.Aligned`, which every write keeps (`Books`).

Which subscripts are written and which are only reserved is known from two sides: from the
container, and from the record of what was asked and answered. `Inscribed` is the invariant that
joins them; it stands beside `Elected`, which does the same for all entries.
-/

namespace WorkPool

namespace Answered

/-- Whether an operation has written a member. -/
def writes (a : Answered) (id : DatumId) (subscript : String) : Bool :=
  match a.op, a.answer with
  | .insert j k _ _, .ok _ => j == id && k == subscript
  | _, _ => false

variable {a : Answered} {id : DatumId} {subscript : String}

theorem insert_of_writes (h : a.writes id subscript = true) :
    ∃ member drops reply, a.op = .insert id subscript member drops ∧ a.answer = .ok reply := by
  unfold writes at h
  split at h
  · rename_i op answer
    simp only [Bool.and_eq_true, beq_iff_eq] at h
    rw [op, h.1, h.2]
    exact ⟨_, _, _, rfl, answer⟩
  · cases h

/-- Who has taken a subscript has written to it or won it. -/
theorem wins_of_takes (h : a.takes id subscript = true)
    (unwritten : a.writes id subscript = false) : a.wins id subscript = true := by
  unfold takes at h
  split at h
  · rename_i op answer
    rw [writes, op, answer] at unwritten
    cases unwritten.symm.trans h
  · rename_i op answer
    rw [wins, op, answer]
    exact h
  · cases h

end Answered

/-- A container that something is entered into has the members of the one that was there. -/
theorem Content.lookup_entered {before : Option Content} {subscript : String}
    (h : ((entered before).lookup subscript).isSome = true) :
    ∃ c, before = some (.container c) ∧ (c.lookup subscript).isSome = true := by
  cases before with
  | none => cases h
  | some content =>
    cases content with
    | container c => exact ⟨c, rfl, h⟩
    | _ => cases h

namespace Shard

variable {s s' : Shard} {id : DatumId} {subscript : String} {op : Operation} {rank : Rank}
  {o : Outcome Reply} {c : Container} {d : Datum}

/-! ## Who writes a member -/

/-- A live container has a member for a subscript. -/
def HasMember (s : Shard) (id : DatumId) (subscript : String) : Prop :=
  s.HoldsAt id fun c => (c.lookup subscript).isSome = true

/-- A member stays, or its container is collected. -/
theorem HasMember.changes (changes : Changes s s')
    (h : s.HasMember id subscript ∨ id ∈ s.retired) :
    s'.HasMember id subscript ∨ id ∈ s'.retired := by
  refine HoldsAt.changes ?_ ?_ changes h
  · intro c k m there
    by_cases same : subscript = k
    · rw [same, c.lookup_write_self]
      rfl
    · rw [c.lookup_write_ne same]
      exact there
  · intro c k there
    rw [c.lookup_hold]
    exact there

/-- A member comes from before, or was written by the operation. -/
theorem Becomes.member (h : Becomes s op o id) (rank : Rank)
    (there : o.shard.HasMember id subscript) :
    s.HasMember id subscript ∨ Answered.writes ⟨rank, op, o.result⟩ id subscript = true := by
  obtain ⟨c, holds, member⟩ := there
  cases h with
  | told same =>
    rw [same] at holds
    rcases Operation.container_of_after holds with before | ⟨kind, rfl⟩ |
      ⟨k, m, drops, reply, rfl, result, rfl⟩ | ⟨k, reply, rfl, result, rfl⟩
    · exact .inl ⟨c, before, member⟩
    · cases member
    · by_cases key : subscript = k
      · refine .inr ?_
        simp [Answered.writes, result, key]
      · rw [Container.lookup_write_ne _ key] at member
        exact .inl (Content.lookup_entered member)
    · rw [Container.lookup_hold] at member
      exact .inl (Content.lookup_entered member)
  | collected gone retired =>
    rw [gone] at holds
    cases holds
  | leftBehind null refused absent empty =>
    rw [empty] at holds
    cases holds
    cases member

/-- What was written is there, unless the container was collected. -/
theorem Becomes.written {member : Bytes} {drops : UInt32} {reply : Reply}
    (h : Becomes s (.insert id subscript member drops) o id) (result : o.result = .ok reply) :
    o.shard.HasMember id subscript ∨ id ∈ o.shard.retired := by
  cases h with
  | told same =>
    rw [result] at same
    refine .inl ⟨_, same.trans (if_pos rfl), Option.isSome_iff_exists.2 ?_⟩
    exact ⟨member, Container.lookup_write_self _ _ _⟩
  | collected gone retired => exact .inr retired
  | leftBehind null refused absent empty => cases refused.symm.trans result

/-- What is written was written by somebody, and stays. -/
structure Inscribed (s : Shard) (past : List Answered) : Prop where
  /-- a member was written by somebody -/
  written : ∀ id subscript, s.HasMember id subscript → ∃ a ∈ past, a.writes id subscript = true
  /-- what was written is there, unless the container was collected -/
  kept : ∀ a ∈ past, ∀ id subscript, a.writes id subscript = true →
    s.HasMember id subscript ∨ id ∈ s.retired

variable {past : List Answered}

theorem inscribed_new (index : UInt64) (settings : Settings) :
    Inscribed (Shard.new index settings) [] := by
  refine ⟨?_, fun _ past => nomatch past⟩
  rintro id subscript ⟨c, holds, -⟩
  rw [contentAt_of_none rfl] at holds
  cases holds

/-- **One operation** keeps it. -/
theorem Inscribed.perform (h : Inscribed s past) (reached : Reached s)
    (ho : s.perform rank op = .ok o) : Inscribed o.shard (past ++ [⟨rank, op, o.result⟩]) where
  written id subscript there := by
    have becomes := perform_becomes reached.lives.numbered reached.free ho id
    rcases becomes.member rank there with before | now
    · obtain ⟨a, ha, writes⟩ := h.written id subscript before
      exact ⟨a, List.mem_append_left _ ha, writes⟩
    · exact ⟨_, List.mem_append_right _ List.mem_cons_self, now⟩
  kept a ha id subscript writes := by
    rcases List.mem_append.1 ha with before | now
    · exact HasMember.changes (perform_changes reached.waits reached.lives.numbered ho)
        (h.kept a before id subscript writes)
    · rw [List.mem_singleton.1 now] at writes
      obtain ⟨member, drops, reply, rfl, result⟩ := Answered.insert_of_writes writes
      exact (perform_becomes reached.lives.numbered reached.free ho id).written result

/-! ## What a reader is told -/

section Readers

theorem perform_enumerate (holds : s.contentAt id = some (.container c)) (rank : Rank)
    (offset : UInt64) (count : Option UInt64) :
    s.perform rank (.enumerate id offset count) = .ok (s.inspect (.ok (.records
      (c.page offset.toNat (count.map UInt64.toNat))))) := by
  rw [perform, containerAt_eq, holds]
  rfl

theorem perform_lookup (holds : s.contentAt id = some (.container c)) (rank : Rank)
    (subscript : String) : s.perform rank (.lookup id subscript) =
      .ok (s.inspect (.ok (.member (c.lookup subscript)))) := by
  rw [perform, containerAt_eq, holds]
  rfl

theorem perform_sizeOf (holds : s.contentAt id = some (.container c)) (rank : Rank) :
    s.perform rank (.sizeOf id) = .ok (s.inspect (.ok (.size (UInt64.ofNat c.size)))) := by
  rw [perform, containerAt_eq, holds]
  rfl

theorem perform_has (holds : s.contentAt id = some (.container c)) (rank : Rank)
    (subscript : String) : s.perform rank (.has id (some subscript)) =
      .ok (s.inspect (.ok (.flag (c.lookup subscript).isSome))) := by
  rw [perform, has_eq, containerAt_eq, holds]
  rfl

/-- Reservations are shown of open containers only, and only if the settings say so. -/
theorem perform_retrieve {acceptOpen : Bool} (live : s.data.find? id = some d)
    (container : d.content = .container c) (rank : Rank)
    (readable : d.closed = true ∨ acceptOpen = true) :
    s.perform rank (.retrieve id acceptOpen) = .ok (s.inspect (.ok (.value (.container
      (c.shown (!d.closed && decide (s.openRead = .live))))))) := by
  have found : s.live id = .ok d := by rw [Shard.live, live]
  simp only [perform, retrieve, found, bind, Except.bind, container]
  cases closed : d.closed with
  | true => rfl
  | false =>
    rw [closed] at readable
    obtain rfl : acceptOpen = true := readable.resolve_left Bool.false_ne_true
    rfl

end Readers

/-! ## Page by page -/

/-- A page of a container, as who asks for it is told. -/
def listing (s : Shard) (rank : Rank) (id : DatumId) (offset : UInt64) (count : Option UInt64) :
    List (String × Bytes) :=
  match s.perform rank (.enumerate id offset count) with
  | .ok o =>
    match o.result with
    | .ok (.records page) => page
    | _ => []
  | .error _ => []

/-- What is read of a container page by page, each page from where the last one ended. The shard may
be another one for each page. -/
def scan (rank : Rank) (id : DatumId) :
    UInt64 → List (Shard × Option UInt64) → List (String × Bytes)
  | _, [] => []
  | offset, (s, count) :: later =>
    let page := s.listing rank id offset count
    page ++ scan rank id (offset + UInt64.ofNat page.length) later

theorem listing_eq (holds : s.contentAt id = some (.container c)) (rank : Rank) (offset : UInt64)
    (count : Option UInt64) :
    s.listing rank id offset count = c.page offset.toNat (count.map UInt64.toNat) := by
  rw [listing, perform_enumerate holds]
  rfl

/-- The offset after a page is the sum, since a container has no more entries than a word counts. -/
theorem toNat_offset_add {offset : UInt64} {page : List (String × Bytes)}
    (fits : offset.toNat + page.length < UInt64.size) :
    (offset + UInt64.ofNat page.length).toNat = offset.toNat + page.length := by
  have small : (UInt64.ofNat page.length).toNat = page.length :=
    UInt64.toNat_ofNat_of_lt' (by omega)
  rw [UInt64.toNat_add, small]
  exact Nat.mod_eq_of_lt fits

/-- Whoever reads pages of one state, and then the rest, has read everything from where they
started. -/
theorem scan_same (holds : s.contentAt id = some (.container c)) (rank : Rank)
    (fits : c.present.length < UInt64.size) (counts : List UInt64) (offset : UInt64)
    (within : offset.toNat ≤ c.present.length) :
    scan rank id offset (counts.map (fun n => (s, some n)) ++ [(s, none)]) =
      c.present.drop offset.toNat := by
  induction counts generalizing offset with
  | nil =>
    rw [List.map_nil, List.nil_append, scan, listing_eq holds, scan, List.append_nil]
    rfl
  | cons n counts ih =>
    rw [List.map_cons, List.cons_append, scan]
    have page := c.page_isPrefix offset.toNat (some n.toNat)
    have length := page.length_le
    rw [List.length_drop] at length
    have next : (offset + UInt64.ofNat (s.listing rank id offset (some n)).length).toNat =
        offset.toNat + (c.page offset.toNat (some n.toNat)).length := by
      rw [listing_eq holds]
      exact toNat_offset_add (by rw [Option.map_some]; omega)
    rw [ih _ (by omega), next, listing_eq holds]
    exact c.page_append_page offset.toNat (some n.toNat)

/-! ## Every run -/

/-- What is shown of open containers is what the settings say. -/
theorem openRead_of_run {index : UInt64} {settings : Settings} {log : WaitLog}
    {calls : List ShardCall} (hi : index < settings.servers)
    (hn : (settings.servers.toNat : Int) ≤ topId)
    (hrun : (Shard.new index settings).run {} calls = .ok (s, log)) :
    s.openRead = settings.openRead := by
  refine holds_of_run (P := fun s => s.openRead = settings.openRead) hi hn hrun rfl ?_
  intro s s' same change
  cases change with
  | note noted =>
    obtain ⟨-, -⟩ := noted
    exact same
  | await | lock | unlock | make | turn | retire => exact same

/-- What is reserved and unwritten in a container is what the record says: somebody was granted the
reservation, and nobody has written to it. -/
theorem Elected.reserved_iff (elected : Elected s past) (inscribed : Inscribed s past)
    (unretired : id ∉ s.retired) (holds : s.contentAt id = some (.container c))
    (aligned : c.Aligned) (k : String) :
    ⟨k, none⟩ ∈ c.entries ↔
      (∃ a ∈ past, a.wins id k = true) ∧ ∀ a ∈ past, a.writes id k = false := by
  rw [aligned.reserved_iff]
  constructor
  · rintro ⟨there, unwritten⟩
    have none_writes : ∀ a ∈ past, a.writes id k = false := by
      intro a ha
      refine Bool.eq_false_iff.2 fun writes => ?_
      obtain ⟨c', holds', member⟩ := (inscribed.kept a ha id k writes).resolve_right unretired
      cases holds.symm.trans holds'
      rw [unwritten] at member
      cases member
    obtain ⟨a, ha, takes⟩ := elected.taken id k ⟨c, holds, there⟩
    exact ⟨⟨a, ha, Answered.wins_of_takes takes (none_writes a ha)⟩, none_writes⟩
  · rintro ⟨⟨a, ha, wins⟩, none_writes⟩
    have entry := (elected.kept a ha id k (Answered.takes_of_wins wins)).resolve_right unretired
    obtain ⟨c', holds', there⟩ := entry
    cases holds.symm.trans holds'
    refine ⟨there, Option.not_isSome_iff_eq_none.1 fun member => ?_⟩
    obtain ⟨a, ha, writes⟩ := inscribed.written id k ⟨c, holds, member⟩
    rw [none_writes a ha] at writes
    cases writes

/-- A container has no more entries than a word counts, since the budget counts its bytes. -/
theorem Books.length_lt {limit : Nat} (h : Books limit s) (fits : limit < UInt64.size)
    (live : s.data.find? id = some d) (container : d.content = .container c) :
    c.present.length < UInt64.size := by
  have exact := h.exact id d live
  have footprint := exact.footprint
  rw [container, Content.size] at footprint
  have peak := h.sound.peak_le
  rw [h.limit] at peak
  have bytes : c.bytes ≤ limit :=
    calc c.bytes = d.footprint := footprint.symm
      _ ≤ s.memory.used := h.covered live
      _ ≤ s.memory.peak := h.sound.used_le
      _ ≤ limit := peak
  calc c.present.length ≤ c.entries.length := by
        rw [c.present_eq_filterMap]
        exact List.length_filterMap_le _ _
    _ < UInt64.size :=
      (exact.aligned c container).unrepeated.length_lt (Nat.lt_of_le_of_lt bytes fits)

/-- **All ways to read a container agree.** After every run of a new shard, a live container has its
order aligned with its slots; and with the entries that `enumerate` lists of it from the start and
without an end,

* no subscript is listed twice; a subscript has the member that is listed with it, and exists
  exactly if it is listed; the size is the length of the list;
* a page is the list without as many entries as the offset says, cut after as many as were asked
  for, and pages of any sizes, each from where the last one ended, are the list with the rest after
  them;
* who reads the container as a whole is shown the list, if it is closed, or if it is open and they
  accept that and the settings ask for a snapshot; if the settings ask for what is live, they are
  shown entries with distinct subscripts, of which those with a member are the list, in its order,
  and those without one are the subscripts that were granted to a reservation and never written
  to. -/
theorem readings_agree {s : Shard} {log : WaitLog} (index : UInt64) (settings : Settings)
    (hi : index < settings.servers) (hn : (settings.servers.toNat : Int) ≤ topId)
    (calls : List ShardCall) (hrun : (Shard.new index settings).run {} calls = .ok (s, log))
    (id : DatumId) (d : Datum) (live : s.data.find? id = some d)
    (container : d.content.kind = .container) (rank : Rank) :
    (∀ c, d.content = .container c → c.Aligned) ∧
    ∃ listed, s.perform rank (.enumerate id 0 none) = .ok (s.inspect (.ok (.records listed))) ∧
      (listed.map Prod.fst).Nodup ∧
      (∀ k, ∃ found there,
        s.perform rank (.lookup id k) = .ok (s.inspect (.ok (.member found))) ∧
        s.perform rank (.has id (some k)) = .ok (s.inspect (.ok (.flag there))) ∧
        (∀ m, found = some m ↔ (k, m) ∈ listed) ∧ (there = true ↔ ∃ m, (k, m) ∈ listed)) ∧
      (∃ n, s.perform rank (.sizeOf id) = .ok (s.inspect (.ok (.size n))) ∧
        n.toNat = listed.length) ∧
      (∀ offset count, s.perform rank (.enumerate id offset count) = .ok (s.inspect (.ok (.records
        (count.elim (listed.drop offset.toNat) fun n =>
          (listed.drop offset.toNat).take n.toNat))))) ∧
      (∀ counts : List UInt64,
        scan rank id 0 (counts.map (fun n => (s, some n)) ++ [(s, none)]) = listed) ∧
      ∀ acceptOpen, d.closed = true ∨ acceptOpen = true →
        (d.closed = true ∨ settings.openRead = .snapshot →
          s.perform rank (.retrieve id acceptOpen) = .ok (s.inspect (.ok (.value (.container
            (listed.map fun p => ⟨p.1, some p.2⟩)))))) ∧
        (d.closed = false → settings.openRead = .live →
          ∃ shown, s.perform rank (.retrieve id acceptOpen) =
              .ok (s.inspect (.ok (.value (.container shown)))) ∧
            shown.filterMap (fun e => e.member.map fun m => (e.subscript, m)) = listed ∧
            (shown.map Entry.subscript).Nodup ∧
            ∀ k, ⟨k, none⟩ ∈ shown ↔
              (∃ a ∈ (Shard.new index settings).record calls, a.wins id k = true) ∧
              ∀ a ∈ (Shard.new index settings).record calls, a.writes id k = false) := by
  obtain ⟨c, holdsIn⟩ : ∃ c, d.content = .container c := by
    cases content : d.content with
    | container c => exact ⟨c, rfl⟩
    | _ =>
      rw [content] at container
      cases container
  have holds : s.contentAt id = some (.container c) := by rw [contentAt_of_find? live, holdsIn]
  have books := Books.of_run hi hn hrun
  have aligned := (books.exact id d live).aligned c holdsIn
  have fits := books.length_lt settings.maxMemoryBytes.toNat_lt_size live holdsIn
  obtain ⟨reached, elected, inscribed⟩ := record_induction
    (P := fun s past => Elected s past ∧ Inscribed s past)
    (fun _ _ _ _ _ reached known ho => ⟨known.1.perform reached ho, known.2.perform reached ho⟩)
    (fun _ _ known => ⟨⟨known.1.taken, known.1.kept, known.1.once⟩, known.2.written, known.2.kept⟩)
    (Reached.new hi hn) ⟨Elected.new index settings, inscribed_new index settings⟩ hrun
  rw [List.nil_append] at elected inscribed
  have unretired : id ∉ s.retired := by
    intro retired
    cases live.symm.trans (reached.lives.absent id retired)
  have openRead := openRead_of_run hi hn hrun
  have distinct : (c.present.map Prod.fst).Nodup := aligned.unrepeated.nodup_listed
  refine ⟨(books.exact id d live).aligned, c.present, perform_enumerate holds rank 0 none, distinct,
    ?_, ?_, ?_, ?_, ?_⟩
  · intro k
    refine ⟨_, _, perform_lookup holds rank k, perform_has holds rank k, ?_, ?_⟩
    · intro m
      exact aligned.lookup_eq_some_iff
    · rw [Option.isSome_iff_exists]
      exact exists_congr fun m => aligned.lookup_eq_some_iff
  · refine ⟨_, perform_sizeOf holds rank, ?_⟩
    rw [aligned.size_eq]
    exact UInt64.toNat_ofNat_of_lt' fits
  · intro offset count
    rw [perform_enumerate holds]
    cases count <;> rfl
  · intro counts
    exact scan_same holds rank fits counts 0 (Nat.zero_le _)
  · intro acceptOpen readable
    have retrieved := perform_retrieve live holdsIn rank readable
    refine ⟨?_, ?_⟩
    · intro unreserved
      have hidden : (!d.closed && decide (s.openRead = .live)) = false := by
        rw [openRead]
        rcases unreserved with closed | snapshot
        · rw [closed]
          rfl
        · rw [snapshot]
          simp
      rw [retrieved, hidden, c.shown_false]
    · intro opened shows
      have visible : (!d.closed && decide (s.openRead = .live)) = true := by
        rw [openRead, opened, shows]
        rfl
      rw [visible] at retrieved
      exact ⟨c.entries, retrieved, c.present_eq_filterMap.symm, aligned.unrepeated,
        elected.reserved_iff inscribed unretired holds aligned⟩

/-- A reservation is filled, a member is overwritten, and a reservation is left. -/
def fillAndOverwrite : List ShardCall :=
  [.perform 0 (.reserve 5 "a"), .perform 1 (.insert 5 "b" [1] 0), .perform 1 (.reserve 5 "c"),
    .perform 0 (.insert 5 "a" [2] 0), .perform 1 (.insert 5 "b" [3] 0)]

/-- The reservation that is left is shown with the open container, and not listed. -/
theorem readings_agree_live : ∃ s log d shown,
    (Shard.new 1 { servers := 2, openRead := .live, allowOverwrite := true }).run {}
      fillAndOverwrite = .ok (s, log) ∧
    s.data.find? 5 = some d ∧ d.content.kind = .container ∧ d.closed = false ∧
    s.perform 0 (.enumerate 5 0 none) =
      .ok (s.inspect (.ok (.records [("a", [2]), ("b", [3])]))) ∧
    scan 0 5 0 [(s, some 1), (s, none)] = [("a", [2]), ("b", [3])] ∧
    s.perform 0 (.retrieve 5 true) = .ok (s.inspect (.ok (.value (.container shown)))) ∧
    shown.filterMap (fun e => e.member.map fun m => (e.subscript, m)) =
      [("a", [2]), ("b", [3])] ∧
    ⟨"c", none⟩ ∈ shown := by
  have ran : Except.toOption (do
      let ended ← (Shard.new 1 { servers := 2, openRead := .live, allowOverwrite := true }).run {}
        fillAndOverwrite
      return (ended.1.listing 0 5 0 none,
        (ended.1.data.find? 5).map fun d => (d.content.kind, d.closed))) =
      some ([("a", [2]), ("b", [3])], some (.container, false)) := by decide +kernel
  obtain ⟨⟨s, log⟩, hrun, ran⟩ := bind_eq_ok (eq_ok_of_toOption ran)
  obtain ⟨lists, found⟩ := Prod.mk.inj (Except.ok.inj ran)
  obtain ⟨d, live, facts⟩ := Option.map_eq_some_iff.1 found
  obtain ⟨container, opened⟩ := Prod.mk.inj facts
  obtain ⟨-, listed, told, -, -, -, -, pages, whole⟩ :=
    readings_agree 1 { servers := 2, openRead := .live, allowOverwrite := true } (by decide)
      (by decide) fillAndOverwrite hrun 5 d live container 0
  rw [listing, told] at lists
  obtain rfl : listed = [("a", [2]), ("b", [3])] := lists
  obtain ⟨shown, retrieved, written, -, reserved⟩ := (whole true (.inr rfl)).2 opened rfl
  refine ⟨s, log, d, shown, hrun, live, container, opened, told, pages [1], retrieved, written, ?_⟩
  refine (reserved "c").2 ⟨?_, ?_⟩
  · rw [← List.any_eq_true]
    decide +kernel
  · decide +kernel

end Shard

end WorkPool
