import Mathlib.Data.List.Infix
import WorkPool.Proofs.Shard.Reading

/-!
# Scans that go on while others write

Who reads a container page by page takes each page from where the last one ended, and others may
write in between. Main statement: as long as no reservation is **overtaken** (filled after
something behind it was listed), what was listed is the beginning of what is listed later, and then
such a scan lists no subscript twice and leaves none out; and once one was overtaken, what was
listed is no longer the beginning, and whoever had read up to there reads a subscript twice and
misses another.

The proof goes through the growth of containers: `Container.Grows` holds between a container and
what becomes of it in any run, so that `Entry.listed_prefix_iff` applies to any two states of one
run.
-/

namespace WorkPool

namespace Shard

variable {s s' : Shard} {id : DatumId} {rank : Rank} {c c' : Container} {limit : Nat}

/-! ## Later states of a run -/

/-- A run goes on from one state to another one. -/
def LeadsTo (s s' : Shard) : Prop :=
  ∃ calls log log', s.run log calls = .ok (s', log')

theorem Reached.leadsTo (h : Reached s) (later : s.LeadsTo s') : Reached s' ∧ Changes s s' := by
  obtain ⟨calls, log, log', hrun⟩ := later
  refine @record_induction s s' (fun t _ => Changes s t) ?_ ?_ [] log log' calls h .refl hrun
  · intro s₁ past rank op o reached changes ho
    exact changes.trans (perform_changes reached.waits reached.lives.numbered ho)
  · intro s₁ past changes
    exact changes.tail (.await [])

/-- What is known of every state of a run, as far as its containers go. -/
structure Orderly (limit : Nat) (s : Shard) : Prop where
  reached : Reached s
  books : Books limit s

theorem Orderly.leadsTo (h : Orderly limit s) (later : s.LeadsTo s') : Orderly limit s' := by
  obtain ⟨reached, changes⟩ := h.reached.leadsTo later
  exact ⟨reached, changes.keep (fun _ _ books change => books.change change) h.books⟩

theorem Orderly.aligned (h : Orderly limit s) (holds : s.contentAt id = some (.container c)) :
    c.Aligned := by
  obtain ⟨d, live, container⟩ := Option.map_eq_some_iff.1 holds
  exact (h.books.exact id d live).aligned c container

theorem Orderly.length_lt (h : Orderly limit s) (fits : limit < UInt64.size)
    (holds : s.contentAt id = some (.container c)) :
    (Entry.listed c.entries).length < UInt64.size := by
  obtain ⟨d, live, container⟩ := Option.map_eq_some_iff.1 holds
  rw [← c.map_fst_present, List.length_map]
  exact h.books.length_lt fits live container

/-- **A container only grows** while it is live. -/
theorem Orderly.grows (h : Orderly limit s) (later : s.LeadsTo s')
    (holds : s.contentAt id = some (.container c))
    (holds' : s'.contentAt id = some (.container c')) : c.Grows c' := by
  obtain ⟨reached, changes⟩ := h.reached.leadsTo later
  have kept := HoldsAt.changes (P := fun c' => c'.Aligned ∧ c.Grows c')
    (fun _ k m h => ⟨h.1.write k m, h.2.write h.1 k m⟩)
    (fun _ k h => ⟨h.1.hold k, h.2.hold h.1 k⟩) changes
    (.inl ⟨c, holds, h.aligned holds, .refl c⟩)
  rcases kept with ⟨c₁, holds₁, -, grows⟩ | retired
  · cases holds'.symm.trans holds₁
    exact grows
  · rw [contentAt_of_none (reached.lives.absent id retired)] at holds'
    cases holds'

/-! ## What is listed later -/

/-- The subscripts that a container lists. -/
def subscripts (s : Shard) (rank : Rank) (id : DatumId) : List String :=
  (s.listing rank id 0 none).map Prod.fst

theorem subscripts_eq (holds : s.contentAt id = some (.container c)) (rank : Rank) :
    s.subscripts rank id = Entry.listed c.entries := by
  rw [subscripts, listing_eq holds]
  exact c.map_fst_present

/-- What was listed is listed later, and it is the beginning unless a reservation was overtaken. -/
theorem Orderly.listed (h : Orderly limit s) (later : s.LeadsTo s')
    (holds : s.contentAt id = some (.container c))
    (holds' : s'.contentAt id = some (.container c')) :
    (Entry.listed c.entries).Sublist (Entry.listed c'.entries) ∧
      (Entry.listed c.entries <+: Entry.listed c'.entries ↔
        ¬ Entry.Overtaken c.entries c'.entries) := by
  have unrepeated := ((h.leadsTo later).aligned holds').unrepeated
  obtain ⟨kept, new, entries, stays⟩ := h.grows later holds holds'
  rw [Container.Unrepeated, entries] at unrepeated
  rw [entries]
  exact ⟨Entry.listed_sublist_of_stays stays new, Entry.listed_prefix_iff stays unrepeated⟩

/-- A run goes on with a container live, and no reservation in it is overtaken. -/
structure Undisturbed (id : DatumId) (s s' : Shard) : Prop where
  later : s.LeadsTo s'
  kept : ∃ c c', s.contentAt id = some (.container c) ∧ s'.contentAt id = some (.container c') ∧
    ¬ Entry.Overtaken c.entries c'.entries

theorem Undisturbed.listed (undisturbed : Undisturbed id s s') (h : Orderly limit s)
    (holds : s.contentAt id = some (.container c)) :
    ∃ c', s'.contentAt id = some (.container c') ∧
      Entry.listed c.entries <+: Entry.listed c'.entries := by
  obtain ⟨c₁, c', holds₁, holds', kept⟩ := undisturbed.kept
  cases holds.symm.trans holds₁
  exact ⟨c', holds', (h.listed undisturbed.later holds holds').2.2 kept⟩

/-- **A run of such stages**: what any of them lists is the beginning of what the last one lists. -/
theorem Orderly.listed_of_chain {last : Shard} {states : List Shard} (h : Orderly limit s)
    (holds : s.contentAt id = some (.container c))
    (chain : List.IsChain (Undisturbed id) (s :: (states ++ [last]))) :
    Orderly limit last ∧ ∃ cl, last.contentAt id = some (.container cl) ∧
      ∀ t ∈ s :: states, ∃ c, t.contentAt id = some (.container c) ∧
        Entry.listed c.entries <+: Entry.listed cl.entries := by
  induction states generalizing s c with
  | nil =>
    rw [List.nil_append, List.isChain_cons_cons] at chain
    obtain ⟨cl, holdsLast, listed⟩ := chain.1.listed h holds
    refine ⟨h.leadsTo chain.1.later, cl, holdsLast, ?_⟩
    intro t there
    cases List.mem_singleton.1 there
    exact ⟨c, holds, listed⟩
  | cons next states ih =>
    rw [List.cons_append, List.isChain_cons_cons] at chain
    obtain ⟨c₁, holds₁, listed⟩ := chain.1.listed h holds
    obtain ⟨orderly, cl, holdsLast, all⟩ := ih (h.leadsTo chain.1.later) holds₁ chain.2
    refine ⟨orderly, cl, holdsLast, ?_⟩
    intro t there
    rcases List.mem_cons.1 there with rfl | later
    · obtain ⟨c₂, holds₂, listed₂⟩ := all next List.mem_cons_self
      cases holds₁.symm.trans holds₂
      exact ⟨c, holds, listed.trans listed₂⟩
    · exact all t later

/-! ## Scans -/

theorem scan_append (rank : Rank) (id : DatumId) (offset : UInt64)
    (stages later : List (Shard × Option UInt64)) :
    scan rank id offset (stages ++ later) = scan rank id offset stages ++
      scan rank id (offset + UInt64.ofNat (scan rank id offset stages).length) later := by
  induction stages generalizing offset with
  | nil => simp [scan]
  | cons stage stages ih =>
    rw [List.cons_append, scan, scan, ih]
    simp only [List.append_assoc, List.length_append, UInt64.ofNat_add, UInt64.add_assoc]

/-- The offset after the first pages is how much they are together. -/
theorem toNat_zero_add {n : Nat} (fits : n < UInt64.size) :
    ((0 : UInt64) + UInt64.ofNat n).toNat = n := by
  rw [UInt64.zero_add]
  exact UInt64.toNat_ofNat_of_lt' fits

/-- A page of a listing is the beginning of what comes from there on. -/
theorem map_listing_isPrefix (holds : s.contentAt id = some (.container c)) (rank : Rank)
    (offset : UInt64) (count : Option UInt64) :
    (s.listing rank id offset count).map Prod.fst <+:
      (Entry.listed c.entries).drop offset.toNat := by
  rw [listing_eq holds, ← c.map_fst_present, ← List.map_drop]
  exact (c.page_isPrefix offset.toNat _).map Prod.fst

/-- **A scan of beginnings of a listing** reads a beginning of it. -/
theorem scan_isPrefix {total : List String} (fits : total.length < UInt64.size)
    {stages : List (Shard × Option UInt64)} (beginnings : ∀ stage ∈ stages, ∃ c,
      stage.1.contentAt id = some (.container c) ∧ Entry.listed c.entries <+: total)
    {offset : UInt64} (within : offset.toNat ≤ total.length) :
    (scan rank id offset stages).map Prod.fst <+: total.drop offset.toNat := by
  induction stages generalizing offset with
  | nil => exact List.nil_prefix
  | cons stage stages ih =>
    obtain ⟨⟨c, holds, beginning⟩, rest⟩ := List.forall_mem_cons.1 beginnings
    have page := (map_listing_isPrefix holds rank offset stage.2).trans
      (beginning.drop offset.toNat)
    have length := page.length_le
    rw [List.length_map, List.length_drop] at length
    have next : (offset + UInt64.ofNat (stage.1.listing rank id offset stage.2).length).toNat =
        offset.toNat + (stage.1.listing rank id offset stage.2).length :=
      toNat_offset_add (by omega)
    have later := ih rest (Nat.le_of_eq next |>.trans (by omega))
    rw [next] at later
    rw [scan, List.map_append, List.prefix_append_drop page, List.prefix_append_right_inj,
      List.length_map, List.drop_drop]
    exact later

/-- **A scan has ended** with a page that is shorter than was asked for: then it has read what the
last state lists, if it was reading a beginning of that. -/
theorem scan_of_short {stages : List (Shard × Option UInt64)} {last : Shard × Option UInt64}
    (holds : last.1.contentAt id = some (.container c))
    (fits : (Entry.listed c.entries).length < UInt64.size)
    (beginning : (scan rank id 0 stages).map Prod.fst <+: Entry.listed c.entries)
    (short : ∀ n, last.2 = some n → (scan rank id 0 (stages ++ [last])).length <
      (scan rank id 0 stages).length + n.toNat) :
    (scan rank id 0 (stages ++ [last])).map Prod.fst = Entry.listed c.entries := by
  have length := beginning.length_le
  rw [List.length_map] at length
  have offset : ((0 : UInt64) + UInt64.ofNat (scan rank id 0 stages).length).toNat =
      (scan rank id 0 stages).length := toNat_zero_add (by omega)
  have page : scan rank id 0 (stages ++ [last]) = scan rank id 0 stages ++
      c.page (scan rank id 0 stages).length (last.2.map UInt64.toNat) := by
    rw [scan_append, scan, scan, List.append_nil, listing_eq holds, offset]
  have rest : c.page (scan rank id 0 stages).length (last.2.map UInt64.toNat) =
      c.present.drop (scan rank id 0 stages).length := by
    cases asked : last.2 with
    | none => rfl
    | some n =>
      have few := short n asked
      rw [page, asked, List.length_append, Nat.add_lt_add_iff_left] at few
      simp only [Option.map_some, Container.page, List.length_take] at few ⊢
      exact List.take_of_length_le (by omega)
  rw [page, rest, List.map_append, List.map_drop, c.map_fst_present]
  conv_rhs => rw [List.prefix_append_drop beginning, List.length_map]

/-! ## Scans that were overtaken -/

/-- Where a list is not the beginning of one that has all of it in its order, reading on by its
length gives something twice and leaves something out: otherwise the places before would hold
nothing else than what was read, and all of it. -/
theorem exists_twice_and_missed {first whole : List String} (sub : first.Sublist whole)
    (once : whole.Nodup) (apart : ¬ first <+: whole) :
    (∃ k ∈ first, k ∈ whole.drop first.length) ∧
      ∃ k ∈ whole, k ∉ first ++ whole.drop first.length := by
  have split := List.take_append_drop first.length whole
  have disjoint : (whole.take first.length).Disjoint (whole.drop first.length) :=
    List.disjoint_take_drop once (Nat.le_refl _)
  have length : (whole.take first.length).length = first.length :=
    List.length_take_of_le sub.length_le
  have twice : ∃ k ∈ first, k ∈ whole.drop first.length := by
    by_contra none_twice
    rw [← split] at sub
    obtain ⟨a, b, parts, sub_a, sub_b⟩ := List.sublist_append_iff.1 sub
    cases b with
    | nil =>
      rw [List.append_nil] at parts
      rw [← parts] at sub_a
      rw [sub_a.eq_of_length length.symm] at apart
      exact apart (List.take_prefix _ _)
    | cons k b =>
      refine none_twice ⟨k, ?_, sub_b.subset List.mem_cons_self⟩
      rw [parts]
      exact List.mem_append_right _ List.mem_cons_self
  refine ⟨twice, ?_⟩
  by_contra none_missed
  have covered : whole.take first.length ⊆ first := by
    intro k there
    by_contra unread
    refine none_missed ⟨k, List.mem_of_mem_take there, ?_⟩
    rw [List.mem_append, not_or]
    exact ⟨unread, disjoint there⟩
  have same := (List.subperm_of_subset (once.sublist (List.take_sublist _ _)) covered)
    |>.perm_of_length_le (Nat.le_of_eq length.symm)
  obtain ⟨k, read, again⟩ := twice
  exact disjoint (same.mem_iff.2 read) again

/-- Who has read everything and reads on from there later. -/
theorem map_scan_pair (holds : s.contentAt id = some (.container c))
    (holds' : s'.contentAt id = some (.container c'))
    (fits : (Entry.listed c.entries).length < UInt64.size) :
    (scan rank id 0 [(s, none), (s', none)]).map Prod.fst = Entry.listed c.entries ++
      (Entry.listed c'.entries).drop (Entry.listed c.entries).length := by
  have first : c.page (0 : UInt64).toNat (Option.map UInt64.toNat none) = c.present := rfl
  rw [← c.map_fst_present, List.length_map] at fits
  have offset : ((0 : UInt64) + UInt64.ofNat c.present.length).toNat = c.present.length :=
    toNat_zero_add fits
  rw [scan, scan, scan, List.append_nil, listing_eq holds, listing_eq holds', first, offset,
    List.map_append, c.map_fst_present]
  congr 1
  rw [← c'.map_fst_present, ← c.map_fst_present, List.length_map, ← List.map_drop]
  rfl

/-! ## Every run -/

theorem perform_listing (holds : s.contentAt id = some (.container c)) (rank : Rank) :
    s.perform rank (.enumerate id 0 none) =
      .ok (s.inspect (.ok (.records (s.listing rank id 0 none)))) := by
  rw [listing_eq holds, perform_enumerate holds]

/-- **When scans are stable.** From any state of a run, with a container that is live,

* later in the run, if it is still live, all that was listed is listed in the same order. It is the
  beginning of the listing exactly if no reservation was overtaken: if none was filled that stood
  before something listed. If one was, who has read everything and reads on from there is told a
  subscript twice and never told of another;
* if the run goes on through any number of states in which pages of any sizes are read, each from
  where the last one ended, and no reservation is overtaken on the way, then what was read has no
  subscript twice and is the beginning of what the last state lists; and if the last page was
  shorter than asked for, it is all of that, and has all that was listed when the scan began and
  since. -/
theorem scan_stable_unless_overtaken {s : Shard} {log : WaitLog} (index : UInt64)
    (settings : Settings) (hi : index < settings.servers)
    (hn : (settings.servers.toNat : Int) ≤ topId) (calls : List ShardCall)
    (hrun : (Shard.new index settings).run {} calls = .ok (s, log)) (id : DatumId) (c : Container)
    (holds : s.contentAt id = some (.container c)) (rank : Rank) :
    s.perform rank (.enumerate id 0 none) =
      .ok (s.inspect (.ok (.records (s.listing rank id 0 none)))) ∧
    (∀ s' c', s.LeadsTo s' → s'.contentAt id = some (.container c') →
      s'.perform rank (.enumerate id 0 none) =
        .ok (s'.inspect (.ok (.records (s'.listing rank id 0 none)))) ∧
      (s.subscripts rank id).Sublist (s'.subscripts rank id) ∧
      (s.subscripts rank id <+: s'.subscripts rank id ↔
        ¬ Entry.Overtaken c.entries c'.entries) ∧
      (Entry.Overtaken c.entries c'.entries →
        ¬ ((scan rank id 0 [(s, none), (s', none)]).map Prod.fst).Nodup ∧
        ∃ k ∈ s'.subscripts rank id,
          k ∉ (scan rank id 0 [(s, none), (s', none)]).map Prod.fst)) ∧
    ∀ (stages : List (Shard × Option UInt64)) (last : Shard × Option UInt64),
      List.IsChain (Undisturbed id) (s :: (stages.map Prod.fst ++ [last.1])) →
        (scan rank id 0 (stages ++ [last])).map Prod.fst <+: last.1.subscripts rank id ∧
        ((scan rank id 0 (stages ++ [last])).map Prod.fst).Nodup ∧
        ((∀ n, last.2 = some n → (scan rank id 0 (stages ++ [last])).length <
            (scan rank id 0 stages).length + n.toNat) →
          (scan rank id 0 (stages ++ [last])).map Prod.fst = last.1.subscripts rank id ∧
          ∀ t ∈ s :: stages.map Prod.fst,
            t.subscripts rank id ⊆ (scan rank id 0 (stages ++ [last])).map Prod.fst) := by
  have fits := settings.maxMemoryBytes.toNat_lt_size
  have orderly : Orderly settings.maxMemoryBytes.toNat s :=
    ⟨((Reached.new hi hn).leadsTo ⟨calls, _, log, hrun⟩).1, Books.of_run hi hn hrun⟩
  refine ⟨perform_listing holds rank, ?_, ?_⟩
  · intro s' c' later holds'
    obtain ⟨sub, stable⟩ := orderly.listed later holds holds'
    have once := ((orderly.leadsTo later).aligned holds').unrepeated.nodup_listed
    rw [c'.map_fst_present] at once
    rw [subscripts_eq holds, subscripts_eq holds',
      map_scan_pair holds holds' (orderly.length_lt fits holds)]
    refine ⟨perform_listing holds' rank, sub, stable, ?_⟩
    intro overtaken
    obtain ⟨⟨k, read, again⟩, missed⟩ :=
      exists_twice_and_missed sub once fun same => stable.1 same overtaken
    refine ⟨?_, missed⟩
    intro distinct
    exact (List.nodup_append.1 distinct).2.2 k read k again rfl
  · intro stages last chain
    obtain ⟨orderlyLast, cl, holdsLast, all⟩ := orderly.listed_of_chain holds chain
    have fitsLast := orderlyLast.length_lt fits holdsLast
    have once := (orderlyLast.aligned holdsLast).unrepeated.nodup_listed
    rw [cl.map_fst_present] at once
    have beginnings : ∀ stage ∈ stages, ∃ c, stage.1.contentAt id = some (.container c) ∧
        Entry.listed c.entries <+: Entry.listed cl.entries := by
      intro stage there
      exact all stage.1 (List.mem_cons_of_mem _ (List.mem_map_of_mem there))
    have before : (scan rank id 0 stages).map Prod.fst <+: Entry.listed cl.entries :=
      scan_isPrefix fitsLast beginnings (Nat.zero_le _)
    have read : (scan rank id 0 (stages ++ [last])).map Prod.fst <+: Entry.listed cl.entries := by
      refine scan_isPrefix fitsLast ?_ (Nat.zero_le _)
      intro stage there
      rcases List.mem_append.1 there with earlier | final
      · exact beginnings stage earlier
      · rw [List.mem_singleton.1 final]
        exact ⟨cl, holdsLast, List.prefix_refl _⟩
    rw [subscripts_eq holdsLast]
    refine ⟨read, read.sublist.nodup once, ?_⟩
    intro short
    have complete := scan_of_short holdsLast fitsLast before short
    refine ⟨complete, ?_⟩
    intro t there
    obtain ⟨ct, holdsT, listed⟩ := all t there
    rw [subscripts_eq holdsT, complete]
    exact listed.subset

/-- A subscript is reserved, and another one is written. -/
def reserveThenWrite : List ShardCall :=
  [.perform 0 (.reserve 6 "a"), .perform 1 (.insert 6 "b" [1] 0)]

/-- The container after that. -/
def reservedThenWritten : Container :=
  (({ subscriptKind := .string } : Container).hold "a").write "b" [1]

/-- The reservation is filled after that, and a scan that had read the other one is told of it a
second time, and never of the one that was filled. A scan that goes on while another subscript comes
in is told of both. -/
theorem scan_stable_unless_overtaken_filled : ∃ s log c filled c' grown,
    (Shard.new 0 { servers := 2, workers := 2 }).run {} reserveThenWrite = .ok (s, log) ∧
    s.contentAt 6 = some (.container c) ∧ s.LeadsTo filled ∧
    filled.contentAt 6 = some (.container c') ∧ Entry.Overtaken c.entries c'.entries ∧
    ¬ ((scan 0 6 0 [(s, none), (filled, none)]).map Prod.fst).Nodup ∧
    (∃ k ∈ filled.subscripts 0 6, k ∉ (scan 0 6 0 [(s, none), (filled, none)]).map Prod.fst) ∧
    List.IsChain (Undisturbed 6) [s, s, grown] ∧
    (scan 0 6 0 [(s, some 1), (grown, some 5)]).map Prod.fst = ["b", "c"] ∧
    grown.subscripts 0 6 = ["b", "c"] := by
  have ran : Except.toOption (do
      let ended ← (Shard.new 0 { servers := 2, workers := 2 }).run {} reserveThenWrite
      let filled ← ended.1.run {} [.perform 0 (.insert 6 "a" [2] 0)]
      let grown ← ended.1.run {} [.perform 0 (.insert 6 "c" [3] 0)]
      return (ended.1.contentAt 6, filled.1.contentAt 6, grown.1.contentAt 6,
        (scan 0 6 0 [(ended.1, some 1), (grown.1, some 5)]).map Prod.fst,
        (scan 0 6 0 [(ended.1, some 1)]).length)) =
      some (some (.container reservedThenWritten),
        some (.container (reservedThenWritten.write "a" [2])),
        some (.container (reservedThenWritten.write "c" [3])),
        ["b", "c"], 1) := by decide +kernel
  obtain ⟨⟨s, log⟩, hrun, ran⟩ := bind_eq_ok (eq_ok_of_toOption ran)
  obtain ⟨⟨filled, log₁⟩, hfilled, ran⟩ := bind_eq_ok ran
  obtain ⟨⟨grown, log₂⟩, hgrown, ran⟩ := bind_eq_ok ran
  obtain ⟨holds, facts⟩ := Prod.mk.inj (Except.ok.inj ran)
  obtain ⟨holdsFilled, facts⟩ := Prod.mk.inj facts
  obtain ⟨holdsGrown, facts⟩ := Prod.mk.inj facts
  obtain ⟨read, first⟩ := Prod.mk.inj facts
  obtain ⟨-, later, scans⟩ := scan_stable_unless_overtaken 0 { servers := 2, workers := 2 }
    (by decide) (by decide) reserveThenWrite hrun 6 _ holds 0
  have toFilled : s.LeadsTo filled := ⟨_, {}, log₁, hfilled⟩
  have overtaken : Entry.Overtaken reservedThenWritten.entries
      (reservedThenWritten.write "a" [2]).entries :=
    ⟨[], "a", [⟨"b", some [1]⟩], by decide +kernel, by decide +kernel, by decide +kernel⟩
  obtain ⟨-, -, -, broken⟩ := later filled _ toFilled holdsFilled
  obtain ⟨twice, missed⟩ := broken overtaken
  have still : Undisturbed 6 s s := by
    have same : s.LeadsTo s := ⟨[], log, log, rfl⟩
    exact ⟨same, _, _, holds, holds, (later s _ same holds).2.2.1.1 (List.prefix_refl _)⟩
  have toGrown : Undisturbed 6 s grown := by
    have more : s.LeadsTo grown := ⟨_, {}, log₂, hgrown⟩
    refine ⟨more, _, _, holds, holdsGrown, (later grown _ more holdsGrown).2.2.1.1 ?_⟩
    rw [subscripts_eq holds, subscripts_eq holdsGrown]
    exact ⟨["c"], by decide +kernel⟩
  have chain : List.IsChain (Undisturbed 6) [s, s, grown] := by simp [still, toGrown]
  obtain ⟨-, -, ended⟩ := scans [(s, some 1)] (grown, some 5) chain
  have all := (ended ?_).1
  · exact ⟨s, log, _, filled, _, grown, hrun, holds, toFilled, holdsFilled, overtaken, twice,
      missed, chain, read, all.symm.trans read⟩
  · rintro n ⟨⟩
    have two := congrArg List.length read
    rw [List.length_map] at two
    simp only [List.singleton_append] at two first ⊢
    rw [two, first]
    decide

end Shard

end WorkPool
