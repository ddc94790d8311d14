import Mathlib.Data.List.Forall2
import Mathlib.Data.List.Nodup
import Mathlib.Data.List.Perm.Subperm
import WorkPool.Proofs.Container

/-!
# What a container lists

A container lists the subscripts that have a member, in the order in which the subscripts came.
All ways to read it show the same: what is listed is what is found (`lookup_eq_some_iff`), pages are
pieces of the listing (`page_append_page`), and whoever reads everything reads the listing.

A container only **grows**: an entry keeps its place for good, and new ones come after it. But the
listing does not only grow at its end. A subscript that was reserved comes in where its reservation
stands when its member is written, so that what was listed after it moves on by one place. It was
**overtaken**, and that is the only way in which a listing is not the beginning of a later one
(`listed_prefix_iff`).
-/

namespace WorkPool

namespace Entry

/-! ## The listing -/

/-- The subscripts of the entries that have a member. -/
def listed (entries : List Entry) : List String :=
  (entries.filter fun e => e.member.isSome).map Entry.subscript

variable {e e' : Entry} {entries kept new : List Entry} {k : String}

@[simp] theorem listed_nil : listed [] = [] := rfl

theorem listed_cons_some (h : e.member.isSome = true) :
    listed (e :: entries) = e.subscript :: listed entries := by
  simp [listed, h]

theorem listed_cons_none (h : e.member = none) : listed (e :: entries) = listed entries := by
  simp [listed, h]

/-- What is listed are the subscripts with a member. -/
theorem mem_listed :
    k ∈ listed entries ↔ ∃ e ∈ entries, e.member.isSome = true ∧ e.subscript = k := by
  simp [listed, and_assoc]

/-- What is listed is in the order of all entries. -/
theorem listed_sublist (entries : List Entry) :
    (listed entries).Sublist (entries.map Entry.subscript) :=
  List.filter_sublist.map _

theorem listed_append (a b : List Entry) : listed (a ++ b) = listed a ++ listed b := by
  simp [listed]

/-! ## Growth -/

/-- What becomes of an entry: it keeps its subscript, and has a member once it has one. -/
structure Stays (e e' : Entry) : Prop where
  subscript : e'.subscript = e.subscript
  member : e.member.isSome = true → e'.member.isSome = true

theorem Stays.refl (e : Entry) : Stays e e := ⟨rfl, id⟩

/-- A reservation that stands before something listed was filled. -/
def Overtaken (entries later : List Entry) : Prop :=
  ∃ before k after, entries = before ++ ⟨k, none⟩ :: after ∧ listed after ≠ [] ∧ k ∈ listed later

/-- Where nothing was listed, nothing is overtaken. -/
theorem Overtaken.listed_ne_nil {later : List Entry} (h : Overtaken entries later) :
    listed entries ≠ [] := by
  obtain ⟨before, k, after, rfl, some_after, -⟩ := h
  rw [listed_append, listed_cons_none rfl]
  exact List.append_ne_nil_of_right_ne_nil _ some_after

/-- The first entry is overtaken, or a later one is. -/
theorem overtaken_cons {later : List Entry} : Overtaken (e :: entries) later ↔
    (e.member = none ∧ listed entries ≠ [] ∧ e.subscript ∈ listed later) ∨
      Overtaken entries later := by
  constructor
  · rintro ⟨before, k, after, split, listed, filled⟩
    cases before with
    | nil =>
      cases split
      exact .inl ⟨rfl, listed, filled⟩
    | cons first before =>
      cases split
      exact .inr ⟨before, k, after, rfl, listed, filled⟩
  · rintro (⟨reserved, listed, filled⟩ | ⟨before, k, after, rfl, listed, filled⟩)
    · refine ⟨[], e.subscript, entries, ?_, listed, filled⟩
      rw [← reserved]
      rfl
    · exact ⟨e :: before, k, after, rfl, listed, filled⟩

/-- An entry with another subscript fills none of the reservations. -/
theorem overtaken_cons_later {later : List Entry}
    (other : e'.subscript ∉ entries.map Entry.subscript) :
    Overtaken entries (e' :: later) ↔ Overtaken entries later := by
  have same {k : String} (there : k ∈ entries.map Entry.subscript) :
      k ∈ listed (e' :: later) ↔ k ∈ listed later := by
    have ne : e'.subscript ≠ k := fun e => other (e ▸ there)
    simp [mem_listed, ne]
  constructor
  · rintro ⟨before, k, after, rfl, listed, filled⟩
    exact ⟨before, k, after, rfl, listed, (same (by simp)).1 filled⟩
  · rintro ⟨before, k, after, rfl, listed, filled⟩
    exact ⟨before, k, after, rfl, listed, (same (by simp)).2 filled⟩

/-- Entries that stay keep their subscripts. -/
theorem map_subscript_of_stays (stays : List.Forall₂ Stays entries kept) :
    kept.map Entry.subscript = entries.map Entry.subscript := by
  induction stays with
  | nil => rfl
  | cons stays _ ih => rw [List.map_cons, List.map_cons, stays.subscript, ih]

/-- What was listed is listed in the same order. -/
theorem listed_sublist_of_stays (stays : List.Forall₂ Stays entries kept) (new : List Entry) :
    (listed entries).Sublist (listed (kept ++ new)) := by
  induction stays with
  | nil => exact List.nil_sublist _
  | @cons e e' entries kept stays _ ih =>
    rw [List.cons_append]
    cases written : e.member with
    | some member =>
      have before : e.member.isSome = true := by rw [written]; rfl
      rw [listed_cons_some before, listed_cons_some (stays.member before), stays.subscript]
      exact ih.cons_cons _
    | none =>
      rw [listed_cons_none written]
      cases later : e'.member with
      | none =>
        rw [listed_cons_none later]
        exact ih
      | some member =>
        rw [listed_cons_some (by rw [later]; rfl)]
        exact ih.cons _

/-- **When a listing is the beginning of a later one**: exactly if no reservation was overtaken. -/
theorem listed_prefix_iff (stays : List.Forall₂ Stays entries kept)
    (once : ((kept ++ new).map Entry.subscript).Nodup) :
    listed entries <+: listed (kept ++ new) ↔ ¬ Overtaken entries (kept ++ new) := by
  -- entry by entry: one that was listed is listed first in both, and one that was filled may be
  -- followed by nothing that was listed
  induction stays with
  | nil =>
    refine iff_of_true List.nil_prefix ?_
    rintro ⟨before, k, after, split, -⟩
    cases before <;> cases split
  | @cons e e' entries kept stays rest ih =>
    rw [List.cons_append, List.map_cons, List.nodup_cons] at once
    have ih := ih once.2
    have other : e'.subscript ∉ entries.map Entry.subscript := by
      rw [← map_subscript_of_stays rest]
      intro there
      rw [List.map_append] at once
      exact once.1 (List.mem_append_left _ there)
    rw [List.cons_append, overtaken_cons, overtaken_cons_later other]
    cases written : e.member with
    | some member =>
      have before : e.member.isSome = true := by rw [written]; rfl
      rw [listed_cons_some before, listed_cons_some (stays.member before), stays.subscript,
        List.cons_prefix_cons, ih]
      simp
    | none =>
      rw [listed_cons_none written]
      cases later : e'.member with
      | none =>
        have unlisted : e.subscript ∉ listed (kept ++ new) := by
          rw [← stays.subscript]
          exact fun there => once.1 ((listed_sublist _).subset there)
        rw [listed_cons_none later, ih, not_or]
        exact ⟨fun kept => ⟨fun filled => unlisted filled.2.2, kept⟩, fun kept => kept.2⟩
      | some member =>
        have now : e'.member.isSome = true := by rw [later]; rfl
        rw [listed_cons_some now]
        by_cases empty : listed entries = []
        · rw [empty]
          refine iff_of_true List.nil_prefix ?_
          rintro (⟨-, after, -⟩ | overtaken)
          · exact after rfl
          · exact overtaken.listed_ne_nil empty
        · refine iff_of_false ?_ ?_
          · intro same
            obtain ⟨k, more, hk⟩ := List.exists_cons_of_ne_nil empty
            rw [hk, List.cons_prefix_cons] at same
            apply other
            rw [← same.1]
            apply (listed_sublist entries).subset
            rw [hk]
            exact List.mem_cons_self
          · rw [not_not, ← stays.subscript]
            exact .inl ⟨rfl, empty, List.mem_cons_self⟩

/-! ## How many entries there can be -/

/-- The texts of one byte at most. -/
def shortTexts : List String := "" :: (List.range 128).map fun n => String.singleton (Char.ofNat n)

theorem mem_shortTexts {text : String} (short : text.utf8ByteSize ≤ 1) : text ∈ shortTexts := by
  obtain ⟨cs, rfl⟩ : ∃ cs, text = String.ofList cs := ⟨text.toList, String.ofList_toList.symm⟩
  cases cs with
  | nil => exact List.mem_cons_self
  | cons c cs =>
    have first := c.utf8Size_pos
    cases cs with
    | nil =>
      have one : c.utf8Size = 1 := by
        simp at short
        omega
      have ascii : c.toNat < 128 := Nat.lt_succ_of_le (Char.utf8Size_eq_one_iff.1 one)
      refine List.mem_cons_of_mem _ (List.mem_map.2 ⟨c.toNat, List.mem_range.2 ascii, ?_⟩)
      rw [Char.ofNat_toNat]
      rfl
    | cons c' cs =>
      have second := c'.utf8Size_pos
      simp at short
      omega

/-- Every entry takes a byte, but for the one with the empty subscript, and one with a longer
subscript takes one more. -/
theorem length_add_countP_le (entries : List Entry) :
    entries.length + entries.countP (fun e => 2 ≤ e.subscript.utf8ByteSize) ≤
      total entries + (entries.map Entry.subscript).count "" := by
  induction entries with
  | nil => exact Nat.le_refl 0
  | cons e entries ih =>
    have bytes : 1 + (if 2 ≤ e.subscript.utf8ByteSize then 1 else 0) ≤
        e.size + (if e.subscript = "" then 1 else 0) := by
      by_cases empty : e.subscript = ""
      · rw [if_pos empty, if_neg (by rw [empty]; decide)]
        exact Nat.le_add_left _ _
      · have some_bytes : e.subscript.utf8ByteSize ≠ 0 := by
          intro zero
          exact empty (String.utf8ByteSize_eq_zero_iff.1 zero)
        rw [if_neg empty, size]
        split <;> omega
    simp only [List.length_cons, List.countP_cons, List.map_cons, List.count_cons, total,
      beq_iff_eq, decide_eq_true_eq]
    omega

/-- Entries with distinct subscripts are no more than their bytes, unless they are few. -/
theorem length_le_total {entries : List Entry} (once : (entries.map Entry.subscript).Nodup)
    (many : 129 < entries.length) : entries.length ≤ total entries := by
  have counted := length_add_countP_le entries
  have empty := List.nodup_iff_count_le_one.1 once ""
  have longer : 0 < entries.countP fun e => 2 ≤ e.subscript.utf8ByteSize := by
    by_contra none_longer
    have short : entries.map Entry.subscript ⊆ shortTexts := by
      intro text there
      obtain ⟨e, he, rfl⟩ := List.mem_map.1 there
      apply mem_shortTexts
      by_contra long
      apply none_longer
      rw [List.countP_pos_iff]
      exact ⟨e, he, decide_eq_true (by omega)⟩
    have few := (List.subperm_of_subset once short).length_le
    simp only [shortTexts, List.length_cons, List.length_map, List.length_range] at few
    omega
  omega

end Entry

namespace Container

variable (c : Container) {k : String} {m : Bytes}

/-! ## One state -/

/-- The subscripts of the present entries are those listed. -/
theorem map_fst_present : c.present.map Prod.fst = Entry.listed c.entries := by
  rw [present_eq_filterMap, Entry.listed]
  induction c.entries with
  | nil => rfl
  | cons e entries ih => cases written : e.member <;> simp [written, ih]

/-- A present entry is an entry with a member. -/
theorem mem_present : (k, m) ∈ c.present ↔ ⟨k, some m⟩ ∈ c.entries := by
  rw [present_eq_filterMap, List.mem_filterMap]
  constructor
  · rintro ⟨⟨k', m'⟩, there, found⟩
    obtain ⟨m', rfl, e⟩ := Option.map_eq_some_iff.1 found
    cases e
    exact there
  · intro there
    exact ⟨_, there, rfl⟩

/-- The subscripts of the listing are distinct. -/
theorem Unrepeated.nodup_listed {c : Container} (h : c.Unrepeated) :
    (c.present.map Prod.fst).Nodup := by
  rw [map_fst_present]
  exact (Entry.listed_sublist _).nodup h

/-- **What is listed is what is found.** -/
theorem Aligned.lookup_eq_some_iff {c : Container} (h : c.Aligned) :
    c.lookup k = some m ↔ (k, m) ∈ c.present := by
  rw [mem_present, h.mem_entries]
  refine ⟨fun found => ⟨?_, found⟩, And.right⟩
  by_contra absent
  rw [c.lookup_of_contains (Bool.eq_false_iff.2 absent)] at found
  cases found

/-- What has a place and no member is reserved. -/
theorem Aligned.reserved_iff {c : Container} (h : c.Aligned) :
    ⟨k, none⟩ ∈ c.entries ↔ c.contains k = true ∧ c.lookup k = none :=
  h.mem_entries

/-- The order is the keys of the slots, in another order. -/
theorem Aligned.perm_keys {c : Container} (h : c.Aligned) : c.slots.keys.Perm c.order := by
  have distinct : c.slots.keys.Nodup := by
    refine (Table.ascending_keys c.slots).imp ?_
    rintro s _ less rfl
    simp at less
  refine (List.perm_ext_iff_of_nodup distinct h.once).2 fun s => ?_
  rw [Table.mem_keys_iff, h.mem_order]
  rfl

/-- **The slots with a member are as many as are listed.** -/
theorem Aligned.size_eq {c : Container} (h : c.Aligned) : c.size = c.present.length := by
  have found (s : String) : (c.slots.find? s).getD none = c.lookup s := by
    rw [lookup]
    cases c.slots.find? s <;> rfl
  calc c.size
    _ = c.slots.keys.countP fun s => (c.lookup s).isSome := by
      rw [size, Table.values_eq_map_keys c.slots none, List.countP_map]
      simp only [Function.comp_def, found]
    _ = c.order.countP fun s => (c.lookup s).isSome := h.perm_keys.countP_eq _
    _ = c.present.length := by
      rw [present, List.length_filterMap_eq_countP]
      simp only [Option.isSome_map]

/-- Whoever is shown no reservations is shown the listing. -/
theorem shown_false : c.shown false = c.present.map fun p => ⟨p.1, some p.2⟩ := by
  rw [shown, present, List.map_filterMap]
  refine congrArg (c.order.filterMap ·) (funext fun s => ?_)
  rw [lookup, find?]
  cases c.slots.find? s with
  | none => rfl
  | some member => cases member <;> rfl

/-- A page is the beginning of the rest of the listing. -/
theorem page_isPrefix (offset : Nat) (count : Option Nat) :
    c.page offset count <+: c.present.drop offset := by
  cases count with
  | none => exact List.prefix_refl _
  | some n => exact List.take_prefix _ _

/-- What comes after a page is the rest of that. -/
theorem page_append_page (offset : Nat) (count : Option Nat) :
    c.page offset count ++ c.page (offset + (c.page offset count).length) none =
      c.present.drop offset := by
  have rest := List.prefix_iff_eq_append.1 (c.page_isPrefix offset count)
  rw [List.drop_drop] at rest
  exact rest

/-- No container has more entries than a word counts, if a word counts its bytes. -/
theorem Unrepeated.length_lt {c : Container} (h : c.Unrepeated) (fits : c.bytes < UInt64.size) :
    c.entries.length < UInt64.size := by
  by_contra many
  have large : 129 < UInt64.size := by decide
  have counted := Entry.length_le_total h (by omega)
  rw [← Container.bytes] at counted
  omega

/-! ## A later state -/

/-- A container in a later state: the entries have kept their places, and new ones have come after
them. -/
def Grows (c c' : Container) : Prop :=
  ∃ kept new, c'.entries = kept ++ new ∧ List.Forall₂ Entry.Stays c.entries kept

theorem Grows.refl (c : Container) : c.Grows c :=
  ⟨c.entries, [], (List.append_nil _).symm, List.forall₂_same.2 fun e _ => .refl e⟩

/-- **A write** lets a container grow. -/
theorem Grows.write {c c' : Container} (h : c.Grows c') (aligned : c'.Aligned) (k : String)
    (m : Bytes) : c.Grows (c'.write k m) := by
  obtain ⟨kept, new, entries, stays⟩ := h
  rw [Grows, aligned.entries_write, Entry.put]
  split
  · refine ⟨kept.map (Entry.fill k m), new.map (Entry.fill k m), by rw [entries, List.map_append],
      List.forall₂_map_right_iff.2 (stays.imp ?_)⟩
    intro e e' stays
    rw [Entry.fill]
    split
    · exact ⟨stays.subscript, fun _ => rfl⟩
    · exact stays
  · exact ⟨kept, new ++ [⟨k, some m⟩], by rw [entries, List.append_assoc], stays⟩

/-- **A reservation** lets a container grow. -/
theorem Grows.hold {c c' : Container} (h : c.Grows c') (aligned : c'.Aligned) (k : String) :
    c.Grows (c'.hold k) := by
  obtain ⟨kept, new, entries, stays⟩ := h
  rw [Grows, aligned.entries_hold, Entry.hold]
  split
  · exact ⟨kept, new, entries, stays⟩
  · exact ⟨kept, new ++ [⟨k, none⟩], by rw [entries, List.append_assoc], stays⟩

end Container

end WorkPool
