import Mathlib.Data.List.Nodup
import WorkPool.Data.Container
import WorkPool.Proofs.Table

/-!
# What writing to a container does

A write gives its subscript the member and leaves all other subscripts alone; a
reservation gives nothing a member.

A container keeps its members in slots and the order of its subscripts beside them. The two are
**aligned** if every subscript with a slot stands in the order, once, and no other does
(`Container.Aligned`). Every write keeps them so, whether it adds a subscript, fills a reservation
or replaces a member, and so does a reservation (`Aligned.insert`, `Aligned.hold`).

An aligned container is as good as the plain list of its entries: what is found is what the list
has, a write puts an entry in its place or at the end, and the bytes change by exactly what is
written (`Aligned.entries_write`, `Aligned.entries_hold`, `bytes_write`, `bytes_hold`).
-/

namespace WorkPool

namespace Entry

theorem total_append (a b : List Entry) : total (a ++ b) = total a + total b := by
  induction a with
  | nil => exact (Nat.zero_add _).symm
  | cons e a ih => rw [List.cons_append, total, total, ih, Nat.add_assoc]

theorem size_le_total {e : Entry} {entries : List Entry} (h : e ∈ entries) :
    e.size ≤ total entries := by
  induction entries with
  | nil => cases h
  | cons x rest ih =>
    rw [total]
    rcases List.mem_cons.1 h with rfl | later
    · exact Nat.le_add_right _ _
    · exact Nat.le_trans (ih later) (Nat.le_add_left _ _)

/-- An entry, with a member if it has a subscript. -/
def fill (s : String) (m : Bytes) (e : Entry) : Entry :=
  if e.subscript = s then { e with member := some m } else e

@[simp] theorem subscript_fill (s : String) (m : Bytes) (e : Entry) :
    (e.fill s m).subscript = e.subscript := by
  unfold fill
  split <;> rfl

/-- A plain list of entries, after a member was written: in its place, or at the end. -/
def put (s : String) (m : Bytes) (entries : List Entry) : List Entry :=
  if s ∈ entries.map subscript then entries.map (fill s m) else entries ++ [⟨s, some m⟩]

/-- A plain list of entries, after a subscript was reserved. -/
def hold (s : String) (entries : List Entry) : List Entry :=
  if s ∈ entries.map subscript then entries else entries ++ [⟨s, none⟩]

/-- The bytes of entries of which one is given a member, in place of the one it had. -/
theorem total_map_fill {s : String} {m : Bytes} {entries : List Entry} {e : Entry}
    (once : (entries.map subscript).Nodup) (there : e ∈ entries) (key : e.subscript = s) :
    total (entries.map (fill s m)) + (e.member.map List.length).getD 0 =
      total entries + m.length := by
  induction entries with
  | nil => cases there
  | cons x rest ih =>
    obtain ⟨new, once⟩ := List.nodup_cons.1 once
    rw [List.map_cons, total, total]
    rcases List.mem_cons.1 there with rfl | later
    · have same : rest.map (fill s m) = rest := by
        refine (List.map_congr_left fun y hy => ?_).trans (List.map_id rest)
        have other : y.subscript ≠ s := fun e => new (key ▸ e ▸ List.mem_map_of_mem hy)
        rw [fill, if_neg other, id]
      rw [same, fill, if_pos key]
      simp only [size, Option.map_some, Option.getD_some]
      omega
    · have other : x.subscript ≠ s := fun e => new (e ▸ key ▸ List.mem_map_of_mem later)
      have kept := ih once later
      rw [fill, if_neg other]
      omega

end Entry

namespace Container

variable (c : Container)

/-! ## One subscript -/

/-- The container with a member written to it. -/
def write (s : String) (m : Bytes) : Container :=
  { c with
    slots := c.slots.insert s (some m)
    order := if c.contains s then c.order else c.order ++ [s] }

/-- The container with a subscript reserved. -/
def hold (s : String) : Container := (c.reserve s).2

theorem contains_eq_false {s : String} : c.contains s = false ↔ c.slots.find? s = none := by
  rw [contains, Table.contains, Option.isSome_eq_false_iff, Option.isNone_iff_eq_none]

theorem lookup_of_contains {s : String} (absent : c.contains s = false) : c.lookup s = none := by
  rw [lookup, c.contains_eq_false.1 absent]
  rfl

/-- **A write that is allowed** goes through, and tells whether there was a member. -/
theorem insert_eq_ok {s : String} {m : Bytes} {allowOverwrite : Bool}
    (allowed : allowOverwrite = true ∨ c.lookup s = none) :
    ∃ how, c.insert s m allowOverwrite = .ok (how, c.write s m) ∧
      (how = .replaced ↔ (c.lookup s).isSome = true) := by
  unfold Container.insert write
  cases slot : c.slots.find? s with
  | none =>
    have absent := c.contains_eq_false.2 slot
    refine ⟨.new, ?_, by simp [lookup, slot]⟩
    simp [absent]
  | some member =>
    have there : c.contains s = true := by simp [contains, Table.contains, slot]
    cases member with
    | none =>
      refine ⟨.filled, ?_, by simp [lookup, slot]⟩
      simp [there]
    | some old =>
      have allowed : allowOverwrite = true := allowed.resolve_right (by simp [lookup, slot])
      refine ⟨.replaced, ?_, by simp [lookup, slot]⟩
      simp [there, allowed]

/-- A written member is found. -/
theorem lookup_write_self (s : String) (m : Bytes) : (c.write s m).lookup s = some m := by
  simp [lookup, write]

/-- A write leaves the other subscripts alone. -/
theorem lookup_write_ne {s t : String} (h : t ≠ s) (m : Bytes) :
    (c.write s m).lookup t = c.lookup t := by
  simp [lookup, write, Table.find?_insert_ne _ h]

/-- A reservation changes no look-up. -/
theorem lookup_hold (s t : String) : (c.hold s).lookup t = c.lookup t := by
  unfold hold reserve
  split
  · rfl
  · rename_i absent
    by_cases key : t = s
    · rw [key, c.lookup_of_contains (Bool.eq_false_iff.2 absent)]
      simp [lookup]
    · simp [lookup, Table.find?_insert_ne _ key]

theorem subscriptKind_hold (s : String) : (c.hold s).subscriptKind = c.subscriptKind := by
  unfold hold reserve
  split <;> rfl

/-- A reservation adds a slot without a member. -/
theorem size_hold (s : String) : (c.hold s).size = c.size := by
  unfold hold reserve
  split
  · rfl
  · rename_i free
    have absent := c.contains_eq_false.1 (Bool.eq_false_iff.2 free)
    rw [size, (Table.values_insert c.slots s none).countP_eq, Table.erase_of_find? absent]
    rfl

/-- A write adds its subscript and takes none away. -/
theorem contains_write (s t : String) (m : Bytes) :
    (c.write s m).contains t = true ↔ c.contains t = true ∨ t = s := by
  rw [contains, write, Table.contains_insert, or_comm]
  rfl

/-- So does a reservation. -/
theorem contains_hold (s t : String) :
    (c.hold s).contains t = true ↔ c.contains t = true ∨ t = s := by
  unfold hold reserve
  split
  · rename_i there
    refine ⟨.inl, fun h => h.elim id fun e => ?_⟩
    rw [e]
    exact there
  · rw [contains, Table.contains_insert, or_comm]
    rfl

/-! ## The order -/

/-- Every subscript with a slot stands in the order, once, and no other does. -/
structure Aligned : Prop where
  /-- no subscript stands in the order twice -/
  once : c.order.Nodup
  /-- those that stand there are those that have a slot -/
  mem_order : ∀ s, s ∈ c.order ↔ c.contains s = true

theorem aligned_empty (kind : Kind) : Aligned { subscriptKind := kind } :=
  ⟨List.nodup_nil, fun _ => iff_of_false List.not_mem_nil Bool.false_ne_true⟩

variable {c}

/-- A new subscript goes to the end. -/
theorem Aligned.nodup_concat (h : c.Aligned) {s : String} (free : c.contains s = false) :
    (c.order ++ [s]).Nodup := by
  refine List.nodup_append.2 ⟨h.once, List.nodup_singleton s, ?_⟩
  rintro t ht _ hs rfl
  rw [List.mem_singleton] at hs
  rw [h.mem_order, hs, free] at ht
  cases ht

theorem Aligned.write (h : c.Aligned) (s : String) (m : Bytes) : (c.write s m).Aligned := by
  constructor
  · change (if c.contains s then c.order else c.order ++ [s]).Nodup
    split
    · exact h.once
    · rename_i free
      exact h.nodup_concat (Bool.eq_false_iff.2 free)
  · intro t
    rw [contains_write, ← h.mem_order]
    change t ∈ (if c.contains s then c.order else c.order ++ [s]) ↔ _
    split
    · rename_i there
      refine ⟨.inl, fun mem => mem.elim id ?_⟩
      rintro rfl
      exact (h.mem_order t).2 there
    · simp

/-- **Every write** keeps the slots and the order aligned. -/
theorem Aligned.insert {c' : Container} {s : String} {m : Bytes} {allowOverwrite : Bool}
    {how : Inserted} (h : c.Aligned) (written : c.insert s m allowOverwrite = .ok (how, c')) :
    c'.Aligned := by
  by_cases allowed : allowOverwrite = true ∨ c.lookup s = none
  · obtain ⟨_, same, -⟩ := c.insert_eq_ok (m := m) allowed
    cases same.symm.trans written
    exact h.write s m
  · obtain ⟨strict, there⟩ := not_or.1 allowed
    cases slot : c.slots.find? s with
    | none => exact absurd (by simp [lookup, slot]) there
    | some member =>
      cases member with
      | none => exact absurd (by simp [lookup, slot]) there
      | some old => simp [Container.insert, slot, strict] at written

/-- So does a reservation. -/
theorem Aligned.hold (h : c.Aligned) (s : String) : (c.hold s).Aligned := by
  unfold Container.hold reserve
  split
  · exact h
  · rename_i free
    refine ⟨h.nodup_concat (Bool.eq_false_iff.2 free), fun t => ?_⟩
    rw [contains, Table.contains_insert, List.mem_append, List.mem_singleton, h.mem_order, or_comm]
    rfl

/-! ## The list of entries -/

variable (c) in
theorem entries_eq_filterMap : c.entries = c.order.filterMap c.find? := by
  rw [entries, shown]
  refine congrArg (c.order.filterMap ·) (funext fun s => ?_)
  cases c.find? s <;> simp

variable (c) in
/-- The listing is what the entries have of members. -/
theorem present_eq_filterMap :
    c.present = c.entries.filterMap fun e => e.member.map fun m => (e.subscript, m) := by
  rw [present, entries_eq_filterMap, List.filterMap_filterMap]
  refine congrArg (c.order.filterMap ·) (funext fun s => ?_)
  rw [lookup, find?]
  cases c.slots.find? s with
  | none => rfl
  | some member => rfl

variable (c) in
/-- A reservation is not present. -/
theorem present_hold (s : String) : (c.hold s).present = c.present := by
  rw [present, present]
  simp only [lookup_hold]
  unfold Container.hold reserve
  split
  · rfl
  · rename_i free
    rw [List.filterMap_append]
    simp [c.lookup_of_contains (Bool.eq_false_iff.2 free)]

theorem Aligned.find?_eq (h : c.Aligned) {s : String} (there : s ∈ c.order) :
    c.find? s = some ⟨s, c.lookup s⟩ := by
  obtain ⟨member, slot⟩ := Option.isSome_iff_exists.1 ((h.mem_order s).1 there)
  rw [find?, lookup, slot]
  rfl

/-- **The entries** follow the order, each with the member that is found. -/
theorem Aligned.entries_eq (h : c.Aligned) :
    c.entries = c.order.map fun s => ⟨s, c.lookup s⟩ := by
  rw [entries_eq_filterMap, ← List.filterMap_eq_map]
  refine List.filterMap_congr fun s there => ?_
  exact h.find?_eq there

theorem Aligned.map_subscript (h : c.Aligned) : c.entries.map Entry.subscript = c.order := by
  rw [h.entries_eq, List.map_map]
  exact List.map_id _

variable (c) in
/-- There is one entry for each subscript. -/
def Unrepeated : Prop := (c.entries.map Entry.subscript).Nodup

theorem Aligned.unrepeated (h : c.Aligned) : c.Unrepeated := by
  rw [Unrepeated, h.map_subscript]
  exact h.once

theorem Aligned.contains_iff (h : c.Aligned) {s : String} :
    c.contains s = true ↔ s ∈ c.entries.map Entry.subscript := by
  rw [h.map_subscript, h.mem_order]

/-- An entry has the member that is found under its subscript. -/
theorem Aligned.mem_entries (h : c.Aligned) {e : Entry} :
    e ∈ c.entries ↔ c.contains e.subscript = true ∧ c.lookup e.subscript = e.member := by
  rw [h.entries_eq, List.mem_map]
  constructor
  · rintro ⟨s, there, rfl⟩
    exact ⟨(h.mem_order s).1 there, rfl⟩
  · rintro ⟨there, found⟩
    exact ⟨e.subscript, (h.mem_order _).2 there, by rw [found]⟩

/-- **A write** puts an entry in its place, or a new one at the end. -/
theorem Aligned.entries_write (h : c.Aligned) (s : String) (m : Bytes) :
    (c.write s m).entries = Entry.put s m c.entries := by
  have filled (t : String) : (⟨t, (c.write s m).lookup t⟩ : Entry) =
      Entry.fill s m ⟨t, c.lookup t⟩ := by
    unfold Entry.fill
    split
    · rename_i key
      cases key
      rw [lookup_write_self]
    · rename_i other
      rw [lookup_write_ne c other]
  rw [(h.write s m).entries_eq, Entry.put]
  by_cases there : c.contains s = true
  · have order : (c.write s m).order = c.order := if_pos there
    rw [if_pos (h.contains_iff.1 there), order, h.entries_eq, List.map_map]
    exact List.map_congr_left fun t _ => filled t
  · have order : (c.write s m).order = c.order ++ [s] := if_neg there
    rw [if_neg fun mem => there (h.contains_iff.2 mem), order, h.entries_eq, List.map_append,
      List.map_singleton, lookup_write_self]
    refine congrArg (· ++ _) (List.map_congr_left fun t mem => ?_)
    have other : t ≠ s := fun e => there (e ▸ (h.mem_order t).1 mem)
    rw [lookup_write_ne c other]

/-- **A reservation** adds an entry at the end, unless the subscript has one. -/
theorem Aligned.entries_hold (h : c.Aligned) (s : String) :
    (c.hold s).entries = Entry.hold s c.entries := by
  rw [Entry.hold]
  by_cases there : c.contains s = true
  · rw [if_pos (h.contains_iff.1 there), Container.hold, reserve, if_pos there]
  · have order : (c.hold s).order = c.order ++ [s] := by
      rw [Container.hold, reserve, if_neg there]
    rw [if_neg fun mem => there (h.contains_iff.2 mem), (h.hold s).entries_eq, h.entries_eq, order]
    simp only [lookup_hold, List.map_append, List.map_singleton]
    rw [c.lookup_of_contains (Bool.eq_false_iff.2 there)]

/-! ## Bytes -/

theorem Aligned.memberBytes_le (h : c.Aligned) (s : String) : c.memberBytes s ≤ c.bytes := by
  by_cases there : c.contains s = true
  · have mem : ⟨s, c.lookup s⟩ ∈ c.entries := h.mem_entries.2 ⟨there, rfl⟩
    exact Nat.le_trans (Nat.le_add_left _ _) (Entry.size_le_total mem)
  · rw [memberBytes, c.lookup_of_contains (Bool.eq_false_iff.2 there)]
    exact Nat.zero_le _

/-- **A write** adds the bytes of a new subscript and of the member, and takes off those of the
member that was there. -/
theorem Aligned.bytes_write (h : c.Aligned) (s : String) (m : Bytes) :
    (c.write s m).bytes + c.memberBytes s =
      c.bytes + ((if c.contains s then 0 else s.utf8ByteSize) + m.length) := by
  rw [bytes, h.entries_write, Entry.put]
  by_cases there : c.contains s = true
  · have mem : ⟨s, c.lookup s⟩ ∈ c.entries := h.mem_entries.2 ⟨there, rfl⟩
    rw [if_pos (h.contains_iff.1 there), if_pos there, Nat.zero_add]
    exact Entry.total_map_fill h.unrepeated mem rfl
  · rw [if_neg fun mem => there (h.contains_iff.2 mem), if_neg there, memberBytes,
      c.lookup_of_contains (Bool.eq_false_iff.2 there), Entry.total_append]
    rfl

/-- A reservation adds the bytes of its subscript. -/
theorem Aligned.bytes_hold (h : c.Aligned) {s : String} (free : c.contains s = false) :
    (c.hold s).bytes = c.bytes + s.utf8ByteSize := by
  have absent : s ∉ c.entries.map Entry.subscript := by
    rw [← h.contains_iff, free]
    exact Bool.false_ne_true
  rw [bytes, h.entries_hold, Entry.hold, if_neg absent, Entry.total_append]
  rfl

end Container

end WorkPool
