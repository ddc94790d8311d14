import WorkPool.Proofs.Table
import WorkPool.Work.Backlog
import WorkPool.Work.WaitingList

/-!
# What backlogs and waiting lists hold

A backlog is a table of buckets and a waiting list a table of lines. What they hold, all in
one list, is `Backlog.units` and `WaitingList.all`. Each operation moves members in or out and
loses none:

* `push` adds its unit, `popFor` and `steal` take what they return;
* `park` adds its request, `takeMatch` takes the one it returns.

The stored size of a backlog is the number of its units (`Backlog.Counted`), and that of a waiting
list the number of its requests (`WaitingList.Counted`).

Buckets and lines hold what belongs there, and none of them is empty (`Table.Grouped`). So a
worker is refused a unit exactly if no queued unit is for it (`Backlog.Filed.popFor_none`), and a
unit goes to nobody exactly if no parked request is for it (`WaitingList.Filed.takeMatch_none`).
-/

namespace WorkPool

namespace Table

universe u

variable {κ : Type u} {α : Type} [Ord κ]

/-- All members of the lists of a table are those of one list and those of the others. -/
theorem flatten_values [Std.TransOrd κ] (t : Table κ (List α)) (k : κ) :
    t.values.flatten.Perm ((t.find? k).getD [] ++ (t.erase k).values.flatten) := by
  cases h : t.find? k with
  | none =>
    rw [erase_of_find? h]
    exact .refl _
  | some l => exact (values_of_find? h).flatten

/-- A group that is put takes the place of the one with its key. -/
theorem flatten_values_insert [Std.TransOrd κ] [Std.LawfulEqOrd κ] (t : Table κ (List α)) (k : κ)
    (l : List α) :
    (t.insert k l).values.flatten.Perm (l ++ (t.erase k).values.flatten) :=
  (values_insert t k l).flatten

/-- Each list of a table has members, and those have the key of the list. -/
def Grouped (key : α → κ) (t : Table κ (List α)) : Prop :=
  ∀ k l, t.find? k = some l → l ≠ [] ∧ ∀ a ∈ l, key a = k

section Grouped

variable {key : α → κ} {t : Table κ (List α)}

theorem grouped_empty : ({} : Table κ (List α)).Grouped key := fun _ _ h => nomatch h

/-- A group that is not empty and has the right key may be put. -/
theorem Grouped.insert [Std.TransOrd κ] [Std.LawfulEqOrd κ] (h : t.Grouped key) {k : κ}
    {l : List α} (some : l ≠ []) (all : ∀ a ∈ l, key a = k) : (t.insert k l).Grouped key :=
  forall_insert ⟨some, all⟩ h

theorem Grouped.erase [Std.LawfulEqOrd κ] (h : t.Grouped key) (k : κ) :
    (t.erase k).Grouped key := forall_erase h

/-- What is in a group has its key. -/
theorem Grouped.of_mem (h : t.Grouped key) {k : κ} {a : α} (ha : a ∈ (t.find? k).getD []) :
    key a = k := by
  cases found : t.find? k with
  | none =>
    rw [found] at ha
    cases ha
  | some l =>
    rw [found] at ha
    exact (h k l found).2 a ha

/-- Whatever a table holds stands in the list of its key. -/
theorem Grouped.mem_find? [Std.TransOrd κ] [Std.LawfulEqOrd κ] (h : t.Grouped key) {a : α}
    (ha : a ∈ t.values.flatten) : a ∈ (t.find? (key a)).getD [] := by
  obtain ⟨l, hl, ha⟩ := List.mem_flatten.1 ha
  obtain ⟨⟨k, l⟩, he, rfl⟩ := List.mem_map.1 hl
  have found : t.find? k = some l := lookup_of_mem t.ascending he
  rw [(h k l found).2 a ha, found]
  exact ha

/-- Every key has a member. -/
theorem Grouped.exists_mem [Std.TransOrd κ] [Std.LawfulEqOrd κ] (h : t.Grouped key) {k : κ}
    (hk : k ∈ t.keys) : ∃ a ∈ t.values.flatten, key a = k := by
  obtain ⟨⟨k, l⟩, he, rfl⟩ := List.mem_map.1 hk
  obtain ⟨some, all⟩ := h k l (lookup_of_mem t.ascending he)
  obtain ⟨a, ha⟩ := List.exists_mem_of_ne_nil l some
  exact ⟨a, List.mem_flatten.2 ⟨l, List.mem_map.2 ⟨_, he, rfl⟩, ha⟩, all a ha⟩

end Grouped

end Table

/-! ## Backlogs -/

/-- Adding to a bucket adds one. -/
theorem Bucket.add_perm (q : Queued) (bucket : Bucket) :
    (Bucket.add q bucket).Perm (q :: bucket) := by
  induction bucket with
  | nil => exact .refl _
  | cons x rest ih =>
    unfold Bucket.add
    split
    · exact (ih.cons x).trans (.swap q x rest)
    · exact .refl _

namespace Backlog

variable {b b' : Backlog}

/-- The queued units. -/
def units (b : Backlog) : List WorkUnit := b.buckets.values.flatten.map Queued.unit

/-- The size of a backlog is the number of its units. -/
def Counted (b : Backlog) : Prop := b.size = b.units.length

/-- The units outside one bucket. -/
def rest (b : Backlog) (l : Label) : List WorkUnit :=
  (b.buckets.erase l).values.flatten.map Queued.unit

/-- The units are those of one bucket and those of the others. -/
theorem units_perm (b : Backlog) (l : Label) :
    b.units.Perm ((b.bucket l).map Queued.unit ++ b.rest l) := by
  refine ((Table.flatten_values b.buckets l).map _).trans ?_
  rw [List.map_append]
  exact .refl _

/-- A bucket that is set takes the place of the one with its label; an empty one is taken out. -/
theorem flatten_setBucket (b : Backlog) (l : Label) (bucket : Bucket) :
    (b.setBucket l bucket).values.flatten.Perm
      (bucket ++ (b.buckets.erase l).values.flatten) := by
  unfold setBucket
  split
  · rename_i empty
    rw [List.isEmpty_iff.1 empty]
    exact .refl _
  · exact Table.flatten_values_insert b.buckets l bucket

/-- The same for the units alone. -/
theorem setBucket_perm (b : Backlog) (l : Label) (bucket : Bucket) :
    ((b.setBucket l bucket).values.flatten.map Queued.unit).Perm
      (bucket.map Queued.unit ++ b.rest l) := by
  refine ((flatten_setBucket b l bucket).map _).trans ?_
  rw [List.map_append]
  exact .refl _

/-- **A unit that is queued** is one unit more. -/
theorem push_granted {u : WorkUnit} (h : b.size < b.capacity) :
    (b.push u).2 = .ok () ∧ (b.push u).1.units.Perm (u :: b.units) ∧
      (b.push u).1.size = b.size + 1 := by
  unfold push
  rw [if_neg (Nat.not_le.2 h)]
  refine ⟨rfl, ?_, rfl⟩
  refine ((Table.flatten_values_insert b.buckets u.label _).map Queued.unit).trans ?_
  rw [List.map_append]
  refine (((Bucket.add_perm _ _).map Queued.unit).append_right _).trans ?_
  exact (units_perm b u.label).symm.cons u

/-- A full backlog refuses. -/
theorem push_refused {u : WorkUnit} (h : b.capacity ≤ b.size) :
    (b.push u).1 = b ∧ ∃ e, (b.push u).2 = .error e := by
  unfold push
  rw [if_pos h]
  exact ⟨rfl, _, rfl⟩

/-- The size is right after a push, whether it is granted or not. -/
theorem Counted.push (h : b.Counted) (u : WorkUnit) : (b.push u).1.Counted := by
  by_cases full : b.capacity ≤ b.size
  · rw [(push_refused full).1]
    exact h
  · obtain ⟨-, perm, size⟩ := push_granted (u := u) (Nat.lt_of_not_le full)
    rw [Counted, size, perm.length_eq, List.length_cons, h]

/-- What is taken from a bucket was there, and the size goes down by one. -/
theorem takeFirst_some {l : Label} {u : WorkUnit} (h : b.takeFirst l = (some u, b')) :
    b.units.Perm (u :: b'.units) ∧ b'.size = b.size - 1 := by
  unfold takeFirst at h
  split at h
  · cases h
  · rename_i q rest hbucket
    cases h
    refine ⟨(units_perm b l).trans ?_, rfl⟩
    rw [hbucket]
    exact (setBucket_perm b l rest).symm.cons q.unit

/-- **A unit that is popped** is one unit less. -/
theorem popFor_some {rank : Rank} {type : WorkType} {u : WorkUnit}
    (h : b.popFor rank type = (some u, b')) : b.units.Perm (u :: b'.units) :=
  (takeFirst_some h).1

/-- The size is right after a unit went out. -/
theorem Counted.popFor (h : b.Counted) {rank : Rank} {type : WorkType} {u : WorkUnit}
    (hpop : b.popFor rank type = (some u, b')) : b'.Counted := by
  obtain ⟨perm, size⟩ := takeFirst_some hpop
  rw [Counted, size, h, perm.length_eq, List.length_cons, Nat.add_sub_cancel]

/-- What is stolen of a type and what is left are what there was. -/
theorem stealType_perm (b : Backlog) (type : WorkType) :
    b.units.Perm ((b.stealType type).1 ++ (b.stealType type).2.units) := by
  refine (units_perm b ⟨type, none⟩).trans ?_
  refine .trans ?_ ((setBucket_perm b ⟨type, none⟩ _).symm.append_left _)
  rw [stealType, ← List.append_assoc, ← List.map_append, List.take_append_drop]

/-- The size is right after units of one type were stolen. -/
theorem Counted.stealType (h : b.Counted) (type : WorkType) : (b.stealType type).2.Counted := by
  have total := (stealType_perm b type).length_eq
  rw [List.length_append] at total
  have taken : (b.stealType type).1.length =
      Bucket.share (b.bucket ⟨type, none⟩).length := by
    have share_le : Bucket.share (b.bucket ⟨type, none⟩).length ≤
        (b.bucket ⟨type, none⟩).length := by
      unfold Bucket.share
      omega
    rw [Backlog.stealType, List.length_map, List.length_take, Nat.min_eq_left share_le]
  show b.size - Bucket.share (b.bucket ⟨type, none⟩).length = (b.stealType type).2.units.length
  rw [Counted] at h
  omega

/-- **Units that are stolen** are those that are missing afterwards. -/
theorem steal_perm (b : Backlog) (wanted : List WorkType) :
    b.units.Perm ((b.steal wanted).1 ++ (b.steal wanted).2.units) := by
  induction wanted generalizing b with
  | nil => exact .refl _
  | cons type wanted ih =>
    refine (stealType_perm b type).trans ?_
    show ((b.stealType type).1 ++ (b.stealType type).2.units).Perm
      (((b.stealType type).1 ++ ((b.stealType type).2.steal wanted).1) ++
        ((b.stealType type).2.steal wanted).2.units)
    rw [List.append_assoc]
    exact (ih _).append_left _

/-- The size is right after units of several types were stolen. -/
theorem Counted.steal (h : b.Counted) (wanted : List WorkType) : (b.steal wanted).2.Counted := by
  induction wanted generalizing b with
  | nil => exact h
  | cons type wanted ih => exact ih (h.stealType type)

/-! ### Room -/

theorem capacity_push (b : Backlog) (u : WorkUnit) : (b.push u).1.capacity = b.capacity := by
  unfold push
  split <;> rfl

theorem capacity_popFor {rank : Rank} {type : WorkType} {u : WorkUnit}
    (h : b.popFor rank type = (some u, b')) : b'.capacity = b.capacity := by
  unfold popFor takeFirst at h
  split at h <;> cases h
  rfl

theorem capacity_steal (b : Backlog) (wanted : List WorkType) :
    (b.steal wanted).2.capacity = b.capacity := by
  induction wanted generalizing b with
  | nil => rfl
  | cons type wanted ih => exact ih (b.stealType type).2

/-- Queue units one after the other; those that find the backlog full are left out. -/
def pushAll (b : Backlog) (arrivals : List WorkUnit) : Backlog :=
  arrivals.foldl (fun b u => (b.push u).1) b

theorem pushAll_append (b : Backlog) (first later : List WorkUnit) :
    b.pushAll (first ++ later) = (b.pushAll first).pushAll later := List.foldl_append

/-- **Of the units that arrive**, as many are queued as there is room for. -/
theorem pushAll_perm (h : b.Counted) (arrivals : List WorkUnit) :
    (b.pushAll arrivals).units.Perm (b.units ++ arrivals.take (b.capacity - b.size)) := by
  induction arrivals generalizing b with
  | nil =>
    rw [List.take_nil, List.append_nil]
    exact .refl _
  | cons u arrivals ih =>
    have later := ih (h.push u)
    by_cases full : b.capacity ≤ b.size
    · rw [(push_refused full).1, Nat.sub_eq_zero_of_le full] at later
      rw [Nat.sub_eq_zero_of_le full, pushAll, List.foldl_cons, (push_refused full).1]
      exact later
    · obtain ⟨-, perm, size⟩ := push_granted (u := u) (Nat.lt_of_not_le full)
      have room : b.capacity - b.size = b.capacity - (b.size + 1) + 1 := by omega
      rw [capacity_push, size] at later
      rw [room, List.take_succ_cons]
      exact (later.trans (perm.append_right _)).trans List.perm_middle.symm

/-! ### Labels -/

/-- The units of a bucket have its label. -/
def Filed (b : Backlog) : Prop := b.buckets.Grouped fun q => q.unit.label

/-- A bucket that shrinks stays filed under its label. -/
theorem Filed.setBucket (h : b.Filed) {l : Label} {bucket : Bucket}
    (sub : ∀ q ∈ bucket, q ∈ b.bucket l) :
    (b.setBucket l bucket).Grouped fun q => q.unit.label := by
  unfold Backlog.setBucket
  split
  · exact h.erase l
  · rename_i some
    exact h.insert (by simpa using some) fun q hq => h.of_mem (sub q hq)

/-- What is pushed is filed under its label. -/
theorem Filed.push (h : b.Filed) (u : WorkUnit) : (b.push u).1.Filed := by
  unfold Backlog.push
  split
  · exact h
  · have perm := Bucket.add_perm ⟨b.nextSeq, u⟩ (b.bucket u.label)
    refine h.insert (fun none => ?_) fun q hq => ?_
    · rw [none] at perm
      cases perm.nil_eq
    · rcases List.mem_cons.1 (perm.mem_iff.1 hq) with rfl | hq
      · rfl
      · exact h.of_mem hq

/-- What stays after a unit went out stays filed. -/
theorem Filed.popFor (h : b.Filed) {rank : Rank} {type : WorkType} {u : WorkUnit}
    (hpop : b.popFor rank type = (some u, b')) : b'.Filed := by
  unfold Backlog.popFor takeFirst at hpop
  split at hpop
  · cases hpop
  · rename_i q rest hbucket
    cases hpop
    refine h.setBucket fun q' hq' => ?_
    rw [hbucket]
    exact List.mem_cons_of_mem q hq'

/-- What stays when units were stolen stays filed. -/
theorem Filed.steal (h : b.Filed) (wanted : List WorkType) : (b.steal wanted).2.Filed := by
  induction wanted generalizing b with
  | nil => exact h
  | cons type wanted ih =>
    refine ih (b := (b.stealType type).2) ?_
    exact h.setBucket fun q hq => List.mem_of_mem_drop hq

/-- Where nothing is queued there is no bucket. -/
theorem Filed.find?_eq_none (h : b.Filed) (empty : b.units = []) (l : Label) :
    b.buckets.find? l = none := by
  cases found : b.buckets.find? l with
  | none => rfl
  | some bucket =>
    have perm := Table.flatten_values b.buckets l
    rw [List.map_eq_nil_iff.1 empty, found] at perm
    have absent := (List.append_eq_nil_iff.1 perm.symm.eq_nil).1
    exact absurd absent (h l bucket found).1

/-- **A thief leaves a backlog without units as it is.** -/
theorem Filed.steal_eq_self (h : b.Filed) (empty : b.units = []) (wanted : List WorkType) :
    b.steal wanted = ([], b) := by
  have unchanged (type : WorkType) : b.stealType type = ([], b) := by
    have absent := h.find?_eq_none empty ⟨type, none⟩
    simp [stealType, bucket, absent, Bucket.share, Backlog.setBucket, Table.erase_of_find? absent]
  induction wanted with
  | nil => rfl
  | cons type wanted ih => simp [Backlog.steal, unchanged, ih]

/-- A rank is served from the units for all, or from those for itself. -/
theorem source_cases (b : Backlog) (rank : Rank) (type : WorkType) :
    b.source rank type = ⟨type, none⟩ ∨ b.source rank type = ⟨type, some rank⟩ := by
  unfold source
  split
  · split
    · exact .inr rfl
    · exact .inl rfl
  · exact .inr rfl
  · exact .inl rfl

/-- **A request is met** by a unit of its type, which is for anybody or for its rank. -/
theorem Filed.popFor_some (h : b.Filed) {rank : Rank} {type : WorkType} {u : WorkUnit}
    (hpop : b.popFor rank type = (some u, b')) :
    u.type = type ∧ (u.target = none ∨ u.target = some rank) := by
  unfold Backlog.popFor takeFirst at hpop
  split at hpop
  · cases hpop
  · rename_i q rest hbucket
    cases hpop
    have first : q ∈ b.bucket (b.source rank type) := by
      rw [hbucket]
      exact List.mem_cons_self
    have label : q.unit.label = b.source rank type := h.of_mem first
    rcases source_cases b rank type with free | own
    · rw [free] at label
      exact ⟨congrArg Label.type label, .inl (congrArg Label.target label)⟩
    · rw [own] at label
      exact ⟨congrArg Label.type label, .inr (congrArg Label.target label)⟩

/-- A request is not met only if both buckets are empty that it could be met from. -/
theorem popFor_none {rank : Rank} {type : WorkType} (h : b.popFor rank type = (none, b')) :
    b.bucket ⟨type, some rank⟩ = [] ∧ b.bucket ⟨type, none⟩ = [] := by
  unfold popFor takeFirst at h
  split at h
  · rename_i empty
    unfold source at empty
    split at empty
    · rename_i first both
      split at empty <;> simp_all
    · simp_all
    · rename_i own
      exact ⟨own, empty⟩
  · cases h

/-- **A request that is not met** is one for which no unit is queued. -/
theorem Filed.popFor_none (filed : b.Filed) {rank : Rank} {type : WorkType}
    (h : b.popFor rank type = (none, b')) {u : WorkUnit} (hu : u ∈ b.units) (ht : u.type = type) :
    u.target ≠ none ∧ u.target ≠ some rank := by
  obtain ⟨own, free⟩ := Backlog.popFor_none h
  obtain ⟨q, hq, rfl⟩ := List.mem_map.1 hu
  have mem : q ∈ b.bucket ⟨type, q.unit.target⟩ := ht ▸ filed.mem_find? hq
  constructor
  · intro target
    rw [target, free] at mem
    cases mem
  · intro target
    rw [target, own] at mem
    cases mem

/-- A backlog that counts as empty is empty. -/
theorem Counted.units_eq_nil (h : b.Counted) (empty : b.isEmpty = true) : b.units = [] := by
  rw [isEmpty, beq_iff_eq, h] at empty
  exact List.length_eq_zero_iff.1 empty

end Backlog

/-! ## Waiting lists -/

namespace WaitingList

variable {w w' : WaitingList}

/-- The parked requests. -/
def all (w : WaitingList) : List Parked := w.lines.values.flatten

/-- A rank is parked if one of the parked requests is from it. -/
theorem isParked_iff {x : Rank} :
    w.isParked x = true ↔ ∃ p ∈ w.all, p.rank = x := by
  simp only [isParked, all, List.any_eq_true, List.mem_flatten, beq_iff_eq]
  constructor
  · rintro ⟨line, there, p, parked, same⟩
    exact ⟨p, ⟨line, there, parked⟩, same⟩
  · rintro ⟨p, ⟨line, there, parked⟩, same⟩
    exact ⟨line, there, p, parked, same⟩

/-- A request that is parked is one request more. -/
theorem park_perm (w : WaitingList) (p : Parked) : (w.park p).all.Perm (p :: w.all) := by
  refine (Table.flatten_values_insert w.lines p.type _).trans ?_
  rw [List.append_assoc]
  refine List.perm_middle.trans (.cons p ?_)
  exact (Table.flatten_values w.lines p.type).symm

/-- What is extracted was in the list and passes the test. -/
theorem extract_some {test : Parked → Bool} {l rest : List Parked} {p : Parked}
    (h : extract test l = some (p, rest)) : l.Perm (p :: rest) ∧ test p = true := by
  induction l generalizing rest with
  | nil => cases h
  | cons x l ih =>
    unfold extract at h
    split at h
    · cases h
      exact ⟨.refl _, by assumption⟩
    · obtain ⟨⟨y, rest'⟩, hy, e⟩ := Option.map_eq_some_iff.1 h
      cases e
      obtain ⟨perm, passes⟩ := ih hy
      exact ⟨(perm.cons x).trans (.swap _ _ _), passes⟩

/-- A request that a unit goes to is one request less. -/
theorem takeMatch_some {u : WorkUnit} {p : Parked} (h : w.takeMatch u = some (p, w')) :
    w.all.Perm (p :: w'.all) := by
  obtain ⟨⟨p, rest⟩, hp, e⟩ := Option.map_eq_some_iff.1 h
  cases e
  obtain ⟨perm, -⟩ := extract_some hp
  refine (Table.flatten_values w.lines u.type).trans ((perm.append_right _).trans ?_)
  rw [List.cons_append]
  refine .cons p ?_
  unfold all
  split
  · rename_i empty
    rw [List.isEmpty_iff.1 empty]
    exact .refl _
  · exact (Table.flatten_values_insert w.lines u.type rest).symm

/-- The stored size is the number of parked requests. -/
def Counted (w : WaitingList) : Prop := w.size = w.all.length

/-- The number of parked requests is right after one more was parked. -/
theorem Counted.park (h : w.Counted) (p : Parked) : (w.park p).Counted := by
  rw [Counted, (park_perm w p).length_eq, List.length_cons, ← h]
  rfl

/-- The number of parked requests is right after one was met. -/
theorem Counted.takeMatch (h : w.Counted) {u : WorkUnit} {p : Parked}
    (taken : w.takeMatch u = some (p, w')) : w'.Counted := by
  have left := (takeMatch_some taken).length_eq
  rw [List.length_cons, ← h] at left
  obtain ⟨found, -, e⟩ := Option.map_eq_some_iff.1 taken
  have size : w'.size = w.size - 1 := by rw [← (Prod.mk.inj e).2]
  rw [Counted, size, left, Nat.add_sub_cancel]

/-- The requests in a line are for its type. -/
def Filed (w : WaitingList) : Prop := w.lines.Grouped Parked.type

/-- A request that is parked is filed under its type. -/
theorem Filed.park (h : w.Filed) (p : Parked) : (w.park p).Filed := by
  refine h.insert (by simp) fun q hq => ?_
  rcases List.mem_append.1 hq with hq | hq
  · exact h.of_mem hq
  · rw [List.mem_singleton.1 hq]

/-- What stays after one was met stays filed. -/
theorem Filed.takeMatch (h : w.Filed) {u : WorkUnit} {p : Parked}
    (taken : w.takeMatch u = some (p, w')) : w'.Filed := by
  obtain ⟨⟨p, rest⟩, hp, e⟩ := Option.map_eq_some_iff.1 taken
  cases e
  obtain ⟨perm, -⟩ := extract_some hp
  show Table.Grouped Parked.type (if _ then _ else _)
  split
  · exact h.erase u.type
  · rename_i some
    refine h.insert (by simpa using some) fun q hq => ?_
    exact h.of_mem (perm.mem_iff.2 (List.mem_cons_of_mem p hq))

/-- **A unit goes to a request** for its type, which it is for. -/
theorem Filed.takeMatch_some (h : w.Filed) {u : WorkUnit} {p : Parked}
    (taken : w.takeMatch u = some (p, w')) : p.type = u.type ∧ p.admits u = true := by
  obtain ⟨⟨p, rest⟩, hp, e⟩ := Option.map_eq_some_iff.1 taken
  cases e
  obtain ⟨perm, admits⟩ := extract_some hp
  exact ⟨h.of_mem (perm.mem_iff.2 List.mem_cons_self), admits⟩

/-- If nothing is extracted, nothing passes the test. -/
theorem extract_none {test : Parked → Bool} {l : List Parked} (h : extract test l = none) :
    ∀ p ∈ l, test p = false := by
  induction l with
  | nil => exact fun _ hp => nomatch hp
  | cons x l ih =>
    unfold extract at h
    split at h
    · cases h
    · rename_i fails
      intro p hp
      rcases List.mem_cons.1 hp with rfl | hp
      · simpa using fails
      · exact ih (Option.map_eq_none_iff.1 h) p hp

/-- **A unit that goes to nobody** is one for which no request is parked. -/
theorem Filed.takeMatch_none (h : w.Filed) {u : WorkUnit} (unmatched : w.takeMatch u = none)
    {p : Parked} (hp : p ∈ w.all) (ht : u.type = p.type) : p.admits u = false := by
  have mem : p ∈ w.line u.type := ht ▸ h.mem_find? hp
  exact extract_none (Option.map_eq_none_iff.1 unmatched) p mem

end WaitingList

end WorkPool
