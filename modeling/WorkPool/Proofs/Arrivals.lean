import Mathlib.Data.List.Forall2
import Mathlib.Data.List.Pairwise
import WorkPool.Proofs.Backlog

/-!
# Arrivals: a backlog is one list

A backlog files its units under labels and keeps every bucket sorted, so that it never has to look
for a unit. What it gives back can be told without any of that. `Arrivals` keeps **one list** of
units in the order in which they arrived, and looks through all of it each time: the unit that goes
out next is the earliest among the most urgent ones that pass a test (`Arrivals.pick`).

The two are asked the same things, one after the other (`Demand`). Between two demands the backlog
holds the list (`Backlog.Holds`): its buckets hold the members of the list with their numbers of
arrival, each bucket sorted by urgency and number. Every demand keeps that and is met with the same
result (`Backlog.Holds.meet`), so whole sequences are (`Backlog.refines_arrivals`).
-/

namespace WorkPool

/-! ## The list -/

namespace Arrivals

/-- Whether a unit may go to a rank that asks for a type. -/
def isFor (rank : Rank) (type : WorkType) (u : WorkUnit) : Bool :=
  u.type == type && (u.target == none || u.target == some rank)

/-- Whether a unit is of a type and for anybody. -/
def isFree (type : WorkType) (u : WorkUnit) : Bool := u.type == type && u.target == none

/-- The next unit that passes a test, and the others: the earliest among the most urgent ones. A
unit gives way to a later one only if that is more urgent. -/
def pick (test : WorkUnit → Bool) : List WorkUnit → Option (WorkUnit × List WorkUnit)
  | [] => none
  | u :: later =>
    match pick test later with
    | none => if test u then some (u, later) else none
    | some (v, rest) =>
      if test u && decide (v.priority ≤ u.priority) then some (u, later) else some (v, u :: rest)

/-- The next units that pass a test, up to a number, and the others. -/
def take (test : WorkUnit → Bool) : Nat → List WorkUnit → List WorkUnit × List WorkUnit
  | 0, l => ([], l)
  | n + 1, l =>
    match pick test l with
    | none => ([], l)
    | some (u, l) =>
      let (units, l) := take test n l
      (u :: units, l)

/-- Let a unit arrive, if there is room. -/
def push (capacity : Nat) (l : List WorkUnit) (u : WorkUnit) :
    Except Error Unit × List WorkUnit :=
  if l.length < capacity then (.ok (), l ++ [u])
  else (.error (.resource "queued_units" (l.length + 1) capacity), l)

/-- The next unit of a type for a rank. -/
def popFor (rank : Rank) (type : WorkType) (l : List WorkUnit) :
    Option WorkUnit × List WorkUnit :=
  match pick (isFor rank type) l with
  | none => (none, l)
  | some (u, l) => (some u, l)

/-- For each wanted type in turn, the first half of the units for anybody, rounded up. -/
def steal : List WorkUnit → List WorkType → List WorkUnit × List WorkUnit
  | l, [] => ([], l)
  | l, type :: wanted =>
    let (units, l) := take (isFree type) ((l.countP (isFree type) + 1) / 2) l
    let (more, l) := steal l wanted
    (units ++ more, l)

/-- A unit for all is filed without a rank. -/
theorem isFree_iff {type : WorkType} {u : WorkUnit} :
    isFree type u = true ↔ u.label = ⟨type, none⟩ := by
  simp [isFree, WorkUnit.label]

/-- A unit for a rank is filed without a rank, or with that one. -/
theorem isFor_iff {rank : Rank} {type : WorkType} {u : WorkUnit} :
    isFor rank type u = true ↔ u.label = ⟨type, none⟩ ∨ u.label = ⟨type, some rank⟩ := by
  simp [isFor, WorkUnit.label, and_or_left]

end Arrivals

/-! ## Demands -/

/-- What is asked of a backlog. -/
inductive Demand where
  | push (u : WorkUnit)
  | popFor (rank : Rank) (type : WorkType)
  | steal (wanted : List WorkType)
  | drain

/-- What it gives back. -/
inductive Yield where
  | pushed (result : Except Error Unit)
  | popped (u : Option WorkUnit)
  | stolen (units : List WorkUnit)
  | drained (units : List WorkUnit)

/-- Two results agree if they are equal. Only what is drained may be in another order than that of
arrival: it is in descending order of urgency. -/
def Yield.Agrees : Yield → Yield → Prop
  | .drained units, .drained l => units.Perm l ∧ units.Pairwise fun u v => v.priority ≤ u.priority
  | got, expected => got = expected

/-- The list meets a demand. -/
def Arrivals.meet (capacity : Nat) (l : List WorkUnit) : Demand → Yield × List WorkUnit
  | .push u => (.pushed (push capacity l u).1, (push capacity l u).2)
  | .popFor rank type => (.popped (popFor rank type l).1, (popFor rank type l).2)
  | .steal wanted => (.stolen (steal l wanted).1, (steal l wanted).2)
  | .drain => (.drained l, [])

/-- The list meets demands one after the other. -/
def Arrivals.meetAll (capacity : Nat) : List WorkUnit → List Demand → List Yield × List WorkUnit
  | l, [] => ([], l)
  | l, d :: demands =>
    let (y, l) := meet capacity l d
    let (ys, l) := meetAll capacity l demands
    (y :: ys, l)

/-- A backlog meets a demand. -/
def Backlog.meet (b : Backlog) : Demand → Yield × Backlog
  | .push u => (.pushed (b.push u).2, (b.push u).1)
  | .popFor rank type => (.popped (b.popFor rank type).1, (b.popFor rank type).2)
  | .steal wanted => (.stolen (b.steal wanted).1, (b.steal wanted).2)
  | .drain => (.drained b.drain.1, b.drain.2)

/-- A backlog meets demands one after the other. -/
def Backlog.meetAll : Backlog → List Demand → List Yield × Backlog
  | b, [] => ([], b)
  | b, d :: demands =>
    let (y, b) := b.meet d
    let (ys, b) := b.meetAll demands
    (y :: ys, b)

/-! ## The order in which units go out -/

namespace Queued

variable {p q r : Queued}

/-- The more urgent unit goes first, and of equally urgent ones the one that came first. -/
theorem before_iff : p.before q = true ↔ q.unit.priority.toInt < p.unit.priority.toInt ∨
    p.unit.priority.toInt = q.unit.priority.toInt ∧ p.seq < q.seq := by
  simp [before, Int32.lt_iff_toInt_lt, Int32.toInt_inj]

theorem before_trans (h : p.before q = true) (h' : q.before r = true) : p.before r = true := by
  rw [before_iff] at *
  omega

/-- Of two units with different numbers, one goes out before the other. -/
theorem before_or_before (h : p.seq ≠ q.seq) : p.before q = true ∨ q.before p = true := by
  rw [before_iff, before_iff]
  omega

end Queued

/-- The newest unit is put in its place. -/
theorem Bucket.pairwise_add {q : Queued} {bucket : Bucket}
    (sorted : bucket.Pairwise fun x y => x.before y = true) (newest : ∀ x ∈ bucket, x.seq < q.seq) :
    (Bucket.add q bucket).Pairwise fun x y => x.before y = true := by
  induction bucket with
  | nil => exact List.pairwise_singleton _ _
  | cons x rest ih =>
    obtain ⟨first, sorted⟩ := List.pairwise_cons.1 sorted
    obtain ⟨older, newest⟩ := List.forall_mem_cons.1 newest
    unfold Bucket.add
    split
    · rename_i ahead
      refine List.pairwise_cons.2 ⟨fun y hy => ?_, ih sorted newest⟩
      rcases List.mem_cons.1 ((Bucket.add_perm q rest).mem_iff.1 hy) with rfl | hy
      · exact ahead
      · exact first y hy
    · rename_i behind
      have ahead := (Queued.before_or_before (Nat.ne_of_lt older)).resolve_left behind
      refine List.pairwise_cons.2 ⟨fun y hy => ?_, List.pairwise_cons.2 ⟨first, sorted⟩⟩
      rcases List.mem_cons.1 hy with rfl | hy
      · exact ahead
      · exact Queued.before_trans ahead (first y hy)

/-- Units with ascending numbers are different. -/
theorem Queued.nodup_of_ascending {l : List Queued} (h : l.Pairwise fun p q => p.seq < q.seq) :
    l.Nodup := by
  refine h.imp (S := (· ≠ ·)) fun {p q} less e => ?_
  rw [e] at less
  exact Nat.lt_irrefl _ less

/-! ## What the list gives back -/

namespace Arrivals

variable {test : WorkUnit → Bool}

/-- Nothing is picked where nothing passes the test. -/
theorem pick_none {l : List WorkUnit} (h : ∀ u ∈ l, test u = false) : pick test l = none := by
  induction l with
  | nil => rfl
  | cons u later ih =>
    obtain ⟨first, h⟩ := List.forall_mem_cons.1 h
    simp [pick, ih h, first]

/-- What is picked is in the list and passes the test. -/
theorem mem_of_pick {l rest : List WorkUnit} {u : WorkUnit} (h : pick test l = some (u, rest)) :
    u ∈ l ∧ test u = true := by
  induction l generalizing rest with
  | nil => cases h
  | cons v later ih =>
    rw [pick] at h
    split at h
    · split at h
      · rename_i passes
        cases h
        exact ⟨List.mem_cons_self, passes⟩
      · cases h
    · rename_i u' rest' picked
      split at h
      · rename_i passes
        cases h
        exact ⟨List.mem_cons_self, (Bool.and_eq_true_iff.1 passes).1⟩
      · cases h
        exact ⟨List.mem_cons_of_mem v (ih picked).1, (ih picked).2⟩

/-- **The unit that is picked** is more urgent than the earlier ones that pass the test, and at
least as urgent as the later ones. -/
theorem pick_some {front back : List WorkUnit} {u : WorkUnit} (passes : test u = true)
    (earlier : ∀ v ∈ front, test v = true → v.priority < u.priority)
    (later : ∀ v ∈ back, test v = true → v.priority ≤ u.priority) :
    pick test (front ++ u :: back) = some (u, front ++ back) := by
  induction front with
  | nil =>
    show pick test (u :: back) = some (u, back)
    rw [pick]
    split
    · rw [if_pos passes]
    · rename_i v rest picked
      obtain ⟨mem, passes'⟩ := mem_of_pick picked
      rw [if_pos (by simp [passes, later v mem passes'])]
  | cons v front ih =>
    obtain ⟨less, earlier⟩ := List.forall_mem_cons.1 earlier
    rw [List.cons_append, pick, ih earlier]
    by_cases passes' : test v = true
    · have urgent : ¬ u.priority ≤ v.priority := Int32.not_le.2 (less passes')
      simp [urgent]
    · simp [passes']

section

variable {l m : List Queued} {q : Queued}

/-- The unit that goes out before all others that pass the test is picked. -/
theorem pick_first (ascending : l.Pairwise fun p q => p.seq < q.seq) (mem : q ∈ l)
    (passes : test q.unit = true)
    (first : ∀ x ∈ l, test x.unit = true → x ≠ q → q.before x = true) :
    ∃ front back, l = front ++ q :: back ∧
      pick test (l.map Queued.unit) = some (q.unit, (front ++ back).map Queued.unit) := by
  obtain ⟨front, back, rfl⟩ := List.append_of_mem mem
  obtain ⟨-, after, before⟩ := List.pairwise_append.1 ascending
  have after := (List.pairwise_cons.1 after).1
  refine ⟨front, back, rfl, ?_⟩
  rw [List.map_append, List.map_append, List.map_cons]
  refine pick_some passes (fun v hv passes' => ?_) fun v hv passes' => ?_
  · obtain ⟨x, hx, rfl⟩ := List.mem_map.1 hv
    have older := before x hx q List.mem_cons_self
    have ahead := first x (List.mem_append_left _ hx) passes' fun e => by
      rw [e] at older
      exact Nat.lt_irrefl _ older
    rw [Queued.before_iff] at ahead
    rw [Int32.lt_iff_toInt_lt]
    omega
  · obtain ⟨x, hx, rfl⟩ := List.mem_map.1 hv
    have newer := after x hx
    have ahead := first x (List.mem_append_right _ (List.mem_cons_of_mem q hx)) passes' fun e => by
      rw [e] at newer
      exact Nat.lt_irrefl _ newer
    rw [Queued.before_iff] at ahead
    rw [Int32.le_iff_toInt_le]
    omega

/-- **The units that are taken** are the first ones of all that pass the test, sorted. What is left
after the first of them is what passes the test in the rest of the list. -/
theorem take_sorted (test : WorkUnit → Bool) (n : Nat)
    (ascending : l.Pairwise fun p q => p.seq < q.seq)
    (sorted : m.Pairwise fun p q => p.before q = true)
    (mem : ∀ q, q ∈ m ↔ q ∈ l ∧ test q.unit = true) :
    ∃ l', l'.Sublist l ∧ l.Perm (m.take n ++ l') ∧
      take test n (l.map Queued.unit) = ((m.take n).map Queued.unit, l'.map Queued.unit) := by
  induction n generalizing l m with
  | zero => exact ⟨l, .refl l, .refl l, rfl⟩
  | succ n ih =>
    cases m with
    | nil =>
      have none : pick test (l.map Queued.unit) = none := by
        refine pick_none fun u hu => ?_
        obtain ⟨q, hq, rfl⟩ := List.mem_map.1 hu
        exact Bool.eq_false_iff.2 fun passes => nomatch (mem q).2 ⟨hq, passes⟩
      refine ⟨l, .refl l, .refl l, ?_⟩
      rw [take, none]
      rfl
    | cons q m =>
      obtain ⟨hq, passes⟩ := (mem q).1 List.mem_cons_self
      obtain ⟨ahead, sorted⟩ := List.pairwise_cons.1 sorted
      obtain ⟨front, back, rfl, picked⟩ := pick_first ascending hq passes fun x hx passes' ne =>
        ahead x ((List.mem_cons.1 ((mem x).2 ⟨hx, passes'⟩)).resolve_left ne)
      have sub : (front ++ back).Sublist (front ++ q :: back) :=
        (List.sublist_cons_self q back).append_left front
      have perm : (front ++ q :: back).Perm (q :: (front ++ back)) := List.perm_middle
      have nodup : (q :: (front ++ back)).Nodup :=
        perm.nodup (Queued.nodup_of_ascending ascending)
      have mem' (x : Queued) : x ∈ m ↔ x ∈ front ++ back ∧ test x.unit = true := by
        have ne : x ∈ m → x ≠ q := by
          rintro hx rfl
          exact absurd (Queued.before_iff.1 (ahead x hx)) (by omega)
        have ne' : x ∈ front ++ back → x ≠ q := by
          rintro hx rfl
          exact (List.nodup_cons.1 nodup).1 hx
        have either := mem x
        rw [perm.mem_iff, List.mem_cons, List.mem_cons] at either
        constructor
        · intro hx
          exact ⟨(either.1 (.inr hx)).1.resolve_left (ne hx), (either.1 (.inr hx)).2⟩
        · rintro ⟨hx, passes'⟩
          exact (either.2 ⟨.inr hx, passes'⟩).resolve_left (ne' hx)
      obtain ⟨l', sub', perm', taken⟩ := ih (ascending.sublist sub) sorted mem'
      refine ⟨l', sub'.trans sub, perm.trans (perm'.cons q), ?_⟩
      rw [take, picked]
      simp only [taken]
      rfl

end

end Arrivals

/-! ## What the backlog holds -/

namespace Backlog

variable {b : Backlog} {capacity : Nat} {l l' : List Queued}

/-- A backlog holds some units, with the numbers of their arrival, and has room for so many. -/
structure Holds (b : Backlog) (capacity : Nat) (l : List Queued) : Prop where
  filed : b.Filed
  members : b.buckets.values.flatten.Perm l
  /-- every bucket is in the order in which its units go out -/
  sorted : ∀ label, (b.bucket label).Pairwise fun p q => p.before q = true
  /-- the list is in the order of arrival -/
  ascending : l.Pairwise fun p q => p.seq < q.seq
  numbered : ∀ q ∈ l, q.seq < b.nextSeq
  size : b.size = l.length
  limit : b.capacity = capacity
  room : l.length ≤ capacity

/-- An empty backlog holds the empty list. -/
theorem holds_empty (capacity : Nat) : ({ capacity } : Backlog).Holds capacity [] where
  filed := Table.grouped_empty
  members := .refl _
  sorted _ := .nil
  ascending := .nil
  numbered _ h := nomatch h
  size := rfl
  limit := rfl
  room := Nat.zero_le _

/-- A unit stands in the bucket of its label. -/
theorem Holds.mem_bucket (h : b.Holds capacity l) {label : Label} {q : Queued} :
    q ∈ b.bucket label ↔ q ∈ l ∧ q.unit.label = label := by
  constructor
  · intro hq
    have there := (Table.flatten_values b.buckets label).mem_iff.2 (List.mem_append_left _ hq)
    exact ⟨h.members.mem_iff.1 there, h.filed.of_mem hq⟩
  · rintro ⟨hq, rfl⟩
    exact h.filed.mem_find? (h.members.mem_iff.2 hq)

/-- No two units came at the same time. -/
theorem Holds.seq_ne (h : b.Holds capacity l) {p q : Queued} (hp : p ∈ l) (hq : q ∈ l)
    (ne : p ≠ q) : p.seq ≠ q.seq :=
  have : Std.Symm fun p q : Queued => p.seq ≠ q.seq := ⟨fun _ _ => Ne.symm⟩
  (h.ascending.imp Nat.ne_of_lt).forall hp hq ne

theorem Holds.counted (h : b.Holds capacity l) : b.Counted := by
  rw [Counted, h.size, units, List.length_map, h.members.length_eq]

/-- A bucket has the units of the list with its label. -/
theorem Holds.bucket_perm (h : b.Holds capacity l) (label : Label) :
    (b.bucket label).Perm (l.filter fun q => q.unit.label == label) := by
  have nodup : (b.bucket label).Nodup := (h.sorted label).imp fun {p q} ahead e => by
    rw [e] at ahead
    exact absurd (Queued.before_iff.1 ahead) (by omega)
  have once := (Queued.nodup_of_ascending h.ascending).filter fun q => q.unit.label == label
  refine (List.perm_ext_iff_of_nodup nodup once).2 fun q => ?_
  rw [h.mem_bucket, List.mem_filter, beq_iff_eq]

theorem bucket_setBucket (b : Backlog) (label : Label) (bucket : Bucket) (label' : Label) :
    ((b.setBucket label bucket).find? label').getD [] =
      if label' = label then bucket else b.bucket label' := by
  unfold setBucket
  by_cases same : label' = label
  · subst same
    rw [if_pos rfl]
    split
    · rename_i empty
      rw [Table.find?_erase_self, List.isEmpty_iff.1 empty]
      rfl
    · rw [Table.find?_insert_self]
      rfl
  · rw [if_neg same]
    split
    · rw [Table.find?_erase_ne _ same]
      rfl
    · rw [Table.find?_insert_ne _ same]
      rfl

/-- **Units are taken from the front of a bucket.** -/
theorem Holds.takeFrom (h : b.Holds capacity l) {label : Label} {n : Nat}
    (enough : n ≤ (b.bucket label).length) (sub : l'.Sublist l)
    (perm : l.Perm ((b.bucket label).take n ++ l')) :
    { b with
      buckets := b.setBucket label ((b.bucket label).drop n)
      size := b.size - n : Backlog }.Holds capacity l' where
  filed := h.filed.setBucket fun q hq => List.mem_of_mem_drop hq
  members := by
    have all : l.Perm ((b.bucket label).take n ++
        ((b.bucket label).drop n ++ (b.buckets.erase label).values.flatten)) := by
      rw [← List.append_assoc, List.take_append_drop]
      exact h.members.symm.trans (Table.flatten_values b.buckets label)
    refine (flatten_setBucket b label _).trans ?_
    exact (List.perm_append_left_iff _).1 (all.symm.trans perm)
  sorted label' := by
    show (((b.setBucket label _).find? label').getD []).Pairwise _
    rw [bucket_setBucket]
    split
    · exact (h.sorted label).sublist (List.drop_sublist n _)
    · exact h.sorted label'
  ascending := h.ascending.sublist sub
  numbered q hq := h.numbered q (sub.subset hq)
  size := by
    have total := perm.length_eq
    rw [List.length_append, List.length_take, Nat.min_eq_left enough] at total
    show b.size - n = l'.length
    rw [h.size]
    omega
  limit := h.limit
  room := Nat.le_trans sub.length_le h.room

/-! ## Demands are met alike -/

/-- **A unit arrives** at the end of the list. -/
theorem Holds.push (h : b.Holds capacity l) (u : WorkUnit) :
    ∃ l', (b.push u).1.Holds capacity l' ∧
      Arrivals.push capacity (l.map Queued.unit) u = ((b.push u).2, l'.map Queued.unit) := by
  rw [Arrivals.push, List.length_map]
  by_cases full : b.capacity ≤ b.size
  · have refused : ¬ l.length < capacity := by
      rw [← h.size, ← h.limit]
      exact Nat.not_lt.2 full
    refine ⟨l, ?_, ?_⟩
    · rw [Backlog.push, if_pos full]
      exact h
    · rw [Backlog.push, if_pos full, if_neg refused, h.size, h.limit]
  · have fits : l.length < capacity := by
      rw [← h.size, ← h.limit]
      exact Nat.lt_of_not_le full
    refine ⟨l ++ [⟨b.nextSeq, u⟩], ?_, ?_⟩
    · have filed := h.filed.push u
      rw [Backlog.push, if_neg full] at filed ⊢
      refine ⟨filed, ?_, ?_, ?_, ?_, ?_, h.limit, ?_⟩
      · refine (Table.flatten_values_insert b.buckets u.label _).trans ?_
        refine ((Bucket.add_perm _ _).append_right _).trans ?_
        refine .trans ?_ (List.perm_append_singleton _ _).symm
        exact ((Table.flatten_values b.buckets u.label).symm.trans h.members).cons _
      · intro label
        show (((b.buckets.insert u.label _).find? label).getD []).Pairwise _
        by_cases same : label = u.label
        · subst same
          rw [Table.find?_insert_self]
          exact Bucket.pairwise_add (h.sorted u.label) fun x hx =>
            h.numbered x (h.mem_bucket.1 hx).1
        · rw [Table.find?_insert_ne _ same]
          exact h.sorted label
      · refine List.pairwise_append.2 ⟨h.ascending, List.pairwise_singleton _ _, ?_⟩
        intro p hp q hq
        rw [List.mem_singleton.1 hq]
        exact h.numbered p hp
      · intro q hq
        rcases List.mem_append.1 hq with hq | hq
        · exact Nat.lt_succ_of_lt (h.numbered q hq)
        · rw [List.mem_singleton.1 hq]
          exact Nat.lt_succ_self _
      · rw [List.length_append, h.size]
        rfl
      · rw [List.length_append]
        exact fits
    · rw [Backlog.push, if_neg full, if_pos fits, List.map_append]
      rfl

/-- The first unit of the bucket that a rank is served from goes out before all others that are for
the rank: those of the same bucket come after it, and those of other buckets are less urgent. -/
theorem Holds.source_first (h : b.Holds capacity l) {rank : Rank} {type : WorkType} {q x : Queued}
    {rest : List Queued} (served : b.bucket (b.source rank type) = q :: rest) (hx : x ∈ l)
    (other : Arrivals.isFor rank type x.unit = true) (ne : x ≠ q) : q.before x = true := by
  have head {label : Label} {p : Queued} {bucket : Bucket} (e : b.bucket label = p :: bucket)
      (hx : x ∈ b.bucket label) : x = p ∨ p.before x = true := by
    have sorted := h.sorted label
    rw [e] at sorted hx
    exact (List.mem_cons.1 hx).imp_right ((List.pairwise_cons.1 sorted).1 x)
  have filed : x ∈ b.bucket ⟨type, none⟩ ∨ x ∈ b.bucket ⟨type, some rank⟩ :=
    (Arrivals.isFor_iff.1 other).imp (fun label => h.mem_bucket.2 ⟨hx, label⟩)
      fun label => h.mem_bucket.2 ⟨hx, label⟩
  unfold source at served
  split at served
  · rename_i t ts u us own free
    have ht := h.mem_bucket.1 (own ▸ List.mem_cons_self)
    have hu := h.mem_bucket.1 (free ▸ List.mem_cons_self)
    split at served
    · rename_i ahead
      rw [own] at served
      cases served
      rcases filed with filed | filed
      · rcases head free filed with rfl | behind
        · exact ahead
        · exact Queued.before_trans ahead behind
      · exact (head own filed).resolve_left ne
    · rename_i behind
      rw [free] at served
      cases served
      have apart : t ≠ q := by
        rintro rfl
        cases ht.2.symm.trans hu.2
      have ahead := (Queued.before_or_before (h.seq_ne ht.1 hu.1 apart)).resolve_left behind
      rcases filed with filed | filed
      · exact (head free filed).resolve_left ne
      · rcases head own filed with rfl | behind
        · exact ahead
        · exact Queued.before_trans ahead behind
  · rename_i t ts own free
    rw [own] at served
    cases served
    rw [free] at filed
    exact (head own (filed.resolve_left List.not_mem_nil)).resolve_left ne
  · rename_i own
    rw [own] at filed
    exact (head served (filed.resolve_right List.not_mem_nil)).resolve_left ne

/-- **The next unit for a rank** is the first of a bucket. -/
theorem Holds.popFor (h : b.Holds capacity l) (rank : Rank) (type : WorkType) :
    ∃ l', (b.popFor rank type).2.Holds capacity l' ∧
      Arrivals.popFor rank type (l.map Queued.unit) =
        ((b.popFor rank type).1, l'.map Queued.unit) := by
  cases served : b.bucket (b.source rank type) with
  | nil =>
    have unmet : b.popFor rank type = (none, b) := by simp only [Backlog.popFor, takeFirst, served]
    have none : Arrivals.pick (Arrivals.isFor rank type) (l.map Queued.unit) = none := by
      refine Arrivals.pick_none fun u hu => ?_
      have queued : u ∈ b.units := (h.members.map Queued.unit).mem_iff.2 hu
      by_cases htype : u.type = type
      · obtain ⟨free, own⟩ := h.filed.popFor_none unmet queued htype
        simp [Arrivals.isFor, Option.ne_none_iff_isSome.1 free, own]
      · simp [Arrivals.isFor, htype]
    refine ⟨l, ?_, ?_⟩
    · rw [unmet]
      exact h
    · rw [Arrivals.popFor, none, unmet]
  | cons q rest =>
    have met : b.popFor rank type = (some q.unit,
        { b with
          buckets := b.setBucket (b.source rank type) ((b.bucket (b.source rank type)).drop 1)
          size := b.size - 1 }) := by
      simp only [Backlog.popFor, takeFirst, served, List.drop_succ_cons, List.drop_zero]
    obtain ⟨hq, label⟩ := h.mem_bucket.1 (served ▸ List.mem_cons_self)
    have passes : Arrivals.isFor rank type q.unit = true := by
      rw [Arrivals.isFor_iff, label]
      exact b.source_cases rank type
    obtain ⟨front, back, rfl, picked⟩ := Arrivals.pick_first h.ascending hq passes
      fun x hx other ne => h.source_first served hx other ne
    refine ⟨front ++ back, ?_, ?_⟩
    · rw [met]
      refine h.takeFrom ?_ ((List.sublist_cons_self q back).append_left front) ?_
      · rw [served]
        exact Nat.succ_le_succ (Nat.zero_le _)
      · rw [served]
        exact List.perm_middle
    · rw [Arrivals.popFor, picked, met]

/-- The units for all that there are of a type. -/
theorem Holds.countP_isFree (h : b.Holds capacity l) (type : WorkType) :
    (l.map Queued.unit).countP (Arrivals.isFree type) = (b.bucket ⟨type, none⟩).length := by
  have same : Arrivals.isFree type ∘ Queued.unit = fun q => q.unit.label == ⟨type, none⟩ := by
    funext q
    exact Bool.eq_iff_iff.2 (Arrivals.isFree_iff.trans beq_iff_eq.symm)
  rw [(h.bucket_perm ⟨type, none⟩).length_eq, List.countP_map, List.countP_eq_length_filter, same]

/-- **What is stolen of a type** is what the list gives for it. -/
theorem Holds.stealType (h : b.Holds capacity l) (type : WorkType) :
    ∃ l', (b.stealType type).2.Holds capacity l' ∧
      Arrivals.take (Arrivals.isFree type)
          (((l.map Queued.unit).countP (Arrivals.isFree type) + 1) / 2) (l.map Queued.unit) =
        ((b.stealType type).1, l'.map Queued.unit) := by
  obtain ⟨l', sub, perm, taken⟩ := Arrivals.take_sorted (Arrivals.isFree type)
    (Bucket.share (b.bucket ⟨type, none⟩).length) h.ascending (h.sorted ⟨type, none⟩) fun q => by
      rw [h.mem_bucket, Arrivals.isFree_iff]
  refine ⟨l', h.takeFrom ?_ sub perm, ?_⟩
  · unfold Bucket.share
    omega
  · rw [h.countP_isFree]
    exact taken

/-- **Units are stolen** from one bucket after the other. -/
theorem Holds.steal (h : b.Holds capacity l) (wanted : List WorkType) :
    ∃ l', (b.steal wanted).2.Holds capacity l' ∧
      Arrivals.steal (l.map Queued.unit) wanted = ((b.steal wanted).1, l'.map Queued.unit) := by
  induction wanted generalizing b l with
  | nil => exact ⟨l, h, rfl⟩
  | cons type wanted ih =>
    obtain ⟨l₁, first, taken⟩ := h.stealType type
    obtain ⟨l', later, stolen⟩ := ih first
    refine ⟨l', later, ?_⟩
    simp only [Arrivals.steal, taken, stolen]
    rfl

instance : Std.TransCmp drainOrder :=
  have : Std.TransCmp fun u v : WorkUnit => compare v.priority u.priority :=
    @Std.TransCmp.opposite _ (compareOn WorkUnit.priority) _
  inferInstanceAs (Std.TransCmp (compareLex (fun u v => compare v.priority u.priority)
    (compareLex (compareOn WorkUnit.type) (compareLex (compareOn WorkUnit.target)
      (compareLex (compareOn WorkUnit.payload) (compareOn WorkUnit.answer))))))

/-- The more urgent units are drained first. -/
theorem pairwise_drain (b : Backlog) :
    b.drain.1.Pairwise fun u v => v.priority ≤ u.priority := by
  have total (u v : WorkUnit) : ((drainOrder u v).isLE || (drainOrder v u).isLE) = true := by
    have swap : drainOrder v u = (drainOrder u v).swap := Std.OrientedCmp.eq_swap
    rw [swap]
    cases drainOrder u v <;> rfl
  have sorted : b.drain.1.Pairwise fun u v => (drainOrder u v).isLE = true :=
    List.pairwise_mergeSort (fun _ _ _ => Std.TransCmp.isLE_trans) total _
  refine sorted.imp fun {u v} le => ?_
  have least : (compare v.priority u.priority).isLE = true := by
    cases first : compare v.priority u.priority with
    | gt =>
      rw [drainOrder, first] at le
      cases le
    | _ => rfl
  exact Std.isLE_compare.1 least

/-- **Everything is dropped** from both. -/
theorem Holds.drain (h : b.Holds capacity l) :
    b.drain.2.Holds capacity [] ∧ b.drain.1.Perm (l.map Queued.unit) := by
  refine ⟨⟨Table.grouped_empty, .refl _, fun _ => .nil, .nil, nofun, rfl, h.limit,
    Nat.zero_le _⟩, ?_⟩
  exact (List.mergeSort_perm _ _).trans (h.members.map Queued.unit)

/-- **Whatever is asked**, the backlog and the list agree, and the backlog holds the list again. -/
theorem Holds.meet (h : b.Holds capacity l) (d : Demand) :
    (b.meet d).1.Agrees (Arrivals.meet capacity (l.map Queued.unit) d).1 ∧
      ∃ l', (b.meet d).2.Holds capacity l' ∧
        (Arrivals.meet capacity (l.map Queued.unit) d).2 = l'.map Queued.unit := by
  cases d with
  | push u =>
    obtain ⟨l', holds, e⟩ := h.push u
    simp only [Arrivals.meet, e]
    exact ⟨rfl, l', holds, rfl⟩
  | popFor rank type =>
    obtain ⟨l', holds, e⟩ := h.popFor rank type
    simp only [Arrivals.meet, e]
    exact ⟨rfl, l', holds, rfl⟩
  | steal wanted =>
    obtain ⟨l', holds, e⟩ := h.steal wanted
    simp only [Arrivals.meet, e]
    exact ⟨rfl, l', holds, rfl⟩
  | drain => exact ⟨⟨h.drain.2, b.pairwise_drain⟩, [], h.drain.1, rfl⟩

/-- **One demand after the other** is met alike. -/
theorem Holds.meetAll (h : b.Holds capacity l) (demands : List Demand) :
    List.Forall₂ Yield.Agrees (b.meetAll demands).1
        (Arrivals.meetAll capacity (l.map Queued.unit) demands).1 ∧
      ∃ l', (b.meetAll demands).2.Holds capacity l' ∧
        (Arrivals.meetAll capacity (l.map Queued.unit) demands).2 = l'.map Queued.unit := by
  induction demands generalizing b l with
  | nil => exact ⟨.nil, l, h, rfl⟩
  | cons d demands ih =>
    obtain ⟨agrees, l₁, holds, e⟩ := h.meet d
    obtain ⟨later, l', holds', e'⟩ := ih holds
    simp only [Arrivals.meetAll, Backlog.meetAll, e]
    exact ⟨.cons agrees later, l', holds', e'⟩

/-! ## What can be read off -/

/-- What is counted of a type are the units for all. -/
theorem find?_counts (b : Backlog) (type : WorkType) :
    b.counts.find? type =
      (b.buckets.find? ⟨type, none⟩).map fun bucket => UInt64.ofNat bucket.length := by
  cases counted : b.counts.find? type with
  | some n =>
    obtain ⟨⟨⟨type', target⟩, bucket⟩, entry, e⟩ :=
      List.mem_filterMap.1 (Table.mem_of_find?_ofList counted)
    cases target with
    | some target => cases e
    | none =>
      cases e
      rw [Table.find?, Table.lookup_of_mem b.buckets.ascending entry]
      rfl
  | none =>
    cases found : b.buckets.find? ⟨type, none⟩ with
    | none => rfl
    | some bucket =>
      rw [← Table.ofList_entries b.buckets] at found
      have there : b.counts.contains type = true :=
        (Table.contains_foldl_insert _ .empty type).2 (.inl (List.mem_map.2
          ⟨_, List.mem_filterMap.2 ⟨_, Table.mem_of_find?_ofList found, rfl⟩, rfl⟩))
      rw [Table.contains, counted] at there
      cases there

/-- **The counts** tell how many units for anybody there are. -/
theorem Holds.find?_counts (h : b.Holds capacity l) (fits : capacity < UInt64.size)
    (type : WorkType) :
    (b.counts.find? type).map UInt64.toNat =
      if (l.map Queued.unit).countP (Arrivals.isFree type) = 0 then none
      else some ((l.map Queued.unit).countP (Arrivals.isFree type)) := by
  have counted := h.countP_isFree type
  have few : (l.map Queued.unit).countP (Arrivals.isFree type) < UInt64.size := by
    refine Nat.lt_of_le_of_lt (Nat.le_trans List.countP_le_length ?_) fits
    rw [List.length_map]
    exact h.room
  rw [Backlog.find?_counts]
  cases found : b.buckets.find? ⟨type, none⟩ with
  | none =>
    rw [bucket, found] at counted
    rw [counted]
    rfl
  | some bucket =>
    rw [Backlog.bucket, found] at counted
    have some := List.length_pos_iff.2 (h.filed _ _ found).1
    rw [Option.getD_some] at counted
    rw [counted] at few ⊢
    rw [if_neg (Nat.ne_of_gt some), Option.map_some, Option.map_some,
      UInt64.toNat_ofNat_of_lt' few]

end Backlog

/-- **A backlog is one list in the order of arrival.** Whatever is asked of a new backlog, it gives
back what the list does. Afterwards

* its size is the length of the list, which is within the capacity;
* its counts tell how many units for anybody there are of each type of which there is one;
* a unit that is popped makes it smaller by one, and units that are stolen by their number. So its
  size is never less than what is taken off it. -/
theorem Backlog.refines_arrivals (capacity : UInt64) (demands : List Demand) :
    let (given, b) := Backlog.meetAll { capacity := capacity.toNat } demands
    let (expected, l) := Arrivals.meetAll capacity.toNat [] demands
    List.Forall₂ Yield.Agrees given expected ∧
    b.size = l.length ∧ l.length ≤ capacity.toNat ∧
    (∀ type, (b.counts.find? type).map UInt64.toNat =
      if l.countP (Arrivals.isFree type) = 0 then none
      else some (l.countP (Arrivals.isFree type))) ∧
    (∀ rank type u b', b.popFor rank type = (some u, b') → b'.size + 1 = b.size) ∧
    ∀ wanted, (b.steal wanted).1.length + (b.steal wanted).2.size = b.size := by
  obtain ⟨agrees, l, holds, e⟩ := (Backlog.holds_empty capacity.toNat).meetAll demands
  rw [List.map_nil] at agrees e
  generalize Backlog.meetAll { capacity := capacity.toNat } demands = real at agrees holds
  generalize Arrivals.meetAll capacity.toNat [] demands = plain at agrees e
  obtain ⟨given, b⟩ := real
  obtain ⟨expected, units⟩ := plain
  subst e
  simp only [List.length_map]
  refine ⟨agrees, holds.size, holds.room, holds.find?_counts capacity.toNat_lt_size, ?_,
    fun wanted => ?_⟩
  · intro rank type u b' popped
    have counted := holds.counted.popFor popped
    have perm := (Backlog.popFor_some popped).length_eq
    rw [List.length_cons] at perm
    rw [counted, holds.counted, perm]
  · have perm := (Backlog.steal_perm b wanted).length_eq
    rw [List.length_append] at perm
    rw [holds.counted.steal wanted, holds.counted, perm]

end WorkPool
