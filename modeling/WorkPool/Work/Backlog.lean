import WorkPool.Error
import WorkPool.Work.Unit

/-!
# Backlogs: units that wait for a worker

A backlog holds the queued units of one server, up to a capacity. Units are kept in
**buckets**, one for each work type and target, and each bucket is in the order in
which its units go out: more urgent first, and of equally urgent ones the earlier.

A worker receives the first unit among its own bucket and the untargeted one. A peer
that steals receives the first half of an untargeted bucket, rounded up; targeted
units never leave this way. A bucket is dropped when it runs empty.
-/

namespace WorkPool

/-! ## Labels -/

/-- What the units of a bucket have in common. -/
structure Label where
  /-- their work type -/
  type : WorkType
  /-- their target, if they have one -/
  target : Option Rank
  deriving DecidableEq

namespace Label

instance : Ord Label where
  compare a b := (compare a.type b.type).then (compare a.target b.target)

theorem compare_def (a b : Label) :
    compare a b = (compare a.type b.type).then (compare a.target b.target) := rfl

instance : Std.LawfulEqOrd Label where
  compare_self {a} := by simp [compare_def]
  eq_of_compare {a b} h := by
    rw [compare_def, Ordering.then_eq_eq] at h
    obtain ⟨type, target⟩ := a
    obtain ⟨type', target'⟩ := b
    cases Std.LawfulEqOrd.eq_of_compare h.1
    cases Std.LawfulEqOrd.eq_of_compare h.2
    rfl

instance : Std.TransOrd Label where
  eq_swap {a b} := by
    rw [compare_def, compare_def, Ordering.swap_then, ← Std.OrientedCmp.eq_swap,
      ← Std.OrientedCmp.eq_swap]
  isLE_trans {a b c} hab hbc := by
    rw [compare_def, Ordering.isLE_then_iff_or] at *
    rcases hab with hab | ⟨hab, hab'⟩
    · rcases hbc with hbc | ⟨hbc, _⟩
      · exact .inl (Std.TransCmp.lt_trans hab hbc)
      · exact .inl (Std.TransCmp.lt_of_lt_of_eq hab hbc)
    · rcases hbc with hbc | ⟨hbc, hbc'⟩
      · exact .inl (Std.TransCmp.lt_of_eq_of_lt hab hbc)
      · exact .inr ⟨Std.TransCmp.eq_trans hab hbc, Std.TransCmp.isLE_trans hab' hbc'⟩

end Label

/-- The label of a unit. -/
def WorkUnit.label (u : WorkUnit) : Label := ⟨u.type, u.target⟩

/-! ## Buckets -/

/-- A unit with the number of its arrival. -/
structure Queued where
  /-- how many units came before -/
  seq : Nat
  /-- the unit -/
  unit : WorkUnit
  deriving DecidableEq

/-- Whether a unit goes out before another: it is more urgent, or as urgent and earlier. -/
def Queued.before (a b : Queued) : Bool :=
  b.unit.priority < a.unit.priority || (a.unit.priority == b.unit.priority && a.seq < b.seq)

/-- Units in the order in which they go out. -/
abbrev Bucket := List Queued

namespace Bucket

/-- Put a unit in its place. -/
def add (q : Queued) : Bucket → Bucket
  | [] => [q]
  | x :: rest => if x.before q then x :: add q rest else q :: x :: rest

/-- How many units of a bucket of a given size a thief receives. -/
def share (n : Nat) : Nat := (n + 1) / 2

end Bucket

/-! ## Backlogs -/

/-- The queued units of one server. -/
structure Backlog where
  /-- how many units may be queued -/
  capacity : Nat
  /-- the units by label -/
  buckets : Table Label Bucket := {}
  /-- how many units are queued -/
  size : Nat := 0
  /-- the number of the next arrival, bounded like the counts of a server (`Server.counters_fit`) -/
  nextSeq : Nat := 0
  deriving DecidableEq

namespace Backlog

variable (b : Backlog)

/-- The bucket of a label. -/
def bucket (l : Label) : Bucket := (b.buckets.find? l).getD []

/-- Replace the bucket of a label; an empty one is dropped. -/
def setBucket (l : Label) (bucket : Bucket) : Table Label Bucket :=
  if bucket.isEmpty then b.buckets.erase l else b.buckets.insert l bucket

/-- Whether nothing is queued. -/
def isEmpty : Bool := b.size == 0

/-- Queue a unit. -/
def push (u : WorkUnit) : Backlog × Except Error Unit :=
  if b.capacity ≤ b.size then
    (b, .error (.resource "queued_units" (b.size + 1) b.capacity))
  else
    ({ b with
      buckets := b.buckets.insert u.label (Bucket.add ⟨b.nextSeq, u⟩ (b.bucket u.label))
      size := b.size + 1
      nextSeq := b.nextSeq + 1 }, .ok ())

/-- Take the first unit of a bucket. -/
def takeFirst (l : Label) : Option WorkUnit × Backlog :=
  match b.bucket l with
  | [] => (none, b)
  | q :: rest => (some q.unit, { b with buckets := b.setBucket l rest, size := b.size - 1 })

/-- The label of the bucket from which a rank receives its next unit of a type. -/
def source (rank : Rank) (type : WorkType) : Label :=
  match b.bucket ⟨type, some rank⟩, b.bucket ⟨type, none⟩ with
  | t :: _, u :: _ => if t.before u then ⟨type, some rank⟩ else ⟨type, none⟩
  | _ :: _, [] => ⟨type, some rank⟩
  | [], _ => ⟨type, none⟩

/-- Take the first unit of a type that a rank may receive. -/
def popFor (rank : Rank) (type : WorkType) : Option WorkUnit × Backlog :=
  b.takeFirst (b.source rank type)

/-- Take the share of a thief from the untargeted units of a type. -/
def stealType (type : WorkType) : List WorkUnit × Backlog :=
  let bucket := b.bucket ⟨type, none⟩
  let share := Bucket.share bucket.length
  ((bucket.take share).map Queued.unit,
    { b with
      buckets := b.setBucket ⟨type, none⟩ (bucket.drop share)
      size := b.size - share })

/-- Take the share of a thief for each wanted type in turn. -/
def steal : Backlog → List WorkType → List WorkUnit × Backlog
  | b, [] => ([], b)
  | b, type :: wanted =>
    let (units, b) := b.stealType type
    let (more, b) := b.steal wanted
    (units ++ more, b)

/-- The number of untargeted units of each type of which there is one. -/
def counts : Table WorkType UInt64 :=
  .ofList (b.buckets.entries.filterMap fun (l, bucket) =>
    if l.target.isNone then some (l.type, UInt64.ofNat bucket.length) else none)

/-- The order in which a backlog is emptied: more urgent units first, and equally urgent ones by
type, target, payload and answer, so that it depends on the units alone. -/
def drainOrder (a b : WorkUnit) : Ordering :=
  (compare b.priority a.priority).then <|
    (compare a.type b.type).then <|
      (compare a.target b.target).then <|
        (compare a.payload b.payload).then (compare a.answer b.answer)

/-- Take all units. -/
def drain : List WorkUnit × Backlog :=
  ((b.buckets.values.flatten.map Queued.unit).mergeSort fun a b => (drainOrder a b).isLE,
    { b with buckets := {}, size := 0 })

end Backlog

end WorkPool
