import Mathlib.Data.List.Induction
import WorkPool.Proofs.Shard.Contents
import WorkPool.Proofs.Shard.Sealed

/-!
# Locks: one holder at a time

The lock of a datum is taken by the rank that asks for it first, and is held until that rank gives
it back or the datum is collected. A table beside the data says who holds which lock; the record of
a run says who should (`lockHolder`), and the two agree (`Guarded`).

Main statement: `Shard.locks_exclude` — between two ranks that were given the same lock the first
has given it back. All operations but those on locks leave holders alone (`perform_spares`), and a
collected id is never used again, so that no lock outlives its datum.
-/

namespace WorkPool

/-! ## Locks in a record -/

namespace Answered

/-- Whether an operation was given a lock. -/
def acquires (a : Answered) (id : DatumId) : Bool :=
  match a.op, a.answer with
  | .lock j, .ok (.flag true) => j == id
  | _, _ => false

/-- Whether an operation has given a lock back. -/
def releases (a : Answered) (id : DatumId) : Bool :=
  match a.op, a.answer with
  | .unlock j, .ok _ => j == id
  | _, _ => false

variable {a : Answered} {id : DatumId}

/-- Who acquires a lock has asked for it and was granted it. -/
theorem lock_of_acquires (h : a.acquires id = true) :
    a.op = .lock id ∧ a.answer = .ok (.flag true) := by
  unfold acquires at h
  split at h
  · rename_i op answer
    rw [op, eq_of_beq h]
    exact ⟨rfl, answer⟩
  · cases h

/-- Who releases a lock has asked to and was answered. -/
theorem unlock_of_releases (h : a.releases id = true) :
    a.op = .unlock id ∧ ∃ reply, a.answer = .ok reply := by
  unfold releases at h
  split at h
  · rename_i op answer
    rw [op, eq_of_beq h]
    exact ⟨rfl, _, answer⟩
  · cases h

/-- Who holds a lock after an operation, if it was held as given before. -/
def passes (a : Answered) (id : DatumId) (held : Option Rank) : Option Rank :=
  if a.acquires id then some a.rank else if a.releases id then none else held

end Answered

/-- Who holds the lock of a datum, as the answers so far say. -/
def lockHolder (id : DatumId) (past : List Answered) : Option Rank :=
  past.foldl (fun held a => a.passes id held) none

/-- One more answer passes the lock on, or leaves it. -/
@[simp] theorem lockHolder_concat (id : DatumId) (past : List Answered) (a : Answered) :
    lockHolder id (past ++ [a]) = a.passes id (lockHolder id past) := by
  rw [lockHolder, List.foldl_append]
  rfl

/-- Locks are taken when they are free, and are given back by their holders. -/
def Rightful (id : DatumId) (past : List Answered) : Prop :=
  ∀ before a, before ++ [a] <+: past →
    (a.acquires id = true → lockHolder id before = none) ∧
    (a.releases id = true → lockHolder id before = some a.rank)

section Rightful

variable {id : DatumId} {past before middle : List Answered} {a : Answered} {r : Rank}

/-- An answer keeps the record rightful if it takes only a free lock and gives back only what its
rank holds. -/
theorem Rightful.concat (h : Rightful id past)
    (takes : a.acquires id = true → lockHolder id past = none)
    (gives : a.releases id = true → lockHolder id past = some a.rank) :
    Rightful id (past ++ [a]) := by
  intro before b moment
  rcases List.prefix_concat_iff.1 moment with last | earlier
  · obtain ⟨rfl, final⟩ := List.append_inj' last rfl
    cases final
    exact ⟨takes, gives⟩
  · exact h before b earlier

/-- Whoever holds a lock no more has given it back. If that was just now, nobody else can have given
it back, and nobody can have taken it. -/
theorem Rightful.released (h : Rightful id (before ++ middle))
    (held : lockHolder id before = some r) (lost : lockHolder id (before ++ middle) ≠ some r) :
    ∃ u ∈ middle, u.releases id = true ∧ u.rank = r := by
  induction middle using List.reverseRecOn with
  | nil =>
    rw [List.append_nil] at lost
    exact absurd held lost
  | append_singleton middle a ih =>
    rw [← List.append_assoc] at lost h
    by_cases earlier : lockHolder id (before ++ middle) = some r
    · have right := h (before ++ middle) a List.prefix_rfl
      rw [earlier] at right
      rw [lockHolder_concat, Answered.passes, earlier] at lost
      split at lost
      · rename_i takes
        cases right.1 takes
      split at lost
      · rename_i gives
        exact ⟨a, List.mem_append_right _ List.mem_cons_self, gives,
          (Option.some.inj (right.2 gives)).symm⟩
      · exact absurd rfl lost
    · have sooner : Rightful id (before ++ middle) := fun first b moment =>
        h first b (moment.trans (List.prefix_append _ _))
      obtain ⟨u, hu, gives⟩ := ih sooner earlier
      exact ⟨u, List.mem_append_left _ hu, gives⟩

end Rightful

namespace Shard

variable {s s' t : Shard} {id : DatumId} {d : Datum} {rank : Rank}

/-! ## Operations that leave locks alone -/

/-- Locks are held as before, unless their data are collected. -/
def Spares (s s' : Shard) : Prop :=
  ∀ id, id ∉ s'.retired → s'.locks.find? id = s.locks.find? id

/-- A shard with the same locks spares them. -/
theorem spares_of_locks (h : s'.locks = s.locks) : Spares s s' := fun id _ => by rw [h]

/-- Notes spare the locks. -/
theorem Noted.spares (h : Noted s s') : Spares s s' := by
  obtain ⟨-, -⟩ := h
  exact spares_of_locks rfl

/-- A datum that is collected takes its lock along, and no other. -/
theorem spares_collect (h : t.locks = s.locks) (id : DatumId) : Spares s (t.collect id) := by
  rw [collect]
  split
  · split
    · intro j unretired
      rw [← h]
      exact Table.find?_erase_ne _ fun same => unretired (same ▸ List.mem_cons_self)
    · exact spares_of_locks h
  · exact spares_of_locks h

theorem spares_closeDatum (s : Shard) (id : DatumId) (d : Datum) :
    Spares s (s.closeDatum id d).1 := spares_collect rfl id

/-- Putting a datum back with fewer writers spares the locks of all that is not collected. -/
theorem settle_spares {drops : UInt32} {notices : List (Rank × Notice)}
    (h : s.settle id d drops = .ok (s', notices)) : Spares s s' := by
  rw [settle] at h
  split at h
  · cases h
    exact spares_of_locks rfl
  obtain ⟨writers, -, h⟩ := bind_eq_ok h
  simp only at h
  split at h
  · cases h
    exact spares_closeDatum s id _
  · cases h
    exact spares_of_locks rfl

/-- Setting a scalar spares the locks. -/
theorem store_spares {value : Value} {drops : UInt32} {o : Outcome Unit}
    (h : s.store id value drops = .ok o) : Spares s o.shard := by
  cases store_stores h with
  | refused => exact spares_of_locks rfl
  | full => exact spares_of_locks rfl
  | done _ _ settled => exact fun j unretired => settle_spares settled j unretired

theorem addWriters_spares {count : UInt32} {o : Outcome Unit} (h : s.addWriters id count = .ok o) :
    Spares s o.shard := by
  rw [addWriters] at h
  split at h
  · cases h
    exact spares_of_locks rfl
  split at h
  · cases h
    exact spares_of_locks rfl
  obtain ⟨writers, -, h⟩ := bind_eq_ok h
  cases h
  exact spares_of_locks rfl

/-- Giving up writers spares the locks. -/
theorem dropWriters_spares {count : UInt32} {o : Outcome Unit}
    (h : s.dropWriters id count = .ok o) : Spares s o.shard := by
  cases dropWriters_givesUp h with
  | refused => exact spares_of_locks rfl
  | done _ _ _ settled => exact settle_spares settled

theorem addReaders_spares {count : UInt32} {o : Outcome Unit} (h : s.addReaders id count = .ok o) :
    Spares s o.shard := by
  rw [addReaders] at h
  split at h
  · cases h
    exact spares_of_locks rfl
  obtain ⟨readers, -, h⟩ := bind_eq_ok h
  cases h
  exact spares_of_locks rfl

/-- Giving up readers spares the locks of all that is not collected. -/
theorem dropReaders_spares (s : Shard) (id : DatumId) (count : UInt32) :
    Spares s (s.dropReaders id count).shard := by
  rw [dropReaders]
  split
  · exact spares_of_locks rfl
  split
  · exact spares_of_locks rfl
  · exact spares_collect rfl id

theorem close_spares (s : Shard) (id : DatumId) : Spares s (s.close id).shard := by
  rw [close]
  split
  · exact spares_of_locks rfl
  split
  · exact spares_of_locks rfl
  · exact spares_closeDatum s id _

/-- Writing a member spares the locks. -/
theorem insertMember_spares {subscript : String} {member : Bytes} {drops : UInt32}
    {o : Outcome Unit} (h : s.insertMember id subscript member drops = .ok o) :
    Spares s o.shard := by
  cases insertMember_inserts h with
  | refused => exact spares_of_locks rfl
  | full => exact spares_of_locks rfl
  | done _ _ _ settled => exact fun j unretired => settle_spares settled j unretired

/-- Reserving a subscript spares the locks. -/
theorem reserveSubscript_spares {subscript : String} {o : Outcome Bool}
    (h : s.reserveSubscript id subscript = .ok o) : Spares s o.shard := by
  cases reserveSubscript_reserves h with
  | refused | taken | full | done => exact spares_of_locks rfl

/-- A container that is made on the way has no lock. -/
theorem onContainer_spares {α : Type} {act : Shard → Except Fault (Outcome α)} {o : Outcome α}
    (hn : s.Numbered)
    (hrefused : ∀ s o e, act s = .ok o → o.result = .error e → RefusedAs s o)
    (hact : ∀ s o, act s = .ok o → Spares s o.shard) (h : s.onContainer id act = .ok o) :
    Spares s o.shard := by
  cases onContainer_acted hn hrefused h with
  | there live acted => exact hact s o acted
  | refused absent refused result unmade => exact refused.noted.spares
  | made making acted result => exact fun j unretired => hact _ o acted j unretired
  | leaked null making refused result => exact refused.noted.spares

/-- Waiting spares the locks. -/
theorem awaitSubscript_spares (s : Shard) (sub : Subscription) (subscript name : String) :
    Spares s (s.awaitSubscript sub subscript name).shard := by
  rw [awaitSubscript]
  split
  · exact spares_of_locks rfl
  split
  · exact spares_of_locks rfl
  split
  · exact spares_of_locks rfl
  · exact spares_of_locks rfl

theorem subscribe_spares (s : Shard) (id : DatumId) (key : Option String) (rank : Rank)
    (token : UInt64) : Spares s (s.subscribe id key rank token).shard := by
  cases key with
  | some subscript => exact awaitSubscript_spares s _ subscript _
  | none =>
    simp only [subscribe]
    split
    · exact spares_of_locks rfl
    split
    · exact spares_of_locks rfl
    · exact spares_of_locks rfl

theorem refer_spares (s : Shard) (id : DatumId) (subscript : String) (reference : Option DatumId)
    (rank : Rank) (token : UInt64) :
    Spares s (s.refer id subscript reference rank token).shard := by
  simp only [refer]
  split
  · exact awaitSubscript_spares s _ subscript _
  · exact awaitSubscript_spares s _ subscript _

/-- **Every other operation** leaves all locks alone, but for those of data that it collects. -/
theorem perform_spares {op : Operation} {o : Outcome Reply} (hn : s.Numbered)
    (unlocked : ∀ id, op ≠ .lock id ∧ op ≠ .unlock id) (h : s.perform rank op = .ok o) :
    Spares s o.shard := by
  cases op with
  | create spec =>
    obtain ⟨o, ho, h⟩ := bind_eq_ok h
    cases h
    have created := (create_created hn ho).1
    show Spares s o.shard
    generalize o.shard = s', o.result = r at created
    cases created with
    | refused noted => exact noted.spares
    | made making => exact spares_of_locks rfl
  | store id value drops =>
    obtain ⟨o, ho, h⟩ := bind_eq_ok h
    cases h
    exact store_spares ho
  | storeBytes id bytes drops =>
    obtain ⟨o, ho, h⟩ := bind_eq_ok h
    cases h
    rw [storeBytes] at ho
    split at ho
    · cases ho
      exact spares_of_locks rfl
    · exact store_spares ho
  | addWriters id count =>
    obtain ⟨o, ho, h⟩ := bind_eq_ok h
    cases h
    exact addWriters_spares ho
  | dropWriters id count =>
    obtain ⟨o, ho, h⟩ := bind_eq_ok h
    cases h
    exact dropWriters_spares ho
  | addReaders id count =>
    obtain ⟨o, ho, h⟩ := bind_eq_ok h
    cases h
    exact addReaders_spares ho
  | dropReaders id count =>
    cases h
    exact dropReaders_spares s id count
  | insert id subscript member drops =>
    obtain ⟨o, ho, h⟩ := bind_eq_ok h
    cases h
    show Spares s o.shard
    exact onContainer_spares hn (fun _ _ _ => insertMember_refused)
      (fun _ _ => insertMember_spares) ho
  | reserve id subscript =>
    obtain ⟨o, ho, h⟩ := bind_eq_ok h
    cases h
    show Spares s o.shard
    exact onContainer_spares hn (fun _ _ _ => reserveSubscript_refused)
      (fun _ _ => reserveSubscript_spares) ho
  | subscribe id subscript token =>
    cases h
    exact subscribe_spares s id subscript rank token
  | refer id subscript reference token =>
    cases h
    exact refer_spares s id subscript reference rank token
  | close id =>
    cases h
    exact close_spares s id
  | unique =>
    obtain ⟨o, ho, h⟩ := bind_eq_ok h
    cases h
    obtain ⟨⟨ids, fresh⟩, -, ho⟩ := bind_eq_ok ho
    cases ho
    exact spares_of_locks rfl
  | lock id => exact absurd rfl (unlocked id).1
  | unlock id => exact absurd rfl (unlocked id).2
  | has | retrieve | enumerate | lookup | kindOf | subscriptKindOf | sizeOf =>
    cases h
    exact spares_of_locks rfl

/-! ## What is answered to those who ask for a lock -/

section Answers

/-- Nobody can lock what is not there. -/
theorem lock_of_absent (absent : s.data.find? id = none) (rank : Rank) :
    s.lock id rank = s.refuse (.unknownDatum id) := by
  rw [lock, Shard.live, absent]

/-- A lock that is held is not granted, not even to its holder. -/
theorem lock_of_held {r : Rank} (live : s.data.find? id = some d)
    (held : s.locks.find? id = some r) (rank : Rank) : s.lock id rank = s.answer false := by
  rw [lock, Shard.live, live]
  exact if_pos (by rw [Table.contains, held]; rfl)

/-- A lock that is free is granted. -/
theorem lock_of_free (live : s.data.find? id = some d) (free : s.locks.find? id = none)
    (rank : Rank) :
    s.lock id rank = { s with locks := s.locks.insert id rank }.answer true := by
  rw [lock, Shard.live, live]
  exact if_neg (by rw [Table.contains, free]; exact Bool.false_ne_true)

/-- The holder of a lock can give it back. -/
theorem unlock_of_holder (live : s.data.find? id = some d)
    (held : s.locks.find? id = some rank) :
    s.unlock id rank = { s with locks := s.locks.erase id }.answer () := by
  rw [unlock, Shard.live, live]
  simp only [held, if_true]

/-- Whoever does not hold the lock of a live datum is refused. -/
theorem unlock_of_other (h : ¬ ((∃ d, s.data.find? id = some d) ∧ s.locks.find? id = some rank)) :
    ∃ e, s.unlock id rank = s.refuse e := by
  rw [unlock, Shard.live]
  cases live : s.data.find? id with
  | none => exact ⟨_, rfl⟩
  | some d =>
    cases held : s.locks.find? id with
    | none => exact ⟨_, rfl⟩
    | some r =>
      have other : r ≠ rank := fun same => h ⟨⟨d, live⟩, same ▸ held⟩
      simp only [if_neg other]
      exact ⟨_, rfl⟩

end Answers

/-! ## One operation -/

/-- What an operation and its answer say of the locks before and after it. -/
structure PassesLocks (s : Shard) (a : Answered) (s' : Shard) : Prop where
  /-- only the free lock of a live datum is given away -/
  takes : ∀ id, a.acquires id = true →
    (∃ d, s.data.find? id = some d) ∧ s.locks.find? id = none
  /-- and only its holder gives it back -/
  gives : ∀ id, a.releases id = true →
    (∃ d, s.data.find? id = some d) ∧ s.locks.find? id = some a.rank
  /-- nothing else happens to the locks of data that are not collected -/
  passed : ∀ id, id ∉ s'.retired → s'.locks.find? id = a.passes id (s.locks.find? id)

section PassesLocks

variable {a : Answered} {op : Operation} {o : Outcome Reply}

/-- An operation that neither takes nor gives back a lock. -/
theorem Spares.passesLocks (h : Spares s s')
    (idle : ∀ id, a.acquires id = false ∧ a.releases id = false) : PassesLocks s a s' where
  takes id taken := by
    rw [(idle id).1] at taken
    cases taken
  gives id given := by
    rw [(idle id).2] at given
    cases given
  passed id unretired := by
    rw [Answered.passes, (idle id).1, (idle id).2]
    exact h id unretired

/-- **Asking for a lock** takes it if it is free, and leaves it otherwise. -/
theorem lock_passesLocks (s : Shard) (id : DatumId) (rank : Rank) :
    PassesLocks s ⟨rank, .lock id, ((s.lock id rank).map Reply.flag).result⟩
      (s.lock id rank).shard := by
  cases live : s.data.find? id with
  | none =>
    rw [lock_of_absent live]
    exact (spares_of_locks rfl).passesLocks fun _ => ⟨rfl, rfl⟩
  | some d =>
    cases held : s.locks.find? id with
    | some r =>
      rw [lock_of_held live held]
      exact (spares_of_locks rfl).passesLocks fun _ => ⟨rfl, rfl⟩
    | none =>
      rw [lock_of_free live held]
      refine ⟨fun j taken => ?_, fun j given => (by cases given), fun j _ => ?_⟩
      · obtain rfl : id = j := eq_of_beq taken
        exact ⟨⟨d, live⟩, held⟩
      · show (s.locks.insert id rank).find? j =
          if (id == j) = true then some rank else s.locks.find? j
        by_cases same : j = id
        · rw [same, Table.find?_insert_self, if_pos (beq_self_eq_true id)]
        · rw [Table.find?_insert_ne _ same, if_neg fun e => same (eq_of_beq e).symm]

/-- **Giving a lock back** frees it, if the rank holds it. -/
theorem unlock_passesLocks (s : Shard) (id : DatumId) (rank : Rank) :
    PassesLocks s ⟨rank, .unlock id, ((s.unlock id rank).map fun _ => Reply.ack).result⟩
      (s.unlock id rank).shard := by
  by_cases holds : (∃ d, s.data.find? id = some d) ∧ s.locks.find? id = some rank
  · obtain ⟨⟨d, live⟩, held⟩ := holds
    rw [unlock_of_holder live held]
    refine ⟨fun j taken => (by cases taken), fun j given => ?_, fun j _ => ?_⟩
    · obtain rfl : id = j := eq_of_beq given
      exact ⟨⟨d, live⟩, held⟩
    · show (s.locks.erase id).find? j = if (id == j) = true then none else s.locks.find? j
      by_cases same : j = id
      · rw [same, Table.find?_erase_self, if_pos (beq_self_eq_true id)]
      · rw [Table.find?_erase_ne _ same, if_neg fun e => same (eq_of_beq e).symm]
  · obtain ⟨e, refused⟩ := unlock_of_other holds
    rw [refused]
    exact (spares_of_locks rfl).passesLocks fun _ => ⟨rfl, rfl⟩

/-- **One operation** passes locks on as its answer says. -/
theorem perform_passesLocks (hn : s.Numbered) (h : s.perform rank op = .ok o) :
    PassesLocks s ⟨rank, op, o.result⟩ o.shard := by
  cases op with
  | lock id =>
    cases h
    exact lock_passesLocks s id rank
  | unlock id =>
    cases h
    exact unlock_passesLocks s id rank
  | _ =>
    have spares := perform_spares hn (fun _ => ⟨(by intro e; cases e), (by intro e; cases e)⟩) h
    exact spares.passesLocks fun _ => ⟨rfl, rfl⟩

/-- A lock changes hands if it is taken or given back, or if its datum is collected. -/
theorem PassesLocks.changed (h : PassesLocks s a s') (lives : Lives s) (lives' : Lives s')
    (changed : s'.locks.find? id ≠ s.locks.find? id) :
    (a.acquires id = true ∧ s'.locks.find? id = some a.rank) ∨
      (a.releases id = true ∧ s'.locks.find? id = none) ∨
      (∃ d, s.data.find? id = some d) ∧ s'.data.find? id = none ∧ id ∈ s'.retired := by
  by_cases retired : id ∈ s'.retired
  · have gone := lives'.absent id retired
    have free : s'.locks.find? id = none := by
      by_contra held
      obtain ⟨r, held⟩ := Option.ne_none_iff_exists'.1 held
      obtain ⟨d, live⟩ := lives'.locks id r held
      rw [gone] at live
      cases live
    rw [free] at changed
    obtain ⟨r, held⟩ := Option.ne_none_iff_exists'.1 changed.symm
    exact .inr (.inr ⟨lives.locks id r held, gone, retired⟩)
  · have passed := h.passed id retired
    rw [Answered.passes] at passed
    split at passed
    · rename_i taken
      exact .inl ⟨taken, passed⟩
    split at passed
    · rename_i given
      exact .inr (.inl ⟨given, passed⟩)
    · exact absurd passed changed

end PassesLocks

/-! ## Every run -/

/-- The locks of a shard are held as its answers say. -/
structure Guarded (s : Shard) (past : List Answered) : Prop where
  held : ∀ id, id ∉ s.retired → s.locks.find? id = lockHolder id past
  rightful : ∀ id, Rightful id past

section Guarded

variable {past : List Answered} {op : Operation} {o : Outcome Reply}

/-- Nobody holds a lock of a new shard. -/
theorem Guarded.new (index : UInt64) (settings : Settings) :
    Guarded (Shard.new index settings) [] where
  held _ _ := rfl
  rightful _ _ _ moment := absurd (List.prefix_nil.1 moment) (by simp)

/-- Live data are held as the answers say. -/
theorem Guarded.live (h : Guarded s past) (lives : Lives s) (live : ∃ d, s.data.find? id = some d) :
    s.locks.find? id = lockHolder id past := by
  refine h.held id fun retired => ?_
  obtain ⟨d, live⟩ := live
  rw [lives.absent id retired] at live
  cases live

/-- **One operation** keeps the locks as the record has them. -/
theorem Guarded.perform (h : Guarded s past) (reached : Reached s)
    (ho : s.perform rank op = .ok o) :
    Guarded o.shard (past ++ [⟨rank, op, o.result⟩]) := by
  have passes := perform_passesLocks reached.lives.numbered ho
  refine ⟨fun id unretired => ?_,
    fun id => (h.rightful id).concat (fun taken => ?_) fun given => ?_⟩
  · have before : id ∉ s.retired := fun retired => unretired
      ((perform_changes reached.waits reached.lives.numbered ho).keep
        (fun _ _ known change => change.retired known) retired)
    rw [lockHolder_concat, ← h.held id before]
    exact passes.passed id unretired
  · obtain ⟨live, free⟩ := passes.takes id taken
    exact h.live reached.lives live ▸ free
  · obtain ⟨live, held⟩ := passes.gives id given
    exact h.live reached.lives live ▸ held

/-- Whoever takes a lock holds it. -/
theorem lockHolder_of_acquires {a : Answered} (taken : a.acquires id = true) :
    lockHolder id (past ++ [a]) = some a.rank := by
  rw [lockHolder_concat, Answered.passes, if_pos taken]

end Guarded

/-- **Locks exclude.** After every run of a new shard, and for every id:

* the lock of a live datum is held as the answers so far say, and no other lock is held;
* between two operations that were given the lock, the rank that got it first has given it back;
* it can be given back exactly by the rank that holds it, while the datum is live;
* whoever asks for the lock of a live datum is given it exactly if nobody holds it;
* who holds it changes only if it is given to somebody or given back, or if the datum is live and is
  collected. -/
theorem locks_exclude {s : Shard} {log : WaitLog} (index : UInt64) (settings : Settings)
    (hi : index < settings.servers) (hn : (settings.servers.toNat : Int) ≤ topId)
    (calls : List ShardCall) (hrun : (Shard.new index settings).run {} calls = .ok (s, log))
    (id : DatumId) :
    (s.locks.find? id = if s.data.contains id = true then
      lockHolder id ((Shard.new index settings).record calls) else none) ∧
    (∀ before a middle b,
      before ++ [a] ++ middle ++ [b] <+: (Shard.new index settings).record calls →
      a.acquires id = true → b.acquires id = true →
      ∃ u ∈ middle, u.releases id = true ∧ u.rank = a.rank) ∧
    (∀ rank, ∃ o, s.perform rank (.unlock id) = .ok o ∧
      ((∃ reply, o.result = .ok reply) ↔ s.data.contains id = true ∧
        lockHolder id ((Shard.new index settings).record calls) = some rank)) ∧
    (∀ rank, s.data.contains id = true → ∃ o free, s.perform rank (.lock id) = .ok o ∧
      o.result = .ok (.flag free) ∧
      (free = true ↔ lockHolder id ((Shard.new index settings).record calls) = none)) ∧
    (∀ rank op o, s.perform rank op = .ok o → o.shard.locks.find? id ≠ s.locks.find? id →
      (op = .lock id ∧ o.result = .ok (.flag true) ∧ o.shard.locks.find? id = some rank) ∨
      (op = .unlock id ∧ (∃ reply, o.result = .ok reply) ∧ o.shard.locks.find? id = none) ∨
      s.data.contains id = true ∧ o.shard.data.contains id = false ∧ id ∈ o.shard.retired) ∧
    s.invalidate.1.locks = s.locks := by
  obtain ⟨reached, guarded⟩ := record_induction (P := Guarded)
    (fun _ _ _ _ _ reached guarded ho => guarded.perform reached ho)
    (fun _ _ guarded => ⟨guarded.held, guarded.rightful⟩) (Reached.new hi hn)
    (Guarded.new index settings) hrun
  rw [List.nil_append] at guarded
  have there : s.data.contains id = true ↔ ∃ d, s.data.find? id = some d := Option.isSome_iff_exists
  have live : s.data.contains id = true → s.locks.find? id =
      lockHolder id ((Shard.new index settings).record calls) :=
    fun h => guarded.live reached.lives (there.1 h)
  refine ⟨?_, fun before a middle b moment first second => ?_, fun rank => ?_, fun rank h => ?_,
    fun rank op o ho changed => ?_, rfl⟩
  · split
    · exact live ‹_›
    · rename_i absent
      by_contra held
      obtain ⟨r, held⟩ := Option.ne_none_iff_exists'.1 held
      exact absent (there.2 (reached.lives.locks id r held))
  · have free := (guarded.rightful id _ b moment).1 second
    have held : lockHolder id (before ++ [a]) = some a.rank := lockHolder_of_acquires first
    have rightful : Rightful id (before ++ [a] ++ middle) := fun _ _ sooner =>
      guarded.rightful id _ _ (sooner.trans ((List.prefix_append _ [b]).trans moment))
    refine rightful.released held ?_
    rw [free]
    exact Option.some_ne_none _ ∘ Eq.symm
  · refine ⟨_, rfl, ?_⟩
    by_cases holds : (∃ d, s.data.find? id = some d) ∧ s.locks.find? id = some rank
    · obtain ⟨⟨d, found⟩, held⟩ := holds
      rw [unlock_of_holder found held]
      exact ⟨fun _ => ⟨there.2 ⟨d, found⟩, live (there.2 ⟨d, found⟩) ▸ held⟩, fun _ => ⟨_, rfl⟩⟩
    · obtain ⟨e, refused⟩ := unlock_of_other holds
      rw [refused]
      refine ⟨fun ⟨_, answered⟩ => (by cases answered), fun ⟨h, held⟩ => ?_⟩
      exact absurd ⟨there.1 h, (live h).trans held⟩ holds
  · obtain ⟨d, found⟩ := there.1 h
    rw [← live h]
    refine ⟨_, (s.locks.find? id).isNone, rfl, ?_, Option.isNone_iff_eq_none⟩
    cases held : s.locks.find? id with
    | none =>
      rw [lock_of_free found held]
      rfl
    | some r =>
      rw [lock_of_held found held]
      rfl
  · have passes := perform_passesLocks reached.lives.numbered ho
    rcases passes.changed reached.lives (reached.perform ho).lives changed with
      ⟨taken, held⟩ | ⟨given, free⟩ | ⟨before, gone, retired⟩
    · obtain ⟨op, answer⟩ := Answered.lock_of_acquires taken
      exact .inl ⟨op, answer, held⟩
    · obtain ⟨op, answer⟩ := Answered.unlock_of_releases given
      exact .inr (.inl ⟨op, answer, free⟩)
    · exact .inr (.inr ⟨there.2 before, congrArg Option.isSome gone, retired⟩)

/-- A lock is asked for by two, is given back by the one that holds it, and is passed on. -/
def passOn : List ShardCall :=
  [.perform 0 (.create { id := 5, kind := .blob }), .perform 0 (.lock 5), .perform 1 (.lock 5),
    .perform 1 (.unlock 5), .perform 0 (.unlock 5), .perform 1 (.lock 5)]

/-- A lock is asked for in vain, given back, and taken by another rank. -/
theorem locks_exclude_passOn : ∃ s log,
    (Shard.new 1 { servers := 2 }).run {} passOn = .ok (s, log) ∧
    (∃ u ∈ (((Shard.new 1 { servers := 2 }).record passOn).drop 2).take 3,
      u.releases 5 = true ∧ u.rank = 0) ∧
    s.locks.find? 5 = some 1 ∧
    (∃ o, s.perform 0 (.unlock 5) = .ok o ∧ ¬ ∃ reply, o.result = .ok reply) ∧
    (∃ o, s.perform 1 (.unlock 5) = .ok o ∧ ∃ reply, o.result = .ok reply) ∧
    ∃ o, s.perform 0 (.lock 5) = .ok o ∧ o.result = .ok (.flag false) := by
  obtain ⟨held, between, unlocks, locks, -⟩ :=
    locks_exclude 1 { servers := 2 } (by decide) (by decide) passOn rfl 5
  have passed : lockHolder 5 ((Shard.new 1 { servers := 2 }).record passOn) = some 1 := by
    decide +kernel
  obtain ⟨other, refused, denied⟩ := unlocks 0
  obtain ⟨own, given, granted⟩ := unlocks 1
  obtain ⟨second, free, asked, answered, taken⟩ := locks 0 rfl
  rw [passed] at held denied granted taken
  refine ⟨_, _, rfl, between (((Shard.new 1 { servers := 2 }).record passOn).take 1)
    ⟨0, .lock 5, .ok (.flag true)⟩ _ ⟨1, .lock 5, .ok (.flag true)⟩ ⟨[], rfl⟩ rfl rfl, held,
    ⟨other, refused, fun h => absurd (denied.1 h).2 (by decide)⟩,
    ⟨own, given, granted.2 ⟨rfl, rfl⟩⟩, second, asked, ?_⟩
  cases free with
  | true => cases taken.1 rfl
  | false => exact answered

end Shard

end WorkPool
