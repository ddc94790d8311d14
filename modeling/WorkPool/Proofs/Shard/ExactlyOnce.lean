import WorkPool.Proofs.Shard.Perform
import WorkPool.Proofs.Table

/-!
# Every wait ends exactly once

A run of a shard is any list of operations of any ranks, with the dropping of all waits in
between. Its `WaitLog` holds the waits that were registered, as the answers said, those that
were dropped, and those that ended with a notice.

The step lemma is `Tracked.call`, which rests on `perform_fires`. From it, by induction on the
run, `Tracked.run` says that the log accounts for every wait.
-/

namespace WorkPool

/-- What can be done to a shard. -/
inductive ShardCall where
  /-- carry out an operation on behalf of a rank -/
  | perform (rank : Rank) (op : Operation)
  /-- drop all waits -/
  | invalidate

/-- What became of the waits of a run. -/
structure WaitLog where
  /-- the waits that were registered -/
  registered : List Wait := []
  /-- those that were dropped -/
  dropped : List Wait := []
  /-- those that ended with a notice -/
  notified : List Wait := []

namespace Shard

/-- One call, with its entries in the log. -/
def call (s : Shard) (log : WaitLog) : ShardCall → Except Fault (Shard × WaitLog)
  | .perform rank op => do
    let o ← s.perform rank op
    return (o.shard, { log with
      registered := log.registered ++ op.registers rank o.result
      notified := log.notified ++ o.effects.notices.map endedWait })
  | .invalidate => return (s.invalidate.1, { log with dropped := log.dropped ++ s.pending })

/-- A run of calls, with its log. -/
def run (s : Shard) (log : WaitLog) : List ShardCall → Except Fault (Shard × WaitLog)
  | [] => return (s, log)
  | c :: calls => do
    let (s, log) ← s.call log c
    s.run log calls

/-- The log accounts for every wait. -/
structure Tracked (s : Shard) (log : WaitLog) : Prop where
  /-- every wait is for something that can still happen -/
  waits : s.Waits
  /-- ids stay fresh -/
  numbered : s.Numbered
  /-- what was registered is pending, or was dropped, or has ended -/
  account : log.registered.Perm (s.pending ++ (log.dropped ++ log.notified))

variable {s s' : Shard} {log log' : WaitLog}

theorem Tracked.new {index : UInt64} {settings : Settings} (hi : index < settings.servers)
    (hn : (settings.servers.toNat : Int) ≤ topId) : Tracked (Shard.new index settings) {} :=
  ⟨fun _ h => (nomatch h), ⟨IdSource.upward_new _ hi hn, nofun⟩, .nil⟩

/-- **One call** keeps the account: what is new is registered beside the waits of before, and what
has ended joins the ended. -/
theorem Tracked.call (h : Tracked s log) {c : ShardCall} (hc : s.call log c = .ok (s', log')) :
    Tracked s' log' := by
  cases c with
  | perform rank op =>
    obtain ⟨o, ho, hc⟩ := bind_eq_ok hc
    cases hc
    have fires := perform_fires h.waits h.numbered ho
    refine ⟨fires.waits, fires.numbered, ?_⟩
    calc log.registered ++ op.registers rank o.result
      _ |>.Perm ((s.pending ++ (log.dropped ++ log.notified)) ++ op.registers rank o.result) :=
        h.account.append_right _
      _ |>.Perm ((s.pending ++ op.registers rank o.result) ++ (log.dropped ++ log.notified)) := by
        rw [List.append_assoc, List.append_assoc s.pending]
        exact List.perm_append_comm.append_left _
      _ |>.Perm ((o.shard.pending ++ o.effects.notices.map endedWait) ++
            (log.dropped ++ log.notified)) := fires.account.append_right _
      _ |>.Perm (o.shard.pending ++ (log.dropped ++
            (log.notified ++ o.effects.notices.map endedWait))) := by
        rw [List.append_assoc, ← List.append_assoc log.dropped]
        exact List.perm_append_comm.append_left _
  | invalidate =>
    cases hc
    refine ⟨fun _ h => (nomatch h), ⟨h.numbered.upward, h.numbered.passed⟩, ?_⟩
    refine h.account.trans ?_
    show (s.pending ++ (log.dropped ++ log.notified)).Perm
      ((log.dropped ++ s.pending) ++ log.notified)
    rw [← List.append_assoc]
    exact List.perm_append_comm.append_right _

theorem Tracked.run {calls : List ShardCall} (h : Tracked s log)
    (hrun : s.run log calls = .ok (s', log')) : Tracked s' log' := by
  induction calls generalizing s log with
  | nil => cases hrun; exact h
  | cons c calls ih =>
    obtain ⟨⟨s₁, log₁⟩, hcall, hrun⟩ := bind_eq_ok hrun
    exact ih (h.call hcall) hrun

/-- The answer to a closing lists, in order and once each, the ranks that it tells. -/
theorem close_ranks {id : DatumId} {ranks : List Rank} (h : (s.close id).result = .ok ranks) :
    ranks.Pairwise (· < ·) ∧ ∀ r, r ∈ ranks ↔ ∃ n, (r, n) ∈ (s.close id).effects.notices := by
  unfold close at h ⊢
  split at h
  · cases h
  split at h
  · cases h
  rename_i hopen
  cases h
  simp only [if_neg hopen]
  refine ⟨(Table.ascending_distinct _).imp compareOfLessAndEq_eq_lt.1, fun r => ?_⟩
  rw [Table.mem_distinct, List.mem_map]
  constructor
  · rintro ⟨p, hp, rfl⟩
    exact ⟨p.2, hp⟩
  · rintro ⟨n, hn⟩
    exact ⟨(r, n), hn, rfl⟩

/-- **Every wait ends exactly once.** After every run of a new shard

* every pending wait is on a live, open datum, and one for a subscript is on a container that
  does not hold it;
* the waits that were registered are those that are pending, those that were dropped and those
  that ended with a notice, each of them counted as often as it was registered;
* whatever operation comes next, every notice has its reason, and the answer to a closing lists
  the ranks that it tells, once each and in ascending order. -/
theorem waits_end_exactly_once (index : UInt64) (settings : Settings)
    (hi : index < settings.servers) (hn : (settings.servers.toNat : Int) ≤ topId)
    (calls : List ShardCall) (hrun : (Shard.new index settings).run {} calls = .ok (s, log)) :
    (∀ sub ∈ s.subscriptions, ∃ d, s.data.find? sub.id = some d ∧ d.closed = false ∧
      ∀ k, sub.subscript = some k → ∃ c, d.content = .container c ∧ c.lookup k = none) ∧
    log.registered.Perm (s.pending ++ (log.dropped ++ log.notified)) ∧
    ∀ rank op o, s.perform rank op = .ok o →
      (∀ p ∈ o.effects.notices, Justified s op o.shard p.2) ∧
      ∀ id ranks, op = .close id → o.result = .ok (.ranks ranks) →
        ranks.Pairwise (· < ·) ∧ ∀ r, r ∈ ranks ↔ ∃ n, (r, n) ∈ o.effects.notices := by
  have tracked := (Tracked.new hi hn).run hrun
  refine ⟨tracked.waits, tracked.account, fun rank op o ho => ⟨?_, ?_⟩⟩
  · exact (perform_fires tracked.waits tracked.numbered ho).justified
  · rintro id ranks rfl hranks
    cases ho
    obtain ⟨told, htold, e⟩ := map_eq_ok hranks
    cases e
    exact close_ranks htold

/-- Two ranks wait for a container, one for its closing and one for a subscript; a write then
brings the subscript and closes the container. -/
def waitsAndWrite : List ShardCall :=
  [.perform 0 (.create (.container 0 .string)), .perform 0 (.subscribe 1 none 7),
    .perform 1 (.subscribe 1 (some "a") 8), .perform 1 (.insert 1 "a" [5] 1)]

theorem waits_end_exactly_once_write : (1 : UInt64) < 2 ∧ ∃ s log,
    (Shard.new 1 { servers := 2 }).run {} waitsAndWrite = .ok (s, log) ∧
    log.registered = [⟨0, 7, 1, none⟩, ⟨1, 8, 1, some "a"⟩] ∧ s.pending = [] ∧ log.dropped = [] ∧
    log.registered.Perm (s.pending ++ (log.dropped ++ log.notified)) :=
  ⟨by decide, _, _, rfl, rfl, rfl, rfl,
    (waits_end_exactly_once 1 { servers := 2 } (by decide) (by decide) waitsAndWrite rfl).2.1⟩

end Shard

end WorkPool
