import Mathlib.Algebra.BigOperators.Group.List.Basic
import Mathlib.Algebra.GroupWithZero.Nat
import WorkPool.Proofs.Result
import WorkPool.Proofs.Table
import WorkPool.Quiescence

/-!
# Quiescence: what a round of votes says

A round concludes when it has as many reports as there are servers. This module reads off what
opening a round, taking up a report and concluding a round do to the votes, and what the reports
of a quiet round have in common (`Quiet`).
-/

namespace WorkPool

namespace Checked

theorem toNat_foldlM_add {words : List UInt64} {start n : UInt64}
    (h : words.foldlM add start = .ok n) :
    n.toNat = start.toNat + (words.map UInt64.toNat).sum := by
  induction words generalizing start with
  | nil => cases h; simp
  | cons word words ih =>
    rw [List.foldlM_cons] at h
    obtain ⟨next, hnext, h⟩ := bind_eq_ok h
    rw [ih h, add_eq_ok hnext, List.map_cons, List.sum_cons, Nat.add_assoc]

/-- An exact sum is the sum of the words as numbers. -/
theorem toNat_sum {words : List UInt64} {n : UInt64} (h : sum words = .ok n) :
    n.toNat = (words.map UInt64.toNat).sum := by
  rw [toNat_foldlM_add h, UInt64.toNat_zero, Nat.zero_add]

end Checked

namespace Quiescence

variable {q q' : Quiescence}

/-- The reports of a quiet round: nobody has anything to do, and as much was received as was
sent. -/
structure Quiet (reports : List IdleReport) : Prop where
  idle : ∀ report ∈ reports, report.idle = true
  even : (reports.map (·.sent.toNat)).sum = (reports.map (·.received.toNat)).sum

theorem quiet_of_isQuiet {reports : List IdleReport} (h : isQuiet reports = .ok true) :
    Quiet reports := by
  obtain ⟨sent, hsent, h⟩ := bind_eq_ok h
  obtain ⟨received, hreceived, h⟩ := bind_eq_ok h
  have both := Bool.and_eq_true_iff.1 (Except.ok.inj h)
  refine ⟨List.all_eq_true.1 both.1, ?_⟩
  have same := Checked.toNat_sum hsent
  rw [beq_iff_eq.1 both.2, Checked.toNat_sum hreceived, List.map_map, List.map_map] at same
  exact same.symm

theorem openRound_eq_ok {own : Rank} {report : IdleReport} {round : UInt64}
    (h : q.openRound own report = .ok (q', round)) :
    round = q.nextRound ∧ q.nextRound < q'.nextRound ∧ q' = { q with
      nextRound := q'.nextRound
      current := some ⟨q.nextRound, Table.empty.insert own report⟩ } := by
  obtain ⟨next, hnext, h⟩ := bind_eq_ok h
  cases h
  refine ⟨rfl, ?_, rfl⟩
  rw [UInt64.lt_iff_toNat_lt, Checked.add_eq_ok hnext]
  exact Nat.lt_succ_self _

/-- A round is left open; or it is complete, and the run is over, or goes on with or without
reports to compare the next ones with. -/
theorem conclude_cases {verdict : Option Verdict} (h : q.conclude = .ok (q', verdict)) :
    q' = q ∧ verdict = none ∨ ∃ b, q.current = some b ∧ q.servers.toNat ≤ b.reports.size ∧
      (verdict = some .terminate ∧ q.previous = some b.reports.values ∧
          q' = { q with current := none } ∨
        verdict = some .goOn ∧ Quiet b.reports.values ∧
          q' = { q with current := none, previous := some b.reports.values } ∨
        verdict = some .goOn ∧ q' = { q with current := none, previous := none }) := by
  unfold conclude at h
  split at h
  · cases h
    exact .inl ⟨rfl, rfl⟩
  rename_i b current
  split at h
  · cases h
    exact .inl ⟨rfl, rfl⟩
  rename_i complete
  refine .inr ⟨b, current, Nat.le_of_not_lt complete, ?_⟩
  obtain ⟨quiet, hquiet, h⟩ := bind_eq_ok h
  cases quiet with
  | true =>
    simp only [if_true] at h
    split at h
    · rename_i same
      cases h
      exact .inl ⟨rfl, same, rfl⟩
    · cases h
      exact .inr (.inl ⟨rfl, quiet_of_isQuiet hquiet, rfl⟩)
  | false =>
    cases h
    exact .inr (.inr ⟨rfl, rfl⟩)

/-- A report is for another round and is dropped; or it is added to the round, which then concludes
if it is complete. -/
theorem record_cases {reporter : Rank} {round : UInt64} {report : IdleReport}
    {verdict : Option Verdict} (h : q.record reporter round report = .ok (q', verdict)) :
    q' = q ∧ verdict = none ∨ ∃ b, q.current = some b ∧ b.number = round ∧
      conclude { q with current := some { b with reports := b.reports.insert reporter report } } =
        .ok (q', verdict) := by
  unfold record at h
  split at h
  · cases h
    exact .inl ⟨rfl, rfl⟩
  rename_i b current
  split at h
  · cases h
    exact .inl ⟨rfl, rfl⟩
  · rename_i same
    exact .inr ⟨b, current, Decidable.not_not.1 same, h⟩

end Quiescence

end WorkPool
