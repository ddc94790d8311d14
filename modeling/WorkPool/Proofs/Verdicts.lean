import Mathlib.Data.List.Induction
import Mathlib.Order.Nat
import WorkPool.Proofs.Quiescence

/-!
# Verdicts: two quiet rounds that are alike

A run of votes is any list of calls: a round is opened, a report is taken up for some round, or the
open round is concluded if it is complete. What the votes make of it is told from the calls alone:
`tally` is what every rank has said last in the round that was opened last, and a call **concludes**
the round if it is the first to find that every server has said something (`Concludes`).

Main statement: `Quiescence.verdict_of_quiet_rounds` — a call gives a verdict exactly if it
concludes a round, and the verdict ends the run exactly if this round and the one before it were
quiet and every server has said the same in both. `Follows` is the invariant, and `Follows.call` the
step.
-/

namespace WorkPool

/-- What can be done to the votes. -/
inductive VoteCall where
  /-- open a round with the master's own report -/
  | openRound (own : Rank) (report : IdleReport)
  /-- take up a report for a round -/
  | record (reporter : Rank) (round : UInt64) (report : IdleReport)
  /-- conclude the open round if it is complete -/
  | conclude

namespace VoteCall

/-- A call asks for the verdict on a round. -/
def Asks (round : Nat) : VoteCall → Prop
  | .openRound .. => False
  | .record _ number _ => number.toNat = round
  | .conclude => True

/-- A call comes from servers, and a round is opened when none is open. -/
def Allowed (servers : List Rank) (q : Quiescence) : VoteCall → Prop
  | .openRound own _ => own ∈ servers ∧ q.isVoting = false
  | .record reporter _ _ => reporter ∈ servers
  | .conclude => True

instance (servers : List Rank) (q : Quiescence) : (c : VoteCall) → Decidable (c.Allowed servers q)
  | .openRound own _ => inferInstanceAs (Decidable (own ∈ servers ∧ q.isVoting = false))
  | .record reporter _ _ => inferInstanceAs (Decidable (reporter ∈ servers))
  | .conclude => .isTrue trivial

end VoteCall

/-! ## What was said -/

/-- The number of rounds that were opened, and what was said last in the last of them. -/
structure Tally where
  round : Nat := 0
  said : Rank → Option IdleReport := fun _ => none

/-- What a call adds to a tally. -/
def Tally.next (t : Tally) : VoteCall → Tally
  | .openRound own report => ⟨t.round + 1, fun r => if r = own then some report else none⟩
  | .record reporter round report =>
    if round.toNat = t.round then
      { t with said := fun r => if r = reporter then some report else t.said r }
    else t
  | .conclude => t

/-- The tally of all calls so far. -/
def tally (calls : List VoteCall) : Tally := calls.foldl Tally.next {}

@[simp] theorem tally_concat (calls : List VoteCall) (c : VoteCall) :
    tally (calls ++ [c]) = (tally calls).next c := by
  rw [tally, List.foldl_append]
  rfl

theorem Tally.round_next_record (t : Tally) (reporter : Rank) (round : UInt64)
    (report : IdleReport) : (t.next (.record reporter round report)).round = t.round := by
  rw [next]
  split <;> rfl

/-- No round is taken back. -/
theorem Tally.round_le_next (t : Tally) (c : VoteCall) : t.round ≤ (t.next c).round := by
  cases c with
  | openRound => exact Nat.le_succ _
  | record => exact Nat.le_of_eq (t.round_next_record _ _ _).symm
  | conclude => exact Nat.le_refl _

theorem Tally.round_next_of_asks {t : Tally} {c : VoteCall} {round : Nat} (asks : c.Asks round) :
    (t.next c).round = t.round := by
  cases c with
  | openRound => exact asks.elim
  | record => exact t.round_next_record _ _ _
  | conclude => rfl

/-- Rounds are counted upwards. -/
theorem round_tally_le (before after : List VoteCall) :
    (tally before).round ≤ (tally (before ++ after)).round := by
  induction after generalizing before with
  | nil => rw [List.append_nil]
  | cons c after ih =>
    have first := (tally before).round_le_next c
    have later := ih (before ++ [c])
    rw [tally_concat, List.append_assoc, List.singleton_append] at later
    exact first.trans later

/-! ## When a round is decided -/

section Rounds

variable (servers : List Rank)

/-- Every server has said something in the last round. -/
def Complete (calls : List VoteCall) : Prop := ∀ r ∈ servers, ((tally calls).said r).isSome

instance (calls : List VoteCall) : Decidable (Complete servers calls) :=
  List.decidableBAll (fun r => ((tally calls).said r).isSome) servers

/-- What the servers have said in the last round, in the order of their ranks. -/
def statements (calls : List VoteCall) : List IdleReport := servers.filterMap (tally calls).said

/-- A call asks for the verdict on the last round and finds it complete. -/
def Decides (calls : List VoteCall) (c : VoteCall) : Prop :=
  0 < (tally calls).round ∧ c.Asks (tally calls).round ∧ Complete servers (calls ++ [c])

/-- The last round was found complete. -/
def Decided (calls : List VoteCall) : Prop :=
  ∃ before c, before ++ [c] <+: calls ∧
    (tally before).round = (tally calls).round ∧ Decides servers before c

/-- A call is the first to find its round complete. -/
def Concludes (calls : List VoteCall) (c : VoteCall) : Prop :=
  Decides servers calls c ∧ ¬ Decided servers calls

/-- A round was concluded when these were the statements of the servers. -/
def ConcludedWith (calls : List VoteCall) (round : Nat) (reports : List IdleReport) : Prop :=
  ∃ before c, before ++ [c] <+: calls ∧ (tally before).round = round ∧
    Concludes servers before c ∧ reports = statements servers (before ++ [c])

end Rounds

section Rounds

variable {servers : List Rank} {calls : List VoteCall} {c : VoteCall}

/-- Something happened before or with the last call. -/
theorem exists_moment_concat {P : List VoteCall → VoteCall → Prop} :
    (∃ before d, before ++ [d] <+: calls ++ [c] ∧ P before d) ↔
      (∃ before d, before ++ [d] <+: calls ∧ P before d) ∨ P calls c := by
  constructor
  · rintro ⟨before, d, moment, holds⟩
    rcases List.prefix_concat_iff.1 moment with last | earlier
    · obtain ⟨rfl, final⟩ := List.append_inj' last rfl
      cases final
      exact .inr holds
    · exact .inl ⟨before, d, earlier, holds⟩
  · rintro (⟨before, d, moment, holds⟩ | holds)
    · exact ⟨before, d, moment.trans (List.prefix_append _ _), holds⟩
    · exact ⟨calls, c, List.prefix_rfl, holds⟩

/-- A round that is opened is not decided yet. -/
theorem not_decided_openRound (own : Rank) (report : IdleReport) :
    ¬ Decided servers (calls ++ [.openRound own report]) := by
  intro decided
  rcases exists_moment_concat.1 decided with ⟨before, d, ⟨after, rfl⟩, same, -⟩ | ⟨-, -, asks, -⟩
  · have earlier := round_tally_le before ([d] ++ after)
    rw [tally_concat, List.append_assoc] at same
    exact absurd (same ▸ earlier) (Nat.not_succ_le_self _)
  · exact asks

/-- A round that goes on is decided by what came before, or by the last call. -/
theorem decided_concat (same : ((tally calls).next c).round = (tally calls).round) :
    Decided servers (calls ++ [c]) ↔ Decided servers calls ∨ Decides servers calls c := by
  unfold Decided
  rw [exists_moment_concat, tally_concat, same]
  exact or_congr_right (and_iff_right rfl)

/-- A round is concluded before the last call, or by it. -/
theorem concludedWith_concat {round : Nat} {reports : List IdleReport} :
    ConcludedWith servers (calls ++ [c]) round reports ↔
      ConcludedWith servers calls round reports ∨
        (tally calls).round = round ∧ Concludes servers calls c ∧
          reports = statements servers (calls ++ [c]) :=
  exists_moment_concat

/-- A round is concluded only once, with what is said by then. -/
theorem Concludes.concludedWith_iff {reports : List IdleReport} (h : Concludes servers calls c) :
    ConcludedWith servers (calls ++ [c]) (tally calls).round reports ↔
      reports = statements servers (calls ++ [c]) := by
  rw [concludedWith_concat]
  constructor
  · rintro (⟨before, d, moment, number, earlier, -⟩ | now)
    · exact (h.2 ⟨before, d, moment, number, earlier.1⟩).elim
    · exact now.2.2
  · exact fun now => .inr ⟨rfl, h, now⟩

/-- Two complete rounds are alike exactly if every server has said the same in both. -/
theorem statements_eq_iff {calls' : List VoteCall} (complete : Complete servers calls)
    (complete' : Complete servers calls') :
    statements servers calls = statements servers calls' ↔
      ∀ r ∈ servers, (tally calls).said r = (tally calls').said r := by
  have all {calls : List VoteCall} (complete : Complete servers calls) :
      (statements servers calls).map some = servers.map (tally calls).said := by
    rw [statements, List.map_filterMap, ← List.filterMap_eq_map]
    refine List.filterMap_congr fun r hr => ?_
    obtain ⟨report, said⟩ := Option.isSome_iff_exists.1 (complete r hr)
    simp [said]
  rw [← List.map_inj_left, ← all complete, ← all complete',
    List.map_inj_right fun _ _ => Option.some.inj]

/-! With two servers or more, a round is not complete when it is opened. So it is found complete by
the very report that completes it. -/

/-- What was said in a round stays said. -/
theorem Complete.concat (h : Complete servers calls)
    (same : ((tally calls).next c).round = (tally calls).round) :
    Complete servers (calls ++ [c]) := by
  intro r hr
  have said := h r hr
  rw [tally_concat]
  cases c with
  | openRound => exact absurd same (Nat.succ_ne_self _)
  | record reporter number report =>
    rw [Tally.next]
    split
    · show (if r = reporter then some report else (tally calls).said r).isSome = true
      split
      · rfl
      · exact said
    · exact said
  | conclude => exact said

/-- A round that is complete stays so while it goes on. -/
theorem Complete.append (h : Complete servers calls) {after : List VoteCall}
    (same : (tally (calls ++ after)).round = (tally calls).round) :
    Complete servers (calls ++ after) := by
  induction after generalizing calls with
  | nil =>
    rw [List.append_nil]
    exact h
  | cons c after ih =>
    rw [List.append_cons] at same ⊢
    have next := (tally calls).round_le_next c
    have later := round_tally_le (calls ++ [c]) after
    rw [tally_concat] at later
    refine ih (h.concat (by omega)) ?_
    rw [tally_concat]
    omega

/-- A round is decided only when it is complete. -/
theorem Decided.complete (h : Decided servers calls) : Complete servers calls := by
  obtain ⟨before, d, ⟨after, rfl⟩, same, -, -, complete⟩ := h
  have next := (tally before).round_le_next d
  have later := round_tally_le (before ++ [d]) after
  rw [tally_concat] at later
  refine complete.append ?_
  rw [tally_concat]
  omega

/-- A round that is complete was found to be so, if it takes more than the report it is opened with:
nobody else has said anything when it is opened. -/
theorem decided_of_complete (apart : servers.Nodup) (several : 1 < servers.length)
    (opened : 0 < (tally calls).round) (complete : Complete servers calls) :
    Decided servers calls := by
  induction calls using List.reverseRecOn with
  | nil => cases opened
  | append_singleton before d ih =>
    have same_of_same (same : tally (before ++ [d]) = tally before) : Decided servers before := by
      refine ih (same ▸ opened) ?_
      rw [Complete, ← same]
      exact complete
    cases d with
    | openRound own report =>
      have all : servers ⊆ [own] := by
        intro r hr
        have said := complete r hr
        rw [tally_concat] at said
        by_cases same : r = own
        · exact List.mem_singleton.2 same
        · change (if r = own then some report else none).isSome = true at said
          rw [if_neg same] at said
          cases said
      have few := (List.subperm_of_subset apart all).length_le
      rw [List.length_singleton] at few
      omega
    | record reporter number report =>
      have same := (tally before).round_next_record reporter number report
      rw [decided_concat same]
      rw [tally_concat, same] at opened
      by_cases asks : number.toNat = (tally before).round
      · exact .inr ⟨opened, asks, complete⟩
      · exact .inl (same_of_same (by rw [tally_concat]; exact if_neg asks))
    | conclude =>
      rw [decided_concat rfl]
      rw [tally_concat] at opened
      exact .inr ⟨opened, trivial, complete⟩

/-- **With two servers or more** a call concludes a round exactly if it is the one that completes
it. -/
theorem concludes_iff_completes (apart : servers.Nodup) (several : 1 < servers.length) :
    Concludes servers calls c ↔ 0 < (tally calls).round ∧ ¬ Complete servers calls ∧
      Complete servers (calls ++ [c]) := by
  constructor
  · rintro ⟨⟨opened, -, complete⟩, undecided⟩
    exact ⟨opened, fun already => undecided (decided_of_complete apart several opened already),
      complete⟩
  · rintro ⟨opened, incomplete, complete⟩
    have undecided : ¬ Decided servers calls := fun decided => incomplete decided.complete
    have later := (tally calls).round_le_next c
    have opened' : 0 < (tally (calls ++ [c])).round := by
      rw [tally_concat]
      omega
    have decided := decided_of_complete apart several opened' complete
    cases c with
    | openRound own report => exact (not_decided_openRound own report decided).elim
    | record reporter number report =>
      rw [decided_concat ((tally calls).round_next_record _ _ _)] at decided
      exact ⟨decided.resolve_left undecided, undecided⟩
    | conclude =>
      rw [decided_concat rfl] at decided
      exact ⟨decided.resolve_left undecided, undecided⟩

end Rounds

/-! ## What a round holds -/

namespace Table

universe u v

variable {κ : Type u} {ν : Type v} [Ord κ] [Std.TransOrd κ] [Std.LawfulEqOrd κ]

/-- The values of a table are what is found at some keys in order, if its keys are among them. -/
theorem values_eq_filterMap {t : Table κ ν} {wanted : List κ}
    (ascending : wanted.Pairwise fun a b => compare a b = .lt) (known : ∀ k ∈ t.keys, k ∈ wanted) :
    t.values = wanted.filterMap t.find? := by
  have apart {l : List κ} (h : l.Pairwise fun a b => compare a b = .lt) : l.Nodup :=
    h.imp fun less same => by simp [same] at less
  have same : t.keys = wanted.filter t.contains := by
    have sorted := ascending.filter t.contains
    have perm : t.keys.Perm (wanted.filter t.contains) := by
      refine (List.perm_ext_iff_of_nodup (apart t.ascending_keys) (apart sorted)).2 fun k => ?_
      rw [List.mem_filter, ← mem_keys_iff]
      exact ⟨fun hk => ⟨known k hk, hk⟩, fun hk => hk.2⟩
    refine perm.eq_of_pairwise (fun a b _ _ less more => ?_) t.ascending_keys sorted
    rw [Std.OrientedCmp.gt_of_lt less] at more
    cases more
  have found : t.values = t.keys.filterMap t.find? := by
    rw [values, keys, List.filterMap_map, ← List.filterMap_eq_map]
    refine List.filterMap_congr fun e he => ?_
    exact (lookup_of_mem t.ascending he).symm
  rw [found, same, List.filterMap_filter]
  refine List.filterMap_congr fun k _ => ?_
  cases hk : t.find? k <;> simp [contains, hk]

end Table

namespace Checked

/-- Words are added up if their sum fits a word. -/
theorem exists_foldlM_add (words : List UInt64) (start : UInt64)
    (fits : start.toNat + (words.map UInt64.toNat).sum < wordSize) :
    ∃ n, words.foldlM add start = .ok n := by
  induction words generalizing start with
  | nil => exact ⟨start, rfl⟩
  | cons word words ih =>
    rw [List.map_cons, List.sum_cons, ← Nat.add_assoc] at fits
    have first : add start word = .ok (start + word) := if_pos (by omega)
    have next := add_eq_ok first
    obtain ⟨n, rest⟩ := ih (start + word) (by omega)
    refine ⟨n, ?_⟩
    rw [List.foldlM_cons, first]
    exact rest

/-- A sum that fits a word has a result. -/
theorem exists_sum (words : List UInt64) (fits : (words.map UInt64.toNat).sum < wordSize) :
    ∃ n, sum words = .ok n :=
  exists_foldlM_add words 0 (by rw [UInt64.toNat_zero, Nat.zero_add]; exact fits)

end Checked

namespace Quiescence

variable {q q' : Quiescence} {servers : List Rank} {calls : List VoteCall} {c : VoteCall}

/-- Reports are found to be quiet, or not, as they are. -/
theorem isQuiet_eq_ok {reports : List IdleReport} {quiet : Bool}
    (h : isQuiet reports = .ok quiet) : quiet = true ↔ Quiet reports := by
  refine ⟨fun found => quiet_of_isQuiet (found ▸ h), fun holds => ?_⟩
  obtain ⟨sent, hsent, h⟩ := bind_eq_ok h
  obtain ⟨received, hreceived, h⟩ := bind_eq_ok h
  cases h
  rw [Bool.and_eq_true, List.all_eq_true, beq_iff_eq, ← UInt64.toNat_inj,
    Checked.toNat_sum hsent, Checked.toNat_sum hreceived, List.map_map, List.map_map]
  exact ⟨holds.idle, holds.even⟩

/-- What was sent, and what was received, can be counted with words. -/
structure Countable (reports : List IdleReport) : Prop where
  sent : (reports.map (·.sent.toNat)).sum < Checked.wordSize
  received : (reports.map (·.received.toNat)).sum < Checked.wordSize

/-- **Whether a round is quiet** can be told if its counts can be added up. -/
theorem Countable.isQuiet {reports : List IdleReport} (h : Countable reports) :
    ∃ quiet, Quiescence.isQuiet reports = .ok quiet := by
  obtain ⟨sent, hsent⟩ := Checked.exists_sum (reports.map (·.sent))
    (by rw [List.map_map]; exact h.sent)
  obtain ⟨received, hreceived⟩ := Checked.exists_sum (reports.map (·.received))
    (by rw [List.map_map]; exact h.received)
  refine ⟨reports.all (·.idle) && sent == received, ?_⟩
  rw [Quiescence.isQuiet, hsent, hreceived]
  rfl

/-- **A complete round** is closed with a verdict, and is remembered if it was quiet. -/
theorem conclude_eq {b : Ballot} (current : q.current = some b) :
    q.conclude = if b.reports.size < q.servers.toNat then .ok (q, none)
      else (isQuiet b.reports.values).map fun quiet =>
        ({ q with current := none, previous := if quiet then some b.reports.values else none },
          some (if quiet = true ∧ q.previous = some b.reports.values then .terminate
            else .goOn)) := by
  unfold conclude
  rw [current]
  simp only
  split
  · rfl
  cases isQuiet b.reports.values with
  | error fault => rfl
  | ok quiet =>
    cases quiet with
    | true =>
      by_cases same : q.previous = some b.reports.values
      · simp [same, bind, Except.bind, pure, Except.pure, Except.map]
      · simp [same, bind, Except.bind, pure, Except.pure, Except.map]
    | false => rfl

section Record

variable {b : Ballot} {reporter : Rank} {round : UInt64} {report : IdleReport}

/-- A report while no round is open is dropped. -/
theorem record_of_closed (current : q.current = none) :
    q.record reporter round report = .ok (q, none) := by
  rw [record, current]
  rfl

/-- A report on another round is dropped. -/
theorem record_of_number_ne (current : q.current = some b) (other : b.number ≠ round) :
    q.record reporter round report = .ok (q, none) := by
  rw [record, current]
  exact if_pos other

/-- A report on the open round is noted, and the round is concluded if it is complete. -/
theorem record_of_number (current : q.current = some b) (here : b.number = round) :
    q.record reporter round report =
      conclude { q with
        current := some { b with reports := b.reports.insert reporter report } } := by
  rw [record, current]
  exact if_neg (not_not_intro here)

end Record

/-- The open round holds what was said in it. -/
structure Collected (servers : List Rank) (calls : List VoteCall) (b : Ballot) : Prop where
  number : b.number.toNat = (tally calls).round
  said : ∀ r, b.reports.find? r = (tally calls).said r
  known : ∀ r ∈ b.reports.keys, r ∈ servers

/-- The reports of a round are what the servers have said in it, by rank. -/
theorem Collected.values {b : Ballot} (h : Collected servers calls b)
    (ascending : servers.Pairwise (· < ·)) : b.reports.values = statements servers calls := by
  have sorted : servers.Pairwise fun a b => compare a b = .lt :=
    ascending.imp compareOfLessAndEq_eq_lt.2
  rw [Table.values_eq_filterMap sorted h.known, statements]
  exact List.filterMap_congr fun r _ => h.said r

/-- It has as many reports as there are servers exactly if every server has said something. -/
theorem Collected.complete_iff {b : Ballot} (h : Collected servers calls b)
    (ascending : servers.Pairwise (· < ·)) :
    servers.length ≤ b.reports.size ↔ Complete servers calls := by
  have size : b.reports.size = (statements servers calls).length := by
    rw [← h.values ascending, Table.values, List.length_map]
    rfl
  have most : (statements servers calls).length ≤ servers.length := List.length_filterMap_le _ _
  rw [size, Complete, ← List.filterMap_length_eq_length]
  exact ⟨fun least => Nat.le_antisymm most least, fun same => Nat.le_of_eq same.symm⟩

theorem Collected.congr {b : Ballot} {calls' : List VoteCall} (h : Collected servers calls b)
    (same : tally calls' = tally calls) : Collected servers calls' b :=
  ⟨same ▸ h.number, same ▸ h.said, h.known⟩

/-- A report for the round is added to it. -/
theorem Collected.record {b : Ballot} {reporter : Rank} {round : UInt64} {report : IdleReport}
    (h : Collected servers calls b) (server : reporter ∈ servers)
    (asks : round.toNat = (tally calls).round) :
    Collected servers (calls ++ [.record reporter round report])
      { b with reports := b.reports.insert reporter report } := by
  have said : tally (calls ++ [.record reporter round report]) = { tally calls with
      said := fun r => if r = reporter then some report else (tally calls).said r } := by
    rw [tally_concat, Tally.next, if_pos asks]
  refine ⟨?_, fun r => ?_, fun r hr => ?_⟩
  · rw [said]
    exact h.number
  · rw [said]
    by_cases same : r = reporter
    · rw [same, Table.find?_insert_self]
      exact (if_pos rfl).symm
    · rw [Table.find?_insert_ne _ same, h.said r]
      exact (if_neg same).symm
  · rcases Table.contains_insert.1 (Table.mem_keys_iff.1 hr) with rfl | there
    · exact server
    · exact h.known r (Table.mem_keys_iff.2 there)

/-! ## Every run -/

/-- One call, and the verdict that it gives. -/
def call (q : Quiescence) : VoteCall → Except Fault (Quiescence × Option Verdict)
  | .openRound own report => do
    let opened ← q.openRound own report
    return (opened.1, none)
  | .record reporter round report => q.record reporter round report
  | .conclude => q.conclude

/-- A run of calls that come from servers, none of which opens a round while one is open. -/
def run (servers : List Rank) (q : Quiescence) : List VoteCall → Option Quiescence
  | [] => some q
  | c :: calls =>
    if c.Allowed servers q then (q.call c).toOption.bind fun called => called.1.run servers calls
    else none

/-- The votes follow from the calls. -/
structure Follows (servers : List Rank) (calls : List VoteCall) (q : Quiescence) : Prop where
  size : q.servers.toNat = servers.length
  next : q.nextRound.toNat = (tally calls).round + 1
  /-- no round was opened, or the last one is over -/
  closed : q.current = none → (tally calls).round = 0 ∨ Decided servers calls
  /-- the round that is open holds what was said in it -/
  current : ∀ b, q.current = some b →
    0 < (tally calls).round ∧ ¬ Decided servers calls ∧ Collected servers calls b
  /-- the last round that is over is remembered if it was quiet -/
  previous : ∀ round, round + q.current.isSome.toNat = (tally calls).round → ∀ reports,
    q.previous = some reports ↔ ConcludedWith servers calls round reports ∧ Quiet reports

/-- What a verdict says. -/
structure Judges (servers : List Rank) (calls : List VoteCall) (c : VoteCall)
    (verdict : Option Verdict) : Prop where
  given : verdict.isSome = true ↔ Concludes servers calls c
  ends : verdict = some .terminate ↔ Concludes servers calls c ∧
    Quiet (statements servers (calls ++ [c])) ∧
    ConcludedWith servers calls ((tally calls).round - 1) (statements servers (calls ++ [c]))

section Step

variable {verdict : Option Verdict}

/-- A call that concludes no round gives no verdict. -/
theorem judges_none (h : ¬ Concludes servers calls c) : Judges servers calls c none :=
  ⟨⟨fun given => absurd given Bool.false_ne_true, fun concludes => (h concludes).elim⟩,
    ⟨(by intro given; cases given), fun ends => (h ends.1).elim⟩⟩

/-- At the start no round is open. -/
theorem follows_new {n : UInt64} (many : n.toNat = servers.length) :
    Follows servers [] { servers := n } where
  size := many
  next := rfl
  closed _ := .inl rfl
  current b h := by cases h
  previous round _ reports := by
    refine ⟨(by intro h; cases h), ?_⟩
    rintro ⟨⟨before, c, moment, -⟩, -⟩
    exact absurd (List.prefix_nil.1 moment) (by simp)

/-- A call that concludes nothing opens and closes no round. -/
theorem Follows.still {current : Option Ballot} (h : Follows servers calls q)
    (same : ((tally calls).next c).round = (tally calls).round)
    (idle : ¬ Concludes servers calls c) (voting : current.isSome = q.current.isSome)
    (kept : ∀ b, current = some b → Collected servers (calls ++ [c]) b) :
    Follows servers (calls ++ [c]) { q with current } where
  size := h.size
  next := by rw [tally_concat, same, h.next]
  closed shut := by
    have closed : q.current = none := by
      rw [← Option.isNone_iff_eq_none, ← Option.isSome_eq_false_iff, ← voting]
      exact congrArg Option.isSome shut
    rw [tally_concat, same, decided_concat same]
    exact (h.closed closed).imp_right .inl
  current b' some := by
    obtain ⟨b, there⟩ := Option.isSome_iff_exists.1 (voting ▸ Option.isSome_of_mem some)
    obtain ⟨opened, undecided, -⟩ := h.current b there
    rw [tally_concat, same, decided_concat same]
    exact ⟨opened, fun decided => idle ⟨decided.resolve_left undecided, undecided⟩, kept b' some⟩
  previous round hround reports := by
    rw [tally_concat, same, voting] at hround
    rw [h.previous round hround, concludedWith_concat, or_iff_left fun new => idle new.2.1]

/-- A call that concludes the round closes it, and what was said in it is remembered if it was
quiet. -/
theorem Follows.closes {quiet : Bool} (h : Follows servers calls q)
    (same : ((tally calls).next c).round = (tally calls).round)
    (concludes : Concludes servers calls c)
    (quiet_iff : quiet = true ↔ Quiet (statements servers (calls ++ [c]))) :
    Follows servers (calls ++ [c]) { q with
      current := none
      previous := if quiet then some (statements servers (calls ++ [c])) else none } where
  size := h.size
  next := by rw [tally_concat, same, h.next]
  closed _ := .inr ((decided_concat same).2 (.inr concludes.1))
  current b some := by cases some
  previous round hround reports := by
    rw [tally_concat, same] at hround
    obtain rfl : round = (tally calls).round := hround
    rw [concludes.concludedWith_iff]
    cases quiet with
    | true =>
      have holds := quiet_iff.1 rfl
      simp only [if_true, Option.some.injEq]
      exact ⟨fun e => ⟨e.symm, e ▸ holds⟩, fun e => e.1.symm⟩
    | false =>
      refine ⟨(by intro e; cases e), ?_⟩
      rintro ⟨rfl, holds⟩
      exact (Bool.false_ne_true (quiet_iff.2 holds)).elim

/-- The verdict on a round follows from what is remembered of the one before. -/
theorem Follows.judges {b : Ballot} {quiet : Bool} (h : Follows servers calls q)
    (current : q.current = some b) (concludes : Concludes servers calls c)
    (quiet_iff : quiet = true ↔ Quiet (statements servers (calls ++ [c]))) :
    Judges servers calls c (some
      (if quiet = true ∧ q.previous = some (statements servers (calls ++ [c])) then .terminate
        else .goOn)) := by
  refine ⟨⟨fun _ => concludes, fun _ => rfl⟩, ?_⟩
  have earlier : (tally calls).round - 1 + q.current.isSome.toNat = (tally calls).round := by
    rw [current]
    exact Nat.sub_add_cancel concludes.1.1
  have remembered (holds : quiet = true) :
      ConcludedWith servers calls ((tally calls).round - 1) (statements servers (calls ++ [c])) ↔
        q.previous = some (statements servers (calls ++ [c])) := by
    rw [h.previous _ earlier, and_iff_left (quiet_iff.1 holds)]
  rw [and_iff_right concludes, ← quiet_iff, and_congr_right_iff.2 remembered, Option.some.injEq]
  split
  · rename_i both
    exact iff_of_true rfl both
  · rename_i other
    exact iff_of_false (by intro e; cases e) other

/-- **The verdict is asked for** while a round is open. There is none while somebody has not said
anything yet. -/
theorem Follows.ask {b b' : Ballot} (h : Follows servers calls q)
    (ascending : servers.Pairwise (· < ·)) (current : q.current = some b)
    (asks : c.Asks (tally calls).round) (collected : Collected servers (calls ++ [c]) b')
    (concluded : conclude { q with current := some b' } = .ok (q', verdict)) :
    Follows servers (calls ++ [c]) q' ∧ Judges servers calls c verdict := by
  obtain ⟨opened, undecided, -⟩ := h.current b current
  have same : ((tally calls).next c).round = (tally calls).round := Tally.round_next_of_asks asks
  have complete_iff := collected.complete_iff ascending
  rw [← h.size] at complete_iff
  rw [conclude_eq rfl] at concluded
  split at concluded
  · rename_i incomplete
    cases concluded
    have idle : ¬ Concludes servers calls c := fun concludes =>
      Nat.not_le.2 incomplete (complete_iff.2 concludes.1.2.2)
    refine ⟨h.still same idle (by rw [current]; rfl) ?_, judges_none idle⟩
    rintro b ⟨⟩
    exact collected
  · rename_i complete
    obtain ⟨quiet, found, verdict⟩ := map_eq_ok concluded
    cases verdict
    have quiet_iff := isQuiet_eq_ok found
    have concludes : Concludes servers calls c :=
      ⟨⟨opened, asks, complete_iff.1 (Nat.not_lt.1 complete)⟩, undecided⟩
    rw [collected.values ascending] at quiet_iff ⊢
    exact ⟨h.closes same concludes quiet_iff, h.judges current concludes quiet_iff⟩

/-- **A round is opened.** -/
theorem Follows.openRound {own : Rank} {report : IdleReport} {number : UInt64}
    (h : Follows servers calls q) (server : own ∈ servers) (closed : q.isVoting = false)
    (opened : q.openRound own report = .ok (q', number)) :
    Follows servers (calls ++ [.openRound own report]) q' ∧
      number.toNat = (tally calls).round + 1 := by
  obtain ⟨next, hnext, opened⟩ := bind_eq_ok opened
  cases opened
  have undecided : ¬ Decided servers (calls ++ [.openRound own report]) :=
    not_decided_openRound own report
  refine ⟨⟨h.size, ?_, (by intro none; cases none), ?_, ?_⟩, h.next⟩
  · rw [Checked.add_eq_ok hnext, h.next, tally_concat]
    rfl
  · rintro b ⟨⟩
    rw [tally_concat]
    refine ⟨Nat.succ_pos _, undecided, h.next.trans (by rw [tally_concat]; rfl), fun r => ?_, ?_⟩
    · rw [tally_concat]
      by_cases same : r = own
      · rw [same, Table.find?_insert_self]
        exact (if_pos rfl).symm
      · rw [Table.find?_insert_ne _ same, Table.find?_empty]
        exact (if_neg same).symm
    · intro r hr
      rcases Table.contains_insert.1 (Table.mem_keys_iff.1 hr) with rfl | none
      · exact server
      · cases none
  · intro round hround reports
    have earlier : round + q.current.isSome.toNat = (tally calls).round := by
      rw [tally_concat] at hround
      have closed : q.current.isSome = false := closed
      rw [closed]
      exact Nat.succ.inj hround
    rw [concludedWith_concat, or_iff_left fun new => new.2.1.1.2.1]
    exact h.previous round earlier reports

/-- **Every call** keeps it, and gives a verdict when it concludes a round. What is asked of a round
that is over concludes nothing. -/
theorem Follows.call (h : Follows servers calls q) (ascending : servers.Pairwise (· < ·))
    (allowed : c.Allowed servers q) (called : q.call c = .ok (q', verdict)) :
    Follows servers (calls ++ [c]) q' ∧ Judges servers calls c verdict := by
  have over_idle (none : q.current = none) : ¬ Concludes servers calls c := by
    rintro ⟨⟨opened, -⟩, undecided⟩
    exact (h.closed none).elim (Nat.ne_of_gt opened) undecided
  cases c with
  | openRound own report =>
    obtain ⟨⟨q₁, number⟩, opened, called⟩ := bind_eq_ok called
    cases called
    exact ⟨(h.openRound allowed.1 allowed.2 opened).1, judges_none fun concludes => concludes.1.2.1⟩
  | record reporter round report =>
    cases current : q.current with
    | none =>
      have idle := over_idle current
      cases (record_of_closed current).symm.trans called
      refine ⟨h.still (Tally.round_next_record _ _ _ _) idle rfl fun b some => ?_, judges_none idle⟩
      cases current.symm.trans some
    | some b =>
      obtain ⟨-, -, collected⟩ := h.current b current
      by_cases asks : round.toNat = (tally calls).round
      · have here : b.number = round := UInt64.toNat_inj.1 (collected.number.trans asks.symm)
        refine h.ask ascending current asks (collected.record allowed asks) ?_
        rw [← record_of_number current here]
        exact called
      · have other : b.number ≠ round := fun same => asks (same ▸ collected.number)
        have unsaid : (tally calls).next (.record reporter round report) = tally calls :=
          if_neg asks
        have idle : ¬ Concludes servers calls (.record reporter round report) :=
          fun concludes => asks concludes.1.2.1
        cases (record_of_number_ne current other).symm.trans called
        refine ⟨h.still (congrArg Tally.round unsaid) idle rfl fun b' some => ?_, judges_none idle⟩
        cases current.symm.trans some
        exact collected.congr (by rw [tally_concat, unsaid])
  | conclude =>
    cases current : q.current with
    | none =>
      have idle := over_idle current
      have left : q.conclude = .ok (q, none) := by
        rw [conclude, current]
        rfl
      cases left.symm.trans called
      refine ⟨h.still rfl idle rfl fun b some => ?_, judges_none idle⟩
      cases current.symm.trans some
    | some b =>
      obtain ⟨-, -, collected⟩ := h.current b current
      refine h.ask ascending current trivial (collected.congr (by rw [tally_concat]; rfl)) ?_
      rw [← current]
      exact called

/-- What is asked has an answer, if the reports can be counted. -/
theorem Follows.ask_completes {b b' : Ballot} (h : Follows servers calls q)
    (ascending : servers.Pairwise (· < ·)) (current : q.current = some b)
    (asks : c.Asks (tally calls).round) (collected : Collected servers (calls ++ [c]) b')
    (countable : Concludes servers calls c → Countable (statements servers (calls ++ [c]))) :
    ∃ result, conclude { q with current := some b' } = .ok result := by
  obtain ⟨opened, undecided, -⟩ := h.current b current
  rw [conclude_eq rfl]
  split
  · exact ⟨_, rfl⟩
  · rename_i complete
    have complete : Complete servers (calls ++ [c]) :=
      (collected.complete_iff ascending).1 (h.size ▸ Nat.not_lt.1 complete)
    obtain ⟨quiet, found⟩ := (countable ⟨⟨opened, asks, complete⟩, undecided⟩).isQuiet
    rw [collected.values ascending, found]
    exact ⟨_, rfl⟩

/-- **A call completes**, but for the one that would pass over the largest number of a round. -/
theorem Follows.completes (h : Follows servers calls q) (ascending : servers.Pairwise (· < ·))
    (allowed : c.Allowed servers q)
    (countable : Concludes servers calls c → Countable (statements servers (calls ++ [c]))) :
    (∃ result, q.call c = .ok result) ∨ (∃ own report, c = .openRound own report) ∧
      (tally calls).round + 2 = UInt64.size ∧ q.call c = .error .addOverflow := by
  cases c with
  | openRound own report =>
    by_cases fits : q.nextRound.toNat + 1 < Checked.wordSize
    · have next : Checked.add q.nextRound 1 = .ok (q.nextRound + 1) := if_pos fits
      rw [Quiescence.call, Quiescence.openRound, next]
      exact .inl ⟨_, rfl⟩
    · have next : Checked.add q.nextRound 1 = .error .addOverflow := if_neg fits
      have below := q.nextRound.toNat_lt_size
      have wordSize : Checked.wordSize = UInt64.size := rfl
      refine .inr ⟨⟨own, report, rfl⟩, ?_, ?_⟩
      · rw [h.next] at fits below
        omega
      · rw [Quiescence.call, Quiescence.openRound, next]
        rfl
  | record reporter round report =>
    refine .inl ?_
    cases current : q.current with
    | none => exact ⟨_, record_of_closed current⟩
    | some b =>
      obtain ⟨-, -, collected⟩ := h.current b current
      by_cases asks : round.toNat = (tally calls).round
      · have here : b.number = round := UInt64.toNat_inj.1 (collected.number.trans asks.symm)
        rw [Quiescence.call, record_of_number current here]
        exact h.ask_completes (c := .record reporter round report) ascending current asks
          (collected.record allowed asks) countable
      · exact ⟨_, record_of_number_ne current fun same => asks (same ▸ collected.number)⟩
  | conclude =>
    refine .inl ?_
    cases current : q.current with
    | none =>
      refine ⟨(q, none), ?_⟩
      rw [Quiescence.call, Quiescence.conclude, current]
      rfl
    | some b =>
      obtain ⟨-, -, collected⟩ := h.current b current
      have kept : Collected servers (calls ++ [.conclude]) b :=
        collected.congr (by rw [tally_concat]; rfl)
      have result := h.ask_completes (c := .conclude) ascending current trivial kept countable
      rw [← current] at result
      exact result

/-- **Every run** keeps it. -/
theorem Follows.run {past : List VoteCall} (h : Follows servers past q)
    (ascending : servers.Pairwise (· < ·)) (hrun : q.run servers calls = some q') :
    Follows servers (past ++ calls) q' := by
  induction calls generalizing past q with
  | nil =>
    cases hrun
    rw [List.append_nil]
    exact h
  | cons c calls ih =>
    rw [Quiescence.run] at hrun
    split at hrun
    · rename_i allowed
      obtain ⟨⟨q₁, verdict⟩, called, hrun⟩ := Option.bind_eq_some_iff.1 hrun
      rw [List.append_cons]
      exact ih (h.call ascending allowed (eq_ok_of_toOption called)).1 hrun
    · cases hrun

end Step

/-- **Two quiet rounds that are alike end the run, and nothing else does.** After every run of calls
that come from some servers, none of which opens a round while one is open, whatever call comes next
has an answer if the reports can be counted, but for the opening of one round too many. With it

* a round that is opened has the next number;
* a report for a round that is not open changes nothing and gives no verdict;
* a verdict is given exactly by a call that concludes a round: it is the first to ask for the
  verdict when all servers have said something, and with two servers or more, it is the one that
  brings the last report;
* the verdict ends the run exactly if the reports of the round are quiet, and those of the round
  before it were quiet as well when it was concluded, and every server has said the same in both. -/
theorem verdict_of_quiet_rounds {n : UInt64} (ascending : servers.Pairwise (· < ·))
    (many : n.toNat = servers.length)
    (hrun : run servers { servers := n } calls = some q)
    (allowed : c.Allowed servers q)
    (countable : Concludes servers calls c → Countable (statements servers (calls ++ [c]))) :
    (∃ own report, c = .openRound own report) ∧ (tally calls).round + 2 = UInt64.size ∧
      q.call c = .error .addOverflow ∨
    ∃ q' verdict, q.call c = .ok (q', verdict) ∧
      (∀ own report, c = .openRound own report → verdict = none ∧
        ∃ number, q.openRound own report = .ok (q', number) ∧
          number.toNat = (tally calls).round + 1) ∧
      (∀ reporter round report, c = .record reporter round report →
        (q.isVoting = false ∨ round.toNat ≠ (tally calls).round) → q' = q ∧ verdict = none) ∧
      (verdict.isSome = true ↔ Concludes servers calls c) ∧
      (1 < servers.length → (Concludes servers calls c ↔
        0 < (tally calls).round ∧ ¬ Complete servers calls ∧ Complete servers (calls ++ [c]))) ∧
      (verdict = some .terminate ↔ Concludes servers calls c ∧
        Quiet (statements servers (calls ++ [c])) ∧
        ∃ before d, before ++ [d] <+: calls ∧
          (tally before).round + 1 = (tally calls).round ∧ Concludes servers before d ∧
          Quiet (statements servers (before ++ [d])) ∧
          ∀ r ∈ servers, (tally (before ++ [d])).said r = (tally (calls ++ [c])).said r) := by
  have follows : Follows servers calls q := (follows_new many).run ascending hrun
  rcases follows.completes ascending allowed countable with ⟨⟨q', verdict⟩, called⟩ | overflow
  · have judges := (follows.call ascending allowed called).2
    refine .inr ⟨q', verdict, called, ?_, ?_, judges.given, ?_, ?_⟩
    · rintro own report rfl
      obtain ⟨⟨q₁, number⟩, opened, called⟩ := bind_eq_ok called
      cases called
      exact ⟨rfl, number, opened, (follows.openRound allowed.1 allowed.2 opened).2⟩
    · rintro reporter round report rfl other
      have dropped : q.record reporter round report = .ok (q, none) := by
        cases current : q.current with
        | none => exact record_of_closed current
        | some b =>
          obtain ⟨-, -, collected⟩ := follows.current b current
          refine record_of_number_ne current fun same => ?_
          rcases other with closed | other
          · rw [isVoting, current] at closed
            cases closed
          · exact other (same ▸ collected.number)
      cases dropped.symm.trans called
      exact ⟨rfl, rfl⟩
    · exact concludes_iff_completes (ascending.imp UInt64.ne_of_lt)
    · rw [judges.ends]
      refine and_congr_right fun concludes => and_congr_right fun quiet => ?_
      have opened := concludes.1.1
      constructor
      · rintro ⟨before, d, moment, round, earlier, same⟩
        refine ⟨before, d, moment, by omega, earlier, same ▸ quiet, ?_⟩
        exact (statements_eq_iff earlier.1.2.2 concludes.1.2.2).1 same.symm
      · rintro ⟨before, d, moment, round, earlier, -, same⟩
        refine ⟨before, d, moment, by omega, earlier, ?_⟩
        exact ((statements_eq_iff earlier.1.2.2 concludes.1.2.2).2 same).symm
  · exact .inl overflow

/-- A report of a server with nothing to do. -/
def resting : IdleReport := ⟨true, 3, 2, 2⟩

/-- A report of a server that has something to do. -/
def working : IdleReport := ⟨false, 3, 2, 2⟩

/-- Two servers report in a first round, and one in a second; the other one has something to do, but
says so for the first round. -/
def twoRounds : List VoteCall :=
  [.openRound 4 resting, .record 5 1 resting, .openRound 4 resting, .record 5 1 working]

/-- The report that the second round lacks concludes it, and the run is over. -/
theorem verdict_of_quiet_rounds_two : ∃ q, run [4, 5] { servers := 2 } twoRounds = some q ∧
    Concludes [4, 5] twoRounds (.record 5 2 resting) ∧
    ∃ q', q.call (.record 5 2 resting) = .ok (q', some .terminate) := by
  have apart : [(4 : Rank), 5].Nodup := by decide
  have first : Concludes [4, 5] [.openRound 4 resting] (.record 5 1 resting) :=
    (concludes_iff_completes apart (by decide)).2 (by decide +kernel)
  have second : Concludes [4, 5] twoRounds (.record 5 2 resting) :=
    (concludes_iff_completes apart (by decide)).2 (by decide +kernel)
  have quiet : Quiet [resting, resting] := ⟨by decide, rfl⟩
  obtain ⟨q, hrun⟩ : ∃ q, run [4, 5] { servers := 2 } twoRounds = some q :=
    Option.isSome_iff_exists.1 (by decide +kernel)
  refine ⟨q, hrun, second, ?_⟩
  rcases verdict_of_quiet_rounds (c := .record 5 2 resting) (by decide) (by decide) hrun
    (List.mem_cons_of_mem _ List.mem_cons_self) (fun _ => ⟨by decide +kernel, by decide +kernel⟩)
    with ⟨⟨own, report, other⟩, -⟩ | ⟨q', verdict, called, -, -, -, -, ends⟩
  · cases other
  · rw [ends.2 ⟨second, quiet, [.openRound 4 resting], .record 5 1 resting, ⟨_, rfl⟩, rfl, first,
      quiet, (statements_eq_iff first.1.2.2 second.1.2.2).1 rfl⟩] at called
    exact ⟨q', called⟩

/-- One server reports in a first round, and opens a second one with something to do. -/
def loneRounds : List VoteCall :=
  [.openRound 0 resting, .record 0 1 resting, .openRound 0 working]

/-- **With one server** a round is complete when it is opened, and is left open all the same. Here
the server has something to do at that moment, and the verdict that a later report brings ends the
run. -/
theorem lone_round_left_open : Complete [0] loneRounds ∧
    ¬ Quiet (statements [0] loneRounds) ∧ ∃ q q', run [0] { servers := 1 } loneRounds = some q ∧
      q.isVoting = true ∧ q.call (.record 0 2 resting) = .ok (q', some .terminate) := by
  refine ⟨by decide +kernel, fun quiet => ?_, _, _, rfl, rfl, rfl⟩
  have idle := quiet.idle working List.mem_cons_self
  cases idle

end Quiescence

end WorkPool
