import WorkPool.Proofs.Quiescence
import WorkPool.Proofs.World.Rest

/-!
# Votes: what two equal rounds say

The reports of a round are made at different moments, so that all servers report nothing to do
does not mean that there was a moment with nothing to do. It does if the next round brings the
same reports:

* a report **stands** for its server (`Server.Stands`) as long as the server has handled nothing
  that counts since: a server that had nothing to do would still report the same;
* so once a round was quiet, either every server would still report the same, or some server
  has been active since it reported, and will say so in the next round (`Since`);
* in the first case the world is idle, and stays so.

`Polls` keeps this along a run, and `Polls.idle_of_terminate` draws the conclusion.
-/

namespace WorkPool

namespace Server

variable {s s' : Server} {report : IdleReport}

/-- A report is no newer than its server, and if nothing that counts happened since and there was
nothing to do, the server would still report the same. -/
def Stands (s : Server) (report : IdleReport) : Prop :=
  report.activity.toNat ≤ s.activity ∧
    (report.activity.toNat = s.activity → report.idle = true → s.idleReport = report)

theorem Fits.toNat_activity (h : s.Fits) : s.idleReport.activity.toNat = s.activity :=
  UInt64.toNat_ofNat_of_lt h.activity

theorem Fits.toNat_sent (h : s.Fits) : s.idleReport.sent.toNat = s.sent :=
  UInt64.toNat_ofNat_of_lt h.sent

theorem Fits.toNat_received (h : s.Fits) : s.idleReport.received.toNat = s.received :=
  UInt64.toNat_ofNat_of_lt h.received

theorem Fits.stands (h : s.Fits) : s.Stands s.idleReport :=
  ⟨Nat.le_of_eq h.toNat_activity, fun _ _ => rfl⟩

/-- A server that handles a message stands by its report: it counts the message, so that the report
is older than what it does from now on, or it has nothing to do and would report the same. -/
theorem Stands.handled (h : s.Stands report) {source : Rank} {m : Message}
    (handled : (s.countArrival source m).Handled source m s')
    (still : m.movesWork = false → s.isIdle = true → s'.idleReport = s.idleReport) :
    s'.Stands report := by
  have activity := handled.activity
  rw [activity_countArrival] at activity
  cases moves : m.movesWork with
  | true =>
    rw [moves, if_pos rfl] at activity
    have := h.1
    exact ⟨by omega, fun same => by omega⟩
  | false =>
    rw [moves, if_neg Bool.false_ne_true, Nat.add_zero] at activity
    rw [Stands, activity]
    refine ⟨h.1, fun same idle => ?_⟩
    have current := h.2 same idle
    have isIdle : s.isIdle = true := (congrArg IdleReport.idle current).trans idle
    exact (still moves isIdle).trans current

end Server

/-- What a rank has reported in a round, if it has. -/
def Ballot.report (b : Ballot) (r : Rank) : IdleReport :=
  (b.reports.find? r).getD ⟨false, 0, 0, 0⟩

namespace World

open Quiescence

variable {w w' : World} {settings : Settings} {q q' : Quiescence}

/-- **Reports stand** while the master serves. -/
theorem Calm.stands (h : Calm w w') {r : Rank} {report : IdleReport}
    (hr : (w.servers r).Stands report) : (w'.servers r).Stands report := by
  rcases h.server_cases r with ⟨votes, peers, stats, outbox, e⟩ |
    ⟨source, m, s, handled, -, -, still, e⟩
  · rw [e]
    exact hr
  · have stands : s.Stands report := hr.handled handled still
    rw [e]
    exact stands

/-! ## Rounds -/

/-- A report of a rank that counts in the open round: it was taken up, or is in flight. -/
def Tells (w : World) (q : Quiescence) (r : Rank) (report : IdleReport) : Prop :=
  ∃ b, q.current = some b ∧ (b.reports.find? r = some report ∨
    ∃ e ∈ w.flight, e.source = r ∧ e.message = .idleReply b.number report)

/-- What happened since the servers made some reports: nothing that a report would tell, or some
server was active, and its report in the open round tells so. -/
def Since (w : World) (q : Quiescence) (p : Rank → IdleReport) : Prop :=
  (∀ r, w.topology.isServer r = true → (w.servers r).idleReport = p r) ∨
    ∃ i, w.topology.isServer i = true ∧ (p i).activity.toNat < (w.servers i).activity ∧
      ∀ report, w.Tells q i report → (p i).activity < report.activity

/-- What holds of the votes at any moment. -/
structure Polls (w : World) (q : Quiescence) : Prop where
  servers : q.servers = w.topology.servers
  /-- reports are asked for in rounds that were opened -/
  queries : ∀ e ∈ w.flight, ∀ round, e.message = .idleQuery round → round < q.nextRound
  /-- and are made in such rounds -/
  replies : ∀ e ∈ w.flight, ∀ round report, e.message = .idleReply round report →
    round < q.nextRound ∧ (w.servers e.source).Stands report
  number : ∀ b, q.current = some b → b.number < q.nextRound
  /-- the reports of the open round stand -/
  reports : ∀ b, q.current = some b → ∀ r report, b.reports.find? r = some report →
    w.topology.isServer r = true ∧ (w.servers r).Stands report
  /-- the reports of the last round were quiet -/
  previous : ∀ reports, q.previous = some reports → ∃ p,
    reports = w.topology.serverRanks.map p ∧ Quiet reports ∧ w.Since q p

/-- The reports of a complete round are one from each server. -/
theorem Polls.complete (h : w.Polls q) (fits : w.topology.Fits) {b : Ballot}
    (current : q.current = some b) (complete : q.servers.toNat ≤ b.reports.size) :
    b.reports.values = w.topology.serverRanks.map b.report ∧
      ∀ r, w.topology.isServer r = true → b.reports.find? r = some (b.report r) := by
  have known (r : Rank) (hr : r ∈ b.reports.keys) : r ∈ w.topology.serverRanks := by
    obtain ⟨report, hreport⟩ := Option.isSome_iff_exists.1 (Table.mem_keys_iff.1 hr)
    exact (Topology.mem_serverRanks fits).2 (h.reports b current r report hreport).1
  have ascending : b.reports.keys.Pairwise (· < ·) :=
    (Table.ascending_keys b.reports).imp compareOfLessAndEq_eq_lt.1
  have many : w.topology.serverRanks.length ≤ b.reports.keys.length := by
    rw [Topology.length_serverRanks, ← h.servers, Table.keys, List.length_map]
    exact complete
  -- both ascend, so it is enough that the ranks of the reports are servers and are as many
  have keys : b.reports.keys = w.topology.serverRanks := by
    have subperm := List.subperm_of_subset (ascending.imp UInt64.ne_of_lt) known
    have perm := subperm.perm_of_length_le many
    exact perm.eq_of_pairwise (fun a b _ _ hab hba => absurd hba (UInt64.lt_asymm hab)) ascending
      (Topology.ascending_serverRanks fits)
  refine ⟨?_, fun r server => ?_⟩
  · rw [Table.values_eq_map_keys b.reports ⟨false, 0, 0, 0⟩, keys]
    rfl
  · have mem : r ∈ b.reports.keys := keys ▸ (Topology.mem_serverRanks fits).2 server
    obtain ⟨report, hreport⟩ := Option.isSome_iff_exists.1 (Table.mem_keys_iff.1 mem)
    rw [Ballot.report, hreport]
    rfl

/-- Closing the round leaves nothing to tell. -/
theorem Since.close {p : Rank → IdleReport} (h : w.Since q p) (closed : q'.current = none) :
    w.Since q' p := by
  refine h.imp_right fun ⟨i, server, active, _⟩ => ⟨i, server, active, ?_⟩
  rintro report ⟨b, current, -⟩
  rw [closed] at current
  cases current

/-- Reports that stand are those of now, or of a server that was active since. -/
theorem Since.of_stands {p : Rank → IdleReport} (closed : q.current = none)
    (stands : ∀ r, w.topology.isServer r = true → (w.servers r).Stands (p r))
    (idle : ∀ r, w.topology.isServer r = true → (p r).idle = true) : w.Since q p := by
  by_cases same : ∀ r, w.topology.isServer r = true → (w.servers r).idleReport = p r
  · exact .inl same
  · obtain ⟨i, hi⟩ := not_forall.1 same
    obtain ⟨server, other⟩ := Classical.not_imp.1 hi
    obtain ⟨le, current⟩ := stands i server
    refine .inr ⟨i, server, lt_of_le_of_ne le fun same => other (current same (idle i server)), ?_⟩
    rintro report ⟨b, current, -⟩
    rw [closed] at current
    cases current

/-- **A round concludes**: its reports are those to compare with from now on. -/
theorem Polls.conclude (h : w.Polls q) (fits : w.topology.Fits) {verdict : Option Verdict}
    (concluded : q.conclude = .ok (q', verdict)) : w.Polls q' := by
  rcases conclude_cases concluded with ⟨rfl, -⟩ | ⟨b, current, complete, outcome⟩
  · exact h
  obtain ⟨values, found⟩ := h.complete fits current complete
  rcases outcome with ⟨-, -, rfl⟩ | ⟨-, quiet, rfl⟩ | ⟨-, rfl⟩
  · refine { h with number := nofun, reports := nofun, previous := fun reports same => ?_ }
    obtain ⟨p, eq, quiet, since⟩ := h.previous reports same
    exact ⟨p, eq, quiet, since.close rfl⟩
  · refine { h with number := nofun, reports := nofun, previous := fun reports same => ?_ }
    cases same
    refine ⟨b.report, values, quiet, Since.of_stands rfl (fun r server => ?_) fun r server => ?_⟩
    · exact (h.reports b current r _ (found r server)).2
    · refine quiet.idle _ ?_
      rw [values]
      exact List.mem_map_of_mem ((Topology.mem_serverRanks fits).2 server)
  · exact { h with number := nofun, reports := nofun, previous := nofun }

/-- The master opens a round with its own report, and nobody else can have made one yet. -/
theorem Polls.openRound (h : w.Polls q) (hw : w.InService settings) {round : UInt64}
    (opened : q.openRound w.topology.master (w.servers w.topology.master).idleReport =
      .ok (q', round)) : w.Polls q' := by
  obtain ⟨-, later, e⟩ := openRound_eq_ok opened
  have master := hw.proper.isServer_master
  have fits := (hw.servers _ master).fits
  have only {r : Rank} {report : IdleReport} (hr : (Table.empty.insert w.topology.master
      (w.servers w.topology.master).idleReport).find? r = some report) :
      r = w.topology.master ∧ report = (w.servers w.topology.master).idleReport := by
    by_cases own : r = w.topology.master
    · rw [own, Table.find?_insert_self] at hr
      exact ⟨own, (Option.some.inj hr).symm⟩
    · rw [Table.find?_insert_ne _ own] at hr
      cases hr
  rw [e]
  refine { servers := h.servers, queries := fun e he round message => ?_,
           replies := fun e he round report message => ?_, number := ?_, reports := ?_,
           previous := fun reports same => ?_ }
  · exact UInt64.lt_trans (h.queries e he round message) later
  · obtain ⟨earlier, stands⟩ := h.replies e he round report message
    exact ⟨UInt64.lt_trans earlier later, stands⟩
  · rintro b ⟨⟩
    exact later
  · rintro b ⟨⟩ r report hr
    obtain ⟨rfl, rfl⟩ := only hr
    exact ⟨master, fits.stands⟩
  · obtain ⟨p, eq, quiet, since⟩ := h.previous reports same
    refine ⟨p, eq, quiet, since.imp_right fun ⟨i, server, active, _⟩ => ⟨i, server, active, ?_⟩⟩
    rintro report ⟨b, ⟨⟩, taken | ⟨e, he, -, message⟩⟩
    · obtain ⟨rfl, rfl⟩ := only taken
      rw [UInt64.lt_iff_toNat_lt, fits.toNat_activity]
      exact active
    · exact absurd (h.replies e he _ report message).1 (UInt64.lt_irrefl _)

/-- A report that is in flight is taken up. -/
theorem Polls.collect (h : w.Polls q) {b : Ballot} (current : q.current = some b) {e : Envelope}
    (he : e ∈ w.flight) {report : IdleReport} (message : e.message = .idleReply b.number report)
    (server : w.topology.isServer e.source = true) : w.Polls { q with
      current := some { b with reports := b.reports.insert e.source report } } := by
  have among {r : Rank} {report' : IdleReport}
      (hr : (b.reports.insert e.source report).find? r = some report') :
      b.reports.find? r = some report' ∨ r = e.source ∧ report' = report := by
    by_cases own : r = e.source
    · rw [own, Table.find?_insert_self] at hr
      exact .inr ⟨own, (Option.some.inj hr).symm⟩
    · rw [Table.find?_insert_ne _ own] at hr
      exact .inl hr
  refine { servers := h.servers, queries := h.queries, replies := h.replies, number := ?_,
           reports := ?_, previous := fun reports same => ?_ }
  · rintro b' ⟨⟩
    exact h.number b current
  · rintro b' ⟨⟩ r report' hr
    rcases among hr with before | ⟨rfl, rfl⟩
    · exact h.reports b current r report' before
    · exact ⟨server, (h.replies e he _ _ message).2⟩
  · obtain ⟨p, eq, quiet, since⟩ := h.previous reports same
    refine ⟨p, eq, quiet, since.imp_right fun ⟨i, server, active, told⟩ =>
      ⟨i, server, active, ?_⟩⟩
    rintro report' ⟨b', ⟨⟩, taken | flying⟩
    · rcases among taken with before | ⟨rfl, rfl⟩
      · exact told report' ⟨b, current, .inl before⟩
      · exact told report' ⟨b, current, .inr ⟨e, he, rfl, message⟩⟩
    · exact told report' ⟨b, current, .inr flying⟩

/-- If every server would report what it did in a quiet round, the world is idle. -/
theorem InService.idle_of_quiet (hw : w.InService settings) {p : Rank → IdleReport}
    (quiet : Quiet (w.topology.serverRanks.map p))
    (same : ∀ r, w.topology.isServer r = true → (w.servers r).idleReport = p r) : w.Idle := by
  have mem := @Topology.mem_serverRanks w.topology
  refine ⟨fun r server => ?_, ?_⟩
  · refine (congrArg IdleReport.idle (same r server)).trans (quiet.idle _ ?_)
    exact List.mem_map_of_mem ((mem hw.proper.fits).2 server)
  · have even := quiet.even
    rw [List.map_map, List.map_map] at even
    have sent : w.total Server.sent =
        (w.topology.serverRanks.map fun r => (p r).sent.toNat).sum := by
      refine congrArg List.sum (List.map_congr_left fun r hr => ?_)
      have server := (mem hw.proper.fits).1 hr
      rw [← same r server, (hw.servers r server).fits.toNat_sent]
    have received : w.total Server.received =
        (w.topology.serverRanks.map fun r => (p r).received.toNat).sum := by
      refine congrArg List.sum (List.map_congr_left fun r hr => ?_)
      have server := (mem hw.proper.fits).1 hr
      rw [← same r server, (hw.servers r server).fits.toNat_received]
    rw [sent, received]
    exact even

/-- **A world whose votes say that the run is over is idle.** -/
theorem Polls.idle_of_terminate (h : w.Polls q) (hw : w.InService settings)
    (concluded : q.conclude = .ok (q', some .terminate)) : w.Idle := by
  rcases conclude_cases concluded with ⟨-, none⟩ | ⟨b, current, complete, outcome⟩
  · cases none
  obtain ⟨values, found⟩ := h.complete hw.proper.fits current complete
  rcases outcome with ⟨-, same, -⟩ | ⟨other, -⟩ | ⟨other, -⟩
  · obtain ⟨p, eq, quiet, since⟩ := h.previous _ same
    rcases since with still | ⟨i, server, -, told⟩
    · exact hw.idle_of_quiet (eq ▸ quiet) still
    · -- a server that was active since told so, and the reports differ
      have agree : b.report i = p i :=
        List.map_inj_left.1 (values.symm.trans eq) i
          ((Topology.mem_serverRanks hw.proper.fits).2 server)
      have newer := told _ ⟨b, current, .inl (found i server)⟩
      rw [agree] at newer
      exact absurd newer (UInt64.lt_irrefl _)
  · cases other
  · cases other

/-! ## Along a run -/

/-- What happens to the votes of the master. -/
theorem Calm.votes_cases (h : Calm w w') :
    (w'.servers w.topology.master).votes = (w.servers w.topology.master).votes ∨
    (∃ source round report verdict,
      ⟨source, w.topology.master, .idleReply round report⟩ ∈ w.flight ∧
      (w.servers w.topology.master).votes.record source round report =
        .ok ((w'.servers w.topology.master).votes, verdict)) ∨
    ∃ q round, (w.servers w.topology.master).votes.openRound w.topology.master
        (w.servers w.topology.master).idleReport = .ok (q, round) ∧
      ((w'.servers w.topology.master).votes = q ∨
        ∃ verdict, q.conclude = .ok ((w'.servers w.topology.master).votes, verdict)) := by
  cases h with
  | @handle source dest m rest s server taken kind handled fits still =>
    by_cases own : w.topology.master = dest
    · subst own
      rw [servers_served_self]
      exact .inl (handled.votes.trans Server.votes_countArrival)
    · rw [servers_served_ne _ s own]
      exact .inl rfl
  | @report source dest round report rest votes server taken recorded =>
    by_cases own : w.topology.master = dest
    · subst own
      rw [servers_setServer_self]
      rcases recorded with same | ⟨-, verdict, recorded⟩
      · exact .inl same
      · exact .inr (.inl ⟨source, round, report, verdict,
          taken.mem_iff.2 List.mem_cons_self, recorded⟩)
    · rw [servers_setServer_ne _ _ own]
      exact .inl rfl
  | @stealTick r server =>
    obtain ⟨peers, out, eq, -⟩ := Server.trySteal_eq (w.servers r)
    rw [eq]
    by_cases own : w.topology.master = r
    · subst own
      rw [servers_served_self]
      exact .inl rfl
    · rw [servers_served_ne _ _ own]
      exact .inl rfl
  | @openRound votes round stats voting idle opened =>
    rw [servers_served_self]
    exact .inr (.inr ⟨votes, round, opened, .inl rfl⟩)
  | @soleRound votes votes' round verdict stats idle opened concluded =>
    rw [servers_setServer_self]
    exact .inr (.inr ⟨votes, round, opened, .inr ⟨verdict, concluded⟩⟩)
  | rest => exact .inl rfl
  | ask => exact .inl rfl
  | receive => exact .inl rfl

/-- What comes into flight: what a server sends when it handles a message, a question to a peer,
a question in a round that was opened, or a request. -/
theorem Calm.flight_cases (h : Calm w w') (hw : w.InService settings) {e : Envelope}
    (he : e ∈ w'.flight) :
    e ∈ w.flight ∨
    (w.topology.isServer e.source = true ∧ ∃ source m, ⟨source, e.source, m⟩ ∈ w.flight ∧
      (w.servers e.source).MaySend source m (e.dest, e.message)) ∨
    (∃ wanted load, e.message = .stealRequest wanted load) ∨
    (∃ round, e.message = .idleQuery round ∧
      round < (w'.servers w.topology.master).votes.nextRound) ∨
    ∃ tag body, e.message = .request tag body := by
  cases h with
  | @handle source dest m rest s server taken kind handled fits still =>
    rcases List.mem_append.1 he with he | he
    · exact .inl (mem_of_taken taken he)
    · obtain ⟨rfl, hp⟩ := mem_post he
      exact .inr (.inl ⟨server, source, m, taken.mem_iff.2 List.mem_cons_self,
        hw.sends server handled hp⟩)
  | report server taken recorded => exact .inl (mem_of_taken taken he)
  | @stealTick r server =>
    obtain ⟨peers, out, eq, kinds⟩ := Server.trySteal_eq (w.servers r)
    rw [eq, served, (hw.servers r server).outbox] at he
    rcases List.mem_append.1 he with he | he
    · exact .inl he
    · exact .inr (.inr (.inl (kinds _ (mem_post he).2)))
  | @openRound votes round stats voting idle opened =>
    rcases List.mem_append.1 he with he | he
    · exact .inl he
    · obtain ⟨r, -, eq⟩ := List.mem_map.1 (mem_post he).2
      obtain ⟨number, later, -⟩ := openRound_eq_ok opened
      rw [servers_served_self]
      exact .inr (.inr (.inr (.inl ⟨round, (congrArg Prod.snd eq).symm, number ▸ later⟩)))
  | soleRound => exact .inl he
  | rest => exact .inl he
  | @ask worker dest tag body may free =>
    rcases List.mem_append.1 he with he | he
    · exact .inl he
    · rw [List.mem_singleton.1 he]
      exact .inr (.inr (.inr (.inr ⟨tag, body, rfl⟩)))
  | receive is taken => exact .inl (mem_of_taken taken he)

/-- A report that comes into flight answers a question and is that of its server. -/
theorem Calm.reply_cases (h : Calm w w') (hw : w.InService settings) {e : Envelope}
    (he : e ∈ w'.flight) {round : UInt64} {report : IdleReport}
    (message : e.message = .idleReply round report) :
    e ∈ w.flight ∨ w.topology.isServer e.source = true ∧
      (∃ source, ⟨source, e.source, .idleQuery round⟩ ∈ w.flight) ∧
      report = (w.servers e.source).idleReport := by
  rcases h.flight_cases hw he with before | ⟨server, source, m, cause, may⟩ | ⟨_, _, other⟩ |
    ⟨_, other, -⟩ | ⟨_, _, other⟩
  · exact .inl before
  · rw [message] at may
    obtain ⟨-, rfl, same⟩ := may
    exact .inr ⟨server, ⟨source, cause⟩, same⟩
  all_goals
    rw [message] at other
    cases other

theorem Calm.query_cases (h : Calm w w') (hw : w.InService settings) {e : Envelope}
    (he : e ∈ w'.flight) {round : UInt64} (message : e.message = .idleQuery round) :
    e ∈ w.flight ∨ round < (w'.servers w.topology.master).votes.nextRound := by
  rcases h.flight_cases hw he with before | ⟨-, source, m, -, may⟩ | ⟨_, _, other⟩ |
    ⟨_, same, later⟩ | ⟨_, _, other⟩
  · exact .inl before
  · rw [message] at may
    exact may.elim
  · rw [message] at other
    cases other
  · rw [message] at same
    cases same
    exact .inr later
  · rw [message] at other
    cases other

/-- The votes of a world hold of the next one. While the world is idle nothing that happens changes
a report; and a report that is made now tells of all the activity until now. -/
theorem Polls.calm (h : w.Polls (w'.servers w.topology.master).votes) (calm : Calm w w')
    (hw : w.InService settings) (ha : w.Accounted) :
    w'.Polls (w'.servers w'.topology.master).votes := by
  have topology := calm.topology
  have active (r : Rank) (server : w.topology.isServer r = true) :
      (w.servers r).activity ≤ (w'.servers r).activity := by
    have fits := (hw.servers r server).fits
    exact fits.toNat_activity ▸ (calm.stands fits.stands).1
  rw [topology]
  refine { servers := topology ▸ h.servers, queries := fun e he round message => ?_,
           replies := fun e he round report message => ?_, number := h.number,
           reports := fun b current r report hr => ?_, previous := fun reports same => ?_ }
  · exact (calm.query_cases hw he message).elim (h.queries e · round message) id
  · rcases calm.reply_cases hw he message with before | ⟨server, ⟨source, asked⟩, rfl⟩
    · obtain ⟨earlier, stands⟩ := h.replies e before round report message
      exact ⟨earlier, calm.stands stands⟩
    · exact ⟨h.queries _ asked round rfl, calm.stands (hw.servers _ server).fits.stands⟩
  · obtain ⟨server, stands⟩ := h.reports b current r report hr
    exact ⟨topology ▸ server, calm.stands stands⟩
  · obtain ⟨p, rfl, quiet, since⟩ := h.previous reports same
    rw [topology]
    refine ⟨p, rfl, quiet, ?_⟩
    rw [Since, topology]
    rcases since with still | ⟨i, server, newer, told⟩
    · have idle := hw.idle_of_quiet quiet still
      exact .inl fun r server => (calm.idleReport_eq hw ha idle r).trans (still r server)
    · refine .inr ⟨i, server, Nat.lt_of_lt_of_le newer (active i server), ?_⟩
      rintro report ⟨b, current, taken | ⟨e, he, rfl, message⟩⟩
      · exact told report ⟨b, current, .inl taken⟩
      · rcases calm.reply_cases hw he message with before | ⟨-, -, rfl⟩
        · exact told report ⟨b, current, .inr ⟨e, before, rfl, message⟩⟩
        · rw [UInt64.lt_iff_toNat_lt, (hw.servers _ server).fits.toNat_activity]
          exact newer

/-- **What holds of the votes** stays so while the master serves. -/
theorem Calm.polls (h : Calm w w') (hw : w.InService settings) (ha : w.Accounted)
    (hp : w.Polls (w.servers w.topology.master).votes) :
    w'.Polls (w'.servers w'.topology.master).votes := by
  have fits := hw.proper.fits
  refine Polls.calm ?_ h hw ha
  rcases h.votes_cases with same | ⟨source, round, report, verdict, he, recorded⟩ |
    ⟨q, round, opened, concluded⟩
  · rw [same]
    exact hp
  · rcases record_cases recorded with ⟨same, -⟩ | ⟨b, current, rfl, concluded⟩
    · rw [same]
      exact hp
    · have server := (hw.routed _ he).isServer_source rfl
      exact (hp.collect current he rfl server).conclude fits concluded
  · have opened := hp.openRound hw opened
    rcases concluded with same | ⟨verdict, concluded⟩
    · rw [same]
      exact opened
    · exact opened.conclude fits concluded

theorem Start.polls (h : Start settings w) (proper : w.topology.Proper) :
    w.Polls (w.servers w.topology.master).votes := by
  rw [h.server proper.isServer_master]
  refine { servers := h.topology ▸ rfl, queries := fun e he => ?_, replies := fun e he => ?_,
           number := nofun, reports := nofun, previous := nofun }
  all_goals
    rw [h.flight] at he
    cases he

end World

end WorkPool
