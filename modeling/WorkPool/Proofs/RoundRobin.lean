import Mathlib.Data.List.Rotate
import WorkPool.Proofs.Topology
import WorkPool.Work.Peers

/-!
# Round robin: whom a server asks for work

A server keeps a position among its peers and goes round them, with a jump to a peer that is known
to have work. Whom it chooses can be told from what happened before, without any position. The
**log** of a server's peers has three kinds of entries: a peer was asked, a peer answered, a peer told
its load. From the log one reads whose answer is out (`PeerLog.Awaits`), what each peer told last
(`PeerLog.latest`) and who was asked last (`PeerLog.previous`), and with these whose turn it is
(`PeerLog.due`).

Whatever is asked of the peers, one call after the other, they follow the log (`Peers.Follows`), and
every choice in the log was due (`Peers.chosen_in_turn`). So as many choices as there are peers, of
which none is drawn by a load, go once round all of them (`PeerLog.lap_eq_take`).
-/

namespace WorkPool

/-! ## The log -/

/-- What is asked of the peers of a server. -/
inductive PeerCall where
  | choose (wanted : List WorkType)
  | complete (peer : Rank) (load : Load)
  | record (peer : Rank) (load : Load)

/-- What happened between a server and its peers. -/
inductive PeerEvent where
  /-- a peer was asked for work of some types -/
  | asked (wanted : List WorkType) (victim : Rank)
  /-- a peer answered, and told its load -/
  | answered (peer : Rank) (load : Load)
  /-- a peer told its load -/
  | told (peer : Rank) (load : Load)

namespace PeerEvent

/-- Who was asked. -/
def victim? : PeerEvent → Option Rank
  | .asked _ victim => some victim
  | _ => none

/-- The load that a peer told. -/
def news? (peer : Rank) : PeerEvent → Option Load
  | .asked .. => none
  | .answered source load | .told source load => if source = peer then some load else none

end PeerEvent

namespace PeerLog

variable {log : List PeerEvent} {e : PeerEvent} {wanted : List WorkType} {v : Rank}

/-- Who was asked, in order. -/
def victims (log : List PeerEvent) : List Rank := log.filterMap PeerEvent.victim?

/-- Who was asked last. -/
def previous (log : List PeerEvent) : Option Rank := (victims log).getLast?

/-- What a peer told last. -/
def latest (log : List PeerEvent) (peer : Rank) : Option Load :=
  (log.filterMap (PeerEvent.news? peer)).getLast?

/-- A peer was asked and has not answered since. -/
def Awaits (log : List PeerEvent) (v : Rank) : Prop :=
  ∃ before wanted since, log = before ++ .asked wanted v :: since ∧
    ∀ load, .answered v load ∉ since

/-- Whether the last load of a peer has work of a wanted type. -/
def offers (log : List PeerEvent) (wanted : List WorkType) (peer : Rank) : Bool :=
  (latest log peer).any fun load => wanted.any fun type => (load.counts.find? type).any (0 < ·)

/-- Ascending ranks in cyclic order, starting just after the last one that was asked. -/
def inTurn (ranks : List Rank) : Option Rank → List Rank
  | none => ranks
  | some last => ranks.filter (last < ·) ++ ranks.filter (· ≤ last)

/-- Whom to ask: the first in turn whose last load has work of a wanted type, and if there is none
the first in turn. -/
def due (ranks : List Rank) (log : List PeerEvent) (wanted : List WorkType) : Option Rank :=
  ((inTurn ranks (previous log)).find? (offers log wanted)).or
    (inTurn ranks (previous log)).head?

/-! ### One more entry -/

theorem previous_concat (log : List PeerEvent) (e : PeerEvent) :
    previous (log ++ [e]) = e.victim?.or (previous log) := by
  cases victim : e.victim? <;> simp [previous, victims, victim]

theorem latest_concat (log : List PeerEvent) (e : PeerEvent) (peer : Rank) :
    latest (log ++ [e]) peer = (e.news? peer).or (latest log peer) := by
  cases news : e.news? peer <;> simp [latest, news]

/-- An answer is out if it was asked for just now, or was out before and has not come just now. -/
theorem awaits_concat : Awaits (log ++ [e]) v ↔
    (∃ wanted, e = .asked wanted v) ∨ Awaits log v ∧ ∀ load, e ≠ .answered v load := by
  constructor
  · rintro ⟨before, wanted, since, eq, unanswered⟩
    rcases since.eq_nil_or_concat' with rfl | ⟨since, last, rfl⟩
    · exact .inl ⟨wanted, (List.append_inj' eq rfl).2 |> List.singleton_inj.1⟩
    · rw [← List.cons_append, ← List.append_assoc] at eq
      obtain ⟨rfl, same⟩ := List.append_inj' eq rfl
      cases same
      refine .inr ⟨⟨before, wanted, since, rfl, fun load there => ?_⟩, fun load same => ?_⟩
      · exact unanswered load (List.mem_append_left _ there)
      · exact unanswered load (by simp [same])
  · rintro (⟨wanted, rfl⟩ | ⟨⟨before, wanted, since, rfl, unanswered⟩, other⟩)
    · exact ⟨log, wanted, [], rfl, by simp⟩
    · refine ⟨before, wanted, since ++ [e], by simp, fun load there => ?_⟩
      rcases List.mem_append.1 there with there | last
      · exact unanswered load there
      · exact other load (List.mem_singleton.1 last).symm

/-! ### Taking turns -/

section Turns

variable {ranks rest front back : List Rank} {last : Option Rank}

/-- Ascending ranks are those up to a rank and then those above it. -/
theorem filter_le_append_lt (sorted : ranks.Pairwise (· < ·)) (r : Rank) :
    ranks.filter (· ≤ r) ++ ranks.filter (r < ·) = ranks := by
  induction ranks with
  | nil => rfl
  | cons x ranks ih =>
    obtain ⟨above, sorted⟩ := List.pairwise_cons.1 sorted
    by_cases le : x ≤ r
    · have lt : ¬ r < x := UInt64.not_lt.2 le
      simp [le, lt, ih sorted]
    · have lt : r < x := UInt64.not_le.1 le
      have all : ∀ y ∈ ranks, r < y := fun y hy => UInt64.lt_trans lt (above y hy)
      have none : ranks.filter (· ≤ r) = [] := by
        simpa [UInt64.not_le] using all
      have same : ranks.filter (r < ·) = ranks := by simpa using all
      simp [le, lt, none, same]

/-- After a rank come those behind it, and then the others with it at the end. -/
theorem inTurn_some (sorted : (front ++ v :: back).Pairwise (· < ·)) :
    inTurn (front ++ v :: back) (some v) = back ++ (front ++ [v]) := by
  obtain ⟨-, behind, apart⟩ := List.pairwise_append.1 sorted
  have below : ∀ x ∈ front, x < v := fun x hx => apart x hx v List.mem_cons_self
  have above : ∀ y ∈ back, v < y := (List.pairwise_cons.1 behind).1
  have low : front.filter (v < ·) = [] := by
    simpa [UInt64.not_lt] using fun x hx => UInt64.le_of_lt (below x hx)
  have high : back.filter (· ≤ v) = [] := by
    simpa [UInt64.not_le] using above
  have front_le : front.filter (· ≤ v) = front := by
    simpa using fun x hx => UInt64.le_of_lt (below x hx)
  have back_lt : back.filter (v < ·) = back := by simpa using above
  simp [inTurn, low, high, front_le, back_lt]

theorem inTurn_head (sorted : (v :: back).Pairwise (· < ·)) :
    inTurn (v :: back) (some v) = back ++ [v] := by
  have first : ([] ++ v :: back).Pairwise (· < ·) := sorted
  exact inTurn_some first

/-- **Whose turn it was goes to the end.** -/
theorem inTurn_next (sorted : ranks.Pairwise (· < ·)) (turns : inTurn ranks last = v :: rest) :
    inTurn ranks (some v) = rest ++ [v] := by
  cases last with
  | none =>
    cases (show ranks = v :: rest from turns)
    exact inTurn_head sorted
  | some u =>
    have split := filter_le_append_lt sorted u
    rw [inTurn] at turns
    generalize ranks.filter (· ≤ u) = low at split turns
    generalize ranks.filter (u < ·) = high at split turns
    subst split
    cases high with
    | nil =>
      rw [List.nil_append] at turns
      rw [List.append_nil, turns] at sorted ⊢
      exact inTurn_head sorted
    | cons x high =>
      rw [List.cons_append, List.cons.injEq] at turns
      obtain ⟨rfl, rfl⟩ := turns
      rw [inTurn_some sorted, List.append_assoc]

/-- Everybody has a turn. -/
theorem inTurn_perm (sorted : ranks.Pairwise (· < ·)) (last : Option Rank) :
    (inTurn ranks last).Perm ranks := by
  cases last with
  | none => exact .refl _
  | some u =>
    have split := filter_le_append_lt sorted u
    exact List.perm_append_comm.trans (.of_eq split)

end Turns

/-! ### Going round -/

section Rounds

variable {ranks : List Rank} {before lap : List PeerEvent}

/-- Whenever a peer was asked, no answer was out, and it was due. -/
def Orderly (ranks : List Rank) (log : List PeerEvent) : Prop :=
  ∀ before wanted v later, log = before ++ .asked wanted v :: later →
    (∀ u, ¬ Awaits before u) ∧ due ranks before wanted = some v

/-- Whenever a peer was asked in the second part of a log, no load had work of a wanted type. -/
def Blind (ranks : List Rank) (before lap : List PeerEvent) : Prop :=
  ∀ first wanted v later, lap = first ++ .asked wanted v :: later →
    ∀ r ∈ ranks, offers (before ++ first) wanted r = false

theorem Orderly.concat (h : Orderly ranks log)
    (last : ∀ wanted v, e = .asked wanted v →
      (∀ u, ¬ Awaits log u) ∧ due ranks log wanted = some v) : Orderly ranks (log ++ [e]) := by
  intro before wanted v later eq
  rcases later.eq_nil_or_concat' with rfl | ⟨later, x, rfl⟩
  · obtain ⟨rfl, same⟩ := List.append_inj' eq rfl
    exact last wanted v (List.singleton_inj.1 same)
  · rw [← List.cons_append, ← List.append_assoc] at eq
    exact h before wanted v later (List.append_inj' eq rfl).1

theorem Orderly.left {later : List PeerEvent} (h : Orderly ranks (log ++ later)) :
    Orderly ranks log := by
  intro before wanted v rest eq
  exact h before wanted v (rest ++ later) (by simp [eq])

/-- Between two choices the first one answers. -/
theorem Orderly.answered {between later : List PeerEvent} {wanted' : List WorkType} {v' : Rank}
    (h : Orderly ranks (before ++ .asked wanted v :: between ++ .asked wanted' v' :: later)) :
    ∃ load, .answered v load ∈ between := by
  obtain ⟨free, -⟩ := h _ wanted' v' later rfl
  by_contra unanswered
  exact free v ⟨before, wanted, between, rfl, not_exists.1 unanswered⟩

/-- Whoever is due when no load draws a choice is the first in turn. -/
theorem inTurn_of_due (sorted : ranks.Pairwise (· < ·))
    (blind : ∀ r ∈ ranks, offers log wanted r = false) (h : due ranks log wanted = some v) :
    ∃ rest, inTurn ranks (previous log) = v :: rest := by
  have nobody : (inTurn ranks (previous log)).find? (offers log wanted) = none := by
    refine List.find?_eq_none.2 fun r hr => ?_
    simp [blind r ((inTurn_perm sorted _).mem_iff.1 hr)]
  rw [due, nobody, Option.none_or] at h
  exact ⟨_, List.eq_cons_of_mem_head? h⟩

/-- **Choices that no load draws** take turns. -/
theorem lap_eq_take (sorted : ranks.Pairwise (· < ·)) (orderly : Orderly ranks (before ++ lap))
    (blind : Blind ranks before lap) (few : (victims lap).length ≤ ranks.length) :
    victims lap = (inTurn ranks (previous before)).take (victims lap).length := by
  induction lap generalizing before with
  | nil => rfl
  | cons e lap ih =>
    have later : Blind ranks (before ++ [e]) lap := by
      intro first wanted v rest eq
      rw [List.append_assoc]
      exact blind (e :: first) wanted v rest (by rw [eq]; rfl)
    have onward : Orderly ranks (before ++ [e] ++ lap) := by simpa using orderly
    have rest := ih onward later
    rw [previous_concat] at rest
    cases e with
    | answered | told => exact rest few
    | asked wanted v =>
      obtain ⟨-, isDue⟩ := orderly before wanted v lap rfl
      have unknown := blind [] wanted v lap rfl
      rw [List.append_nil] at unknown
      obtain ⟨others, turns⟩ := inTurn_of_due sorted unknown isDue
      have next := inTurn_next sorted turns
      have total := (inTurn_perm sorted (previous before)).length_eq
      have more : victims (.asked wanted v :: lap) = v :: victims lap := rfl
      rw [turns, List.length_cons] at total
      rw [more, List.length_cons] at few ⊢
      have rest : victims lap = (others ++ [v]).take (victims lap).length := by
        rw [← next]
        exact rest (by omega)
      rw [turns, List.take_succ_cons]
      rw [List.take_append_of_le_length (by omega)] at rest
      rw [← rest]

/-- **A lap**: as many choices as there are peers, of which no load draws any, ask everybody once. -/
theorem lap_perm (sorted : ranks.Pairwise (· < ·)) (orderly : Orderly ranks (before ++ lap))
    (blind : Blind ranks before lap) (whole : (victims lap).length = ranks.length) :
    (victims lap).Perm ranks := by
  have turns := inTurn_perm sorted (previous before)
  rw [lap_eq_take sorted orderly blind (Nat.le_of_eq whole), whole, ← turns.length_eq,
    List.take_length]
  exact turns

end Rounds

end PeerLog

/-! ## The peers -/

namespace Peers

open PeerLog

variable {p p' : Peers} {ranks : List Rank} {log : List PeerEvent} {wanted : List WorkType}
  {v : Rank}

/-- What becomes of a call. -/
def call (p : Peers) : PeerCall → List PeerEvent × Peers
  | .choose wanted =>
    match p.choose wanted with
    | (some victim, p) => ([.asked wanted victim], p)
    | (none, p) => ([], p)
  | .complete peer load => ([.answered peer load], p.complete peer load)
  | .record peer load => ([.told peer load], p.record peer load)

/-- What becomes of calls, one after the other. -/
def callAll : Peers → List PeerCall → List PeerEvent × Peers
  | p, [] => ([], p)
  | p, c :: calls =>
    let (first, p) := p.call c
    let (later, p) := p.callAll calls
    (first ++ later, p)

/-! ### New peers -/

theorem mem_new {own r : Rank} {servers : List Rank} :
    r ∈ (Peers.new own servers).ranks ↔ r ∈ servers ∧ r ≠ own := by
  simp [Peers.new]

/-- The peers of different servers are in strictly ascending order. -/
theorem sorted_new (own : Rank) {servers : List Rank} (distinct : servers.Nodup) :
    (Peers.new own servers).ranks.Pairwise (· < ·) := by
  have ascending := pairwise_mergeSort_rank (fun r : Rank => r) (servers.filter (· != own))
  have apart : (Peers.new own servers).ranks.Nodup :=
    (List.mergeSort_perm _ _).nodup_iff.2 (distinct.filter _)
  refine (ascending.and apart).imp fun {a b} h => ?_
  exact UInt64.lt_of_le_of_ne h.1 h.2

/-! ### Choosing -/

theorem getElem?_findIdx? {α : Type} (l : List α) (test : α → Bool) :
    l[(l.findIdx? test).getD 0]? = (l.find? test).or l.head? := by
  rw [List.find?_eq_bind_findIdx?_getElem?]
  cases found : l.findIdx? test with
  | none => simp [List.head?_eq_getElem?]
  | some i =>
    obtain ⟨within, -⟩ := List.findIdx?_eq_some_iff_getElem.1 found
    simp [within]

theorem round_perm (p : Peers) : p.round.Perm p.ranks :=
  List.perm_append_comm.trans (.of_eq (List.take_append_drop p.cursor p.ranks))

theorem choose_busy (busy : p.inFlight = some v) (wanted : List WorkType) :
    p.choose wanted = (none, p) := by
  simp [choose, busy]

theorem choose_alone (alone : p.ranks = []) (wanted : List WorkType) :
    p.choose wanted = (none, p) := by
  simp [choose, alone]

/-- **Whom a server asks** that waits for no answer: the first of the round who offers something, or
the first. The next round starts just behind. -/
theorem choose_first (free : p.inFlight = none) (within : p.cursor ≤ p.ranks.length)
    (first : (p.round.find? (p.offers wanted)).or p.round.head? = some v) :
    ∃ front back, p.ranks = front ++ v :: back ∧ p.choose wanted = (some v, { p with
      cursor := (front.length + 1) % p.ranks.length
      inFlight := some v }) := by
  rw [← getElem?_findIdx?] at first
  obtain ⟨there, -⟩ := List.getElem?_eq_some_iff.1 first
  rw [p.round_perm.length_eq] at there
  have stands : p.ranks[(p.cursor + (p.round.findIdx? (p.offers wanted)).getD 0) %
      p.ranks.length]? = some v := by
    rw [← first, Nat.add_comm, ← List.getElem?_rotate there]
    rw [List.rotate_eq_drop_append_take within, round]
  have chosen : p.choose wanted = (some v, { p with
      cursor := ((p.cursor + (p.round.findIdx? (p.offers wanted)).getD 0) % p.ranks.length + 1) %
        p.ranks.length
      inFlight := some v }) := by
    simp only [choose, free, Option.isSome_none, Bool.false_eq_true, if_false, stands]
  generalize (p.cursor + (p.round.findIdx? (p.offers wanted)).getD 0) % p.ranks.length = i
    at stands chosen
  obtain ⟨there, value⟩ := List.getElem?_eq_some_iff.1 stands
  refine ⟨p.ranks.take i, p.ranks.drop (i + 1), ?_, ?_⟩
  · rw [← value, List.getElem_cons_drop, List.take_append_drop]
  · rw [List.length_take_of_le (Nat.le_of_lt there), chosen]

/-- The round from just behind a peer. -/
theorem round_behind {front back : List Rank} (split : p.ranks = front ++ v :: back)
    (cursor : p.cursor = (front.length + 1) % p.ranks.length) :
    p.round = back ++ (front ++ [v]) := by
  have length : p.ranks.length = front.length + 1 + back.length := by
    simp [split]
    omega
  have cut : front ++ v :: back = front ++ [v] ++ back := by simp
  rw [round, cursor, length, split, cut]
  cases back with
  | nil => simp
  | cons x back =>
    have short : (front.length + 1) % (front.length + 1 + (x :: back).length) =
        (front ++ [v]).length := by
      rw [Nat.mod_eq_of_lt (by simp)]
      simp
    rw [short, List.drop_left, List.take_left]

/-! ### Following the log -/

/-- Peers are as their log says. -/
structure Follows (ranks : List Rank) (p : Peers) (log : List PeerEvent) : Prop where
  /-- the peers are those it was made with -/
  same : p.ranks = ranks
  /-- the position is one of the list -/
  within : p.cursor ≤ ranks.length
  /-- the next round starts just after the last peer that was asked -/
  round : p.round = inTurn ranks (previous log)
  /-- the loads are those that were told last -/
  loads : ∀ r, p.loads.find? r = latest log r
  /-- the answer that is out is the one that is awaited -/
  awaited : ∀ u, p.inFlight = some u ↔ Awaits log u
  /-- everybody who was asked was due -/
  orderly : Orderly ranks log

theorem follows_new (own : Rank) (servers : List Rank) :
    Follows (Peers.new own servers).ranks (Peers.new own servers) [] where
  same := rfl
  within := Nat.zero_le _
  round := List.append_nil _
  loads _ := rfl
  awaited u := by simp [Peers.new, Awaits]
  orderly := by simp [Orderly]

theorem Follows.offers_eq (h : Follows ranks p log) (wanted : List WorkType) :
    p.offers wanted = PeerLog.offers log wanted := by
  have positive (n : Option UInt64) : decide (0 < n.getD 0) = n.any (0 < ·) := by
    cases n <;> simp
  funext peer
  rw [Peers.offers, h.loads, PeerLog.offers]
  cases latest log peer with
  | none => rfl
  | some load => simp [Load.hasAny, positive]

theorem Follows.free_iff (h : Follows ranks p log) :
    p.inFlight = none ↔ ∀ u, ¬ Awaits log u := by
  simp only [← h.awaited, Option.eq_none_iff_forall_ne_some, ne_eq]

/-- Somebody is due as long as there are peers. -/
theorem exists_due (sorted : ranks.Pairwise (· < ·)) (some : ranks ≠ []) (log : List PeerEvent)
    (wanted : List WorkType) : ∃ v, due ranks log wanted = .some v := by
  cases turns : inTurn ranks (previous log) with
  | nil =>
    have perm := inTurn_perm sorted (previous log)
    rw [turns] at perm
    exact absurd perm.nil_eq.symm some
  | cons x rest =>
    rw [due, turns]
    cases (x :: rest).find? (PeerLog.offers log wanted) with
    | none => exact ⟨x, rfl⟩
    | some v => exact ⟨v, rfl⟩

/-- **A choice** is due, and peers follow the log with it. -/
theorem Follows.choose (h : Follows ranks p log) (sorted : ranks.Pairwise (· < ·))
    (free : p.inFlight = none) (isDue : due ranks log wanted = some v) :
    ∃ p', p.choose wanted = (some v, p') ∧ Follows ranks p' (log ++ [.asked wanted v]) := by
  rw [due, ← h.offers_eq, ← h.round] at isDue
  obtain ⟨front, back, split, chosen⟩ := choose_first free (h.same ▸ h.within) isDue
  refine ⟨_, chosen, h.same, ?_, ?_, fun r => ?_, fun u => ?_, h.orderly.concat ?_⟩
  · have some : p.ranks ≠ [] := by simp [split]
    rw [← h.same]
    exact Nat.le_of_lt (Nat.mod_lt _ (List.length_pos_iff.2 some))
  · have behind := round_behind (p := { p with
      cursor := (front.length + 1) % p.ranks.length
      inFlight := some v }) split rfl
    rw [behind]
    rw [← h.same, split] at sorted ⊢
    rw [previous_concat]
    exact (inTurn_some sorted).symm
  · rw [latest_concat]
    exact h.loads r
  · have nobody := h.free_iff.1 free u
    simp [awaits_concat, nobody, eq_comm]
  · rintro _ _ ⟨⟩
    rw [due, ← h.offers_eq, ← h.round]
    exact ⟨h.free_iff.1 free, isDue⟩

/-- Noting what a peer tells. -/
theorem Follows.record (h : Follows ranks p log) (peer : Rank) (load : Load) :
    Follows ranks (p.record peer load) (log ++ [.told peer load]) where
  same := h.same
  within := h.within
  round := by
    rw [previous_concat]
    exact h.round
  loads r := by
    rw [latest_concat, ← h.loads]
    by_cases same : peer = r
    · simp [Peers.record, PeerEvent.news?, same]
    · simp [Peers.record, PeerEvent.news?, same, Table.find?_insert_ne _ (Ne.symm same)]
  awaited u := by simp [awaits_concat, ← h.awaited, Peers.record]
  orderly := h.orderly.concat (by simp)

/-- Noting what a peer answers. -/
theorem Follows.complete (h : Follows ranks p log) (peer : Rank) (load : Load) :
    Follows ranks (p.complete peer load) (log ++ [.answered peer load]) := by
  have told := h.record peer load
  refine { told with round := ?_, loads := fun r => ?_, awaited := fun u => ?_, orderly := ?_ }
  · rw [previous_concat]
    exact h.round
  · exact (told.loads r).trans (by simp [latest_concat, PeerEvent.news?])
  · rw [awaits_concat, ← h.awaited]
    by_cases out : p.inFlight = some peer
    · simp [Peers.complete, Peers.record, out]
    · have other (v : Rank) (waits : p.inFlight = some v) : v ≠ peer := by
        rintro rfl
        exact out waits
      simp only [Peers.complete, Peers.record, out, if_false]
      constructor
      · intro waits
        exact .inr ⟨waits, by simp [Ne.symm (other u waits)]⟩
      · rintro (⟨wanted, ⟨⟩⟩ | ⟨waits, -⟩)
        exact waits
  · exact h.orderly.concat (by simp)

/-- **Every call** keeps peers in step with the log. -/
theorem Follows.call (h : Follows ranks p log) (sorted : ranks.Pairwise (· < ·)) (c : PeerCall) :
    Follows ranks (p.call c).2 (log ++ (p.call c).1) := by
  cases c with
  | choose wanted =>
    have quiet (nobody : p.choose wanted = (none, p)) :
        Follows ranks (p.call (.choose wanted)).2 (log ++ (p.call (.choose wanted)).1) := by
      simpa [Peers.call, nobody] using h
    by_cases alone : ranks = []
    · exact quiet (choose_alone (h.same.trans alone) wanted)
    cases busy : p.inFlight with
    | some u => exact quiet (choose_busy busy wanted)
    | none =>
      obtain ⟨v, isDue⟩ := exists_due sorted alone log wanted
      obtain ⟨p', chosen, follows⟩ := h.choose sorted busy isDue
      simpa [Peers.call, chosen] using follows
  | complete peer load => exact h.complete peer load
  | record peer load => exact h.record peer load

theorem Follows.callAll (h : Follows ranks p log) (sorted : ranks.Pairwise (· < ·))
    (calls : List PeerCall) : Follows ranks (p.callAll calls).2 (log ++ (p.callAll calls).1) := by
  induction calls generalizing p log with
  | nil => simpa [Peers.callAll] using h
  | cons c calls ih =>
    have later := ih (h.call sorted c)
    rwa [List.append_assoc] at later

/-- Nobody is asked exactly if there is nobody or an answer is out. -/
theorem Follows.choose_eq_none_iff (h : Follows ranks p log) (sorted : ranks.Pairwise (· < ·))
    (wanted : List WorkType) :
    (p.choose wanted).1 = none ↔ ranks = [] ∨ ∃ u, Awaits log u := by
  by_cases alone : ranks = []
  · simp [choose_alone (h.same.trans alone), alone]
  cases busy : p.inFlight with
  | some u => simp [choose_busy busy, (h.awaited u).1 busy, Exists.intro u]
  | none =>
    obtain ⟨v, isDue⟩ := exists_due sorted alone log wanted
    obtain ⟨p', chosen, -⟩ := h.choose sorted busy isDue
    simp [chosen, alone, h.free_iff.1 busy]

theorem mem_of_due (sorted : ranks.Pairwise (· < ·)) (h : due ranks log wanted = some v) :
    v ∈ ranks := by
  rw [due, Option.or_eq_some_iff] at h
  refine (inTurn_perm sorted (previous log)).mem_iff.1 ?_
  rcases h with offers | ⟨-, first⟩
  · exact List.mem_of_find?_eq_some offers
  · exact List.mem_of_mem_head? first

/-- **Peers are asked in turn.** Whatever is asked of the peers of a server, made from its rank and
the ranks of different servers,

* the peers are the other servers, in ascending order;
* a peer is chosen whenever there is one and no answer is out;
* whoever was chosen is a peer and was due: the first, going up and round from just after the last
  one who was chosen, whose last load has work of a wanted type, or, if there is none, the first;
* between a choice and the next, whoever was chosen has answered;
* as many choices as there are peers, none of which found a load with work of a wanted type, went to
  each peer once. -/
theorem chosen_in_turn (own : Rank) (servers : List Rank) (distinct : servers.Nodup)
    (calls : List PeerCall) :
    let peers := (Peers.new own servers).ranks
    let (log, p) := (Peers.new own servers).callAll calls
    (peers.Pairwise (· < ·) ∧ ∀ r, r ∈ peers ↔ r ∈ servers ∧ r ≠ own) ∧
    (∀ wanted, (p.choose wanted).1 = none ↔ peers = [] ∨ ∃ u, Awaits log u) ∧
    (∀ before wanted v later, log = before ++ .asked wanted v :: later →
      v ∈ peers ∧ due peers before wanted = some v) ∧
    (∀ before wanted v between wanted' v' later,
      log = before ++ .asked wanted v :: between ++ .asked wanted' v' :: later →
        ∃ load, .answered v load ∈ between) ∧
    ∀ before lap later, log = before ++ lap ++ later → Blind peers before lap →
      (victims lap).length = peers.length → (victims lap).Perm peers := by
  have sorted := sorted_new own distinct
  have follows := (follows_new own servers).callAll sorted calls
  rw [List.nil_append] at follows
  refine ⟨⟨sorted, fun r => mem_new⟩, follows.choose_eq_none_iff sorted, ?_, ?_, ?_⟩
  · intro before wanted v later eq
    obtain ⟨-, isDue⟩ := follows.orderly before wanted v later eq
    exact ⟨mem_of_due sorted isDue, isDue⟩
  · intro before wanted v between wanted' v' later eq
    have orderly := follows.orderly
    rw [eq] at orderly
    exact orderly.answered
  · intro before lap later eq blind whole
    have orderly := follows.orderly
    rw [eq] at orderly
    exact lap_perm sorted orderly.left blind whole

/-- Two peers who have nothing take turns; while the answer of the first is out, nobody is asked. -/
theorem chosen_in_turn_two : ([7, 5, 6] : List Rank).Nodup ∧
    (victims ((Peers.new 5 [7, 5, 6]).callAll
      [.choose [1], .choose [1], .complete 6 {}, .choose [1]]).1).Perm [6, 7] := by
  have made : Peers.new 5 [7, 5, 6] = { ranks := [6, 7] } := by
    simp [Peers.new, List.mergeSort, List.MergeSort.Internal.splitInTwo]
  have blind : Blind [6, 7] [] [.asked [1] 6, .answered 6 {}, .asked [1] 7] := by
    intro first wanted v later eq r hr
    simp only [List.mem_cons, List.not_mem_nil, or_false] at hr
    rcases first with _ | ⟨_, _ | ⟨_, _ | ⟨_, first⟩⟩⟩ <;> simp at eq
    · rfl
    · obtain ⟨rfl, rfl, ⟨rfl, -⟩, -⟩ := eq
      rcases hr with rfl | rfl <;> rfl
  have distinct : ([7, 5, 6] : List Rank).Nodup := by decide
  obtain ⟨-, -, -, -, laps⟩ := chosen_in_turn 5 [7, 5, 6] distinct
    [.choose [1], .choose [1], .complete 6 {}, .choose [1]]
  rw [made] at laps ⊢
  exact ⟨distinct, laps [] _ [] rfl blind rfl⟩

end Peers

end WorkPool
