import Mathlib.Data.List.Forall2
import WorkPool.Proofs.Backlog
import WorkPool.Proofs.Topology

/-!
# One line: a waiting list in the order of arrival

A waiting list keeps a line for each type, takes members out of the middle of a line, drops a line
that runs empty and counts its requests apart. What it answers can be told without any of that.
`Lineup` keeps **one list** of requests in the order in which they were parked and looks through it
from the front: a unit goes to the first request that it suits.

The two are asked the same things, one after the other (`LineCall`). Between two calls the
waiting list holds the list (`WaitingList.Holds`): the line of a type is what the list has of that
type, in the same order. Every call keeps that and is answered alike (`WaitingList.Holds.call`), so
whole sequences are (`WaitingList.refines_lineup`).
-/

namespace WorkPool

/-! ## The list -/

/-- What is asked of a waiting list. -/
inductive LineCall where
  | park (p : Parked)
  | takeMatch (u : WorkUnit)
  | drain

/-- What it answers. -/
inductive LineAnswer where
  | parked
  | taken (p : Option Parked)
  | drained (all : List Parked)

/-- Two answers agree if they are equal. Only what is drained may be in another order than that of
arrival: it is in ascending order of rank. -/
def LineAnswer.Agrees : LineAnswer → LineAnswer → Prop
  | .drained all, .drained l => all.Perm l ∧ all.Pairwise fun p q => p.rank ≤ q.rank
  | got, expected => got = expected

namespace Lineup

/-- Whether a unit may go to a request: it is of the type that is waited for, and meant for whoever
waits if it is meant for somebody. -/
def suits (u : WorkUnit) (p : Parked) : Bool := p.type == u.type && u.target.all (· == p.rank)

/-- The list answers a call. -/
def call (l : List Parked) : LineCall → LineAnswer × List Parked
  | .park p => (.parked, l ++ [p])
  | .takeMatch u => (.taken (l.find? (suits u)), l.eraseP (suits u))
  | .drain => (.drained l, [])

/-- The list answers calls one after the other. -/
def callAll : List Parked → List LineCall → List LineAnswer × List Parked
  | l, [] => ([], l)
  | l, c :: calls =>
    let (answer, l) := call l c
    let (answers, l) := callAll l calls
    (answer :: answers, l)

theorem suits_iff {u : WorkUnit} {p : Parked} :
    suits u p = true ↔ p.type = u.type ∧ ∀ target, u.target = some target → p.rank = target := by
  cases named : u.target with
  | none => simp [suits, named]
  | some target => simp [suits, named, eq_comm (a := target)]

/-- Of the requests for its type, a unit suits those that admit it. -/
theorem suits_eq (u : WorkUnit) (p : Parked) : suits u p = (p.type == u.type && p.admits u) := by
  cases named : u.target with
  | none => simp [suits, Parked.admits, named]
  | some target => simp [suits, Parked.admits, named, Bool.beq_comm (a := target)]

/-- The first request that a unit suits, with what stands in front of it and behind it. -/
theorem find?_eq_some {u : WorkUnit} {p : Parked} {l : List Parked}
    (h : l.find? (suits u) = some p) :
    suits u p = true ∧ ∃ front back, l = front ++ p :: back ∧
      l.eraseP (suits u) = front ++ back ∧ ∀ q ∈ front, suits u q = false := by
  obtain ⟨fits, front, back, rfl, passed⟩ := List.find?_eq_some_iff_append.1 h
  simp only [Bool.not_eq_true'] at passed
  refine ⟨fits, front, back, rfl, ?_, passed⟩
  rw [List.eraseP_append_right _ (by simpa using passed), List.eraseP_cons_of_pos fits]

end Lineup

namespace WaitingList

variable {w w' : WaitingList} {l : List Parked}

/-- A waiting list answers a call. A unit that suits nobody changes nothing. -/
def call (w : WaitingList) : LineCall → LineAnswer × WaitingList
  | .park p => (.parked, w.park p)
  | .takeMatch u =>
    match w.takeMatch u with
    | some (p, w) => (.taken (some p), w)
    | none => (.taken none, w)
  | .drain => (.drained w.drain.1, w.drain.2)

/-- A waiting list answers calls one after the other. -/
def callAll : WaitingList → List LineCall → List LineAnswer × WaitingList
  | w, [] => ([], w)
  | w, c :: calls =>
    let (answer, w) := w.call c
    let (answers, w) := w.callAll calls
    (answer :: answers, w)

/-- What is extracted is the first member that passes, and the others stay in order. -/
theorem extract_first {test : Parked → Bool} {p : Parked} {front back : List Parked}
    (fails : ∀ q ∈ front, test q = false) (passes : test p = true) :
    extract test (front ++ p :: back) = some (p, front ++ back) := by
  induction front with
  | nil => simp [extract, passes]
  | cons q front ih =>
    obtain ⟨first, fails⟩ := List.forall_mem_cons.1 fails
    simp [extract, first, ih fails]

/-! ## Holding the list -/

/-- A waiting list holds a list of requests in the order of their arrival. -/
structure Holds (w : WaitingList) (l : List Parked) : Prop where
  /-- no line is empty, and each holds requests for its type -/
  filed : w.Filed
  /-- the line of a type is what the list has of that type -/
  line : ∀ type, w.line type = l.filter fun p => p.type == type
  /-- all lines together hold the list -/
  members : w.all.Perm l
  /-- the count tells how many there are -/
  counted : w.Counted

theorem holds_empty : Holds {} [] :=
  ⟨Table.grouped_empty, fun _ => rfl, .refl _, rfl⟩

theorem Holds.size (h : w.Holds l) : w.size = l.length := h.counted.trans h.members.length_eq

theorem line_park (w : WaitingList) (p : Parked) (type : WorkType) :
    (w.park p).line type = w.line type ++ if p.type = type then [p] else [] := by
  by_cases same : p.type = type
  · subst same
    simp [park, line]
  · simp [park, line, Table.find?_insert_ne _ (Ne.symm same), same]

/-- **Parking** puts a request at the end of the list. -/
theorem Holds.park (h : w.Holds l) (p : Parked) : (w.park p).Holds (l ++ [p]) where
  filed := h.filed.park p
  line type := by
    rw [line_park, h.line, List.filter_append, List.filter_singleton]
    simp
  members := ((park_perm w p).trans (h.members.cons p)).trans (List.perm_append_singleton p l).symm
  counted := h.counted.park p

/-- Whoever is taken out of a line leaves the others in it, and the other lines. -/
theorem takeMatch_of_extract {u : WorkUnit} {p : Parked} {rest : List Parked}
    (found : extract (fun q => q.admits u) (w.line u.type) = some (p, rest)) :
    ∃ w', w.takeMatch u = some (p, w') ∧
      ∀ type, w'.line type = if type = u.type then rest else w.line type := by
  rw [takeMatch, found]
  refine ⟨_, rfl, fun type => ?_⟩
  by_cases same : type = u.type
  · subst same
    cases rest <;> simp [line]
  · cases rest <;> simp [line, same, Table.find?_insert_ne, Table.find?_erase_ne]

/-- A unit goes to the first request in the list that it suits: in the line of its type, that is the
first one that admits the unit. -/
theorem Holds.takeMatch_some (h : w.Holds l) {u : WorkUnit} {p : Parked}
    (first : l.find? (Lineup.suits u) = some p) :
    ∃ w', w.takeMatch u = some (p, w') ∧ w'.Holds (l.eraseP (Lineup.suits u)) := by
  obtain ⟨fits, front, back, rfl, erased, passed⟩ := Lineup.find?_eq_some first
  rw [Lineup.suits_eq, Bool.and_eq_true, beq_iff_eq] at fits
  obtain ⟨type, admits⟩ := fits
  have others : ∀ q ∈ front.filter (fun q => q.type == u.type), q.admits u = false := by
    intro q hq
    obtain ⟨ahead, same⟩ := List.mem_filter.1 hq
    simpa [Lineup.suits_eq, same] using passed q ahead
  have stands : w.line u.type = front.filter (fun q => q.type == u.type) ++
      p :: back.filter (fun q => q.type == u.type) := by
    simp [h.line, type]
  obtain ⟨w', taken, lines⟩ := takeMatch_of_extract (by rw [stands, extract_first others admits])
  refine ⟨w', taken, ?_⟩
  rw [erased]
  refine ⟨h.filed.takeMatch taken, fun other => ?_, ?_, h.counted.takeMatch taken⟩
  · by_cases same : other = u.type
    · simp [lines, same]
    · have elsewhere : p.type ≠ other := type ▸ Ne.symm same
      simp [lines, same, h.line, elsewhere]
  · have before := (WaitingList.takeMatch_some taken).symm.trans h.members
    exact (before.trans List.perm_middle).cons_inv

/-- A unit that suits no request in the list goes to nobody. -/
theorem Holds.takeMatch_eq_none_iff (h : w.Holds l) (u : WorkUnit) :
    w.takeMatch u = none ↔ ∀ p ∈ l, Lineup.suits u p = false := by
  cases first : l.find? (Lineup.suits u) with
  | some p =>
    obtain ⟨w', taken, -⟩ := h.takeMatch_some first
    have mem := List.mem_of_find?_eq_some first
    have fits := List.find?_some first
    simp only [taken, reduceCtorEq, false_iff, not_forall]
    exact ⟨p, mem, by simp [fits]⟩
  | none =>
    have nobody : ∀ p ∈ l, Lineup.suits u p = false := by simpa using first
    refine iff_of_true ?_ nobody
    cases taken : w.takeMatch u with
    | none => rfl
    | some result =>
      obtain ⟨type, admits⟩ := h.filed.takeMatch_some taken
      have mem := h.members.mem_iff.1
        ((WaitingList.takeMatch_some taken).mem_iff.2 List.mem_cons_self)
      have suits := nobody _ mem
      simp [Lineup.suits_eq, type, admits] at suits

/-! ## Every call -/

/-- **Whatever is asked**, the waiting list and the list answer alike, and the waiting list holds
the list again. -/
theorem Holds.call (h : w.Holds l) (c : LineCall) :
    (w.call c).1.Agrees (Lineup.call l c).1 ∧ (w.call c).2.Holds (Lineup.call l c).2 := by
  cases c with
  | park p => exact ⟨rfl, h.park p⟩
  | takeMatch u =>
    cases first : l.find? (Lineup.suits u) with
    | some p =>
      obtain ⟨w', taken, holds⟩ := h.takeMatch_some first
      simp only [WaitingList.call, Lineup.call, taken, first]
      exact ⟨rfl, holds⟩
    | none =>
      have nobody : ∀ p ∈ l, Lineup.suits u p = false := by simpa using first
      have left : l.eraseP (Lineup.suits u) = l :=
        List.eraseP_of_forall_not (by simpa using nobody)
      simp only [WaitingList.call, Lineup.call, (h.takeMatch_eq_none_iff u).2 nobody, first, left]
      exact ⟨rfl, h⟩
  | drain =>
    have ascending := pairwise_mergeSort_rank Parked.rank w.all
    exact ⟨⟨(List.mergeSort_perm _ _).trans h.members, ascending⟩, holds_empty⟩

theorem Holds.callAll (h : w.Holds l) (calls : List LineCall) :
    List.Forall₂ LineAnswer.Agrees (w.callAll calls).1 (Lineup.callAll l calls).1 ∧
      (w.callAll calls).2.Holds (Lineup.callAll l calls).2 := by
  induction calls generalizing w l with
  | nil => exact ⟨.nil, h⟩
  | cons c calls ih =>
    obtain ⟨agrees, holds⟩ := h.call c
    obtain ⟨later, holds'⟩ := ih holds
    exact ⟨.cons agrees later, holds'⟩

/-! ## What can be read off -/

theorem Holds.isParked_iff (h : w.Holds l) (r : Rank) :
    w.isParked r = true ↔ ∃ p ∈ l, p.rank = r := by
  simp only [WaitingList.isParked_iff, h.members.mem_iff]

theorem Holds.mem_types_iff (h : w.Holds l) (type : WorkType) :
    type ∈ w.types ↔ ∃ p ∈ l, p.type = type := by
  constructor
  · intro there
    obtain ⟨p, hp, e⟩ := h.filed.exists_mem there
    exact ⟨p, h.members.mem_iff.1 hp, e⟩
  · rintro ⟨p, hp, rfl⟩
    have stands : p ∈ w.line p.type := by
      rw [h.line]
      exact List.mem_filter.2 ⟨hp, beq_self_eq_true _⟩
    rw [WaitingList.types, Table.mem_keys_iff, Table.contains]
    cases found : w.lines.find? p.type with
    | some line => rfl
    | none => simp [WaitingList.line, found] at stands

/-- **A waiting list is one line in the order of arrival.** Whatever is asked of a new waiting list,
it answers as the list does: a unit goes to the earliest request that it suits and that one leaves,
and whoever is drained is everybody, in ascending order of rank. Afterwards

* its size is the length of the list;
* a rank is parked exactly if a request in the list is from it;
* the types that are waited for are those in the list, each once and in ascending order;
* a unit goes to nobody exactly if no request in the list is for its type and from its target, if it
  has one;
* a unit that goes to somebody makes it smaller by one, so that its size is never less than what is
  taken off it. -/
theorem refines_lineup (calls : List LineCall) :
    let (given, w) := callAll {} calls
    let (expected, l) := Lineup.callAll [] calls
    List.Forall₂ LineAnswer.Agrees given expected ∧
    w.size = l.length ∧
    (∀ r, w.isParked r = true ↔ ∃ p ∈ l, p.rank = r) ∧
    (w.types.Pairwise (· < ·) ∧ ∀ type, type ∈ w.types ↔ ∃ p ∈ l, p.type = type) ∧
    (∀ u, w.takeMatch u = none ↔
      ¬ ∃ p ∈ l, p.type = u.type ∧ ∀ target, u.target = some target → p.rank = target) ∧
    ∀ u p w', w.takeMatch u = some (p, w') → w'.size + 1 = w.size := by
  obtain ⟨agrees, holds⟩ := holds_empty.callAll calls
  generalize callAll {} calls = real at agrees holds
  generalize Lineup.callAll [] calls = plain at agrees holds
  obtain ⟨given, w⟩ := real
  obtain ⟨expected, l⟩ := plain
  refine ⟨agrees, holds.size, holds.isParked_iff, ⟨?_, holds.mem_types_iff⟩, fun u => ?_, ?_⟩
  · exact w.lines.ascending_keys.imp Std.compare_eq_lt.1
  · rw [holds.takeMatch_eq_none_iff]
    simp only [← Lineup.suits_iff, not_exists, not_and, Bool.not_eq_true]
  · intro u p w' taken
    have left := (WaitingList.takeMatch_some taken).length_eq
    rw [List.length_cons, ← holds.counted.takeMatch taken, ← holds.counted] at left
    exact left.symm

end WaitingList

end WorkPool
