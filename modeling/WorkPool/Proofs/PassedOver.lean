import Mathlib.Data.Set.Basic
import Mathlib.Order.Bounds.Defs
import WorkPool.Proofs.Shard.Faults

/-!
# Passing over an id

A source that passes over an id should go on with the least id of its class above it. That id
is found by rounding down: below an id `x` lies the multiple `x - x % n`, and the index added
to it is the id of the class in the same round (`inRound`). It is the one looked for if it is
above `x`, and else the one a stride further is (`nextAfter`).

* `following_eq` — what the source computes is that id, if it fits a word. The sum of the
  multiple and the index is not guarded, though, so that it overflows when the class has no id
  left in the last round.
* `reserve_goes_on` — so, whatever was asked of the sources before, passing over an id ends in
  one of three ways: at the least id above, in exhaustion, or in the overflow.
-/

namespace WorkPool

/-! ## The next id of a class -/

/-- The number of a class that lies between the same two multiples as another number. -/
def inRound (n i : UInt64) (x : Int) : Int := x - x % n.toNat + i.toNat

/-- The least number of a class above another number. -/
def nextAfter (n i : UInt64) (x : Int) : Int :=
  if x < inRound n i x then inRound n i x else inRound n i x + n.toNat

section NextAfter

variable {n i : UInt64} {x y : Int}

theorem lt_inRound_iff : x < inRound n i x ↔ x % n.toNat < i.toNat := by
  simp only [inRound]
  omega

theorem nextAfter_of_lt (h : x < inRound n i x) : nextAfter n i x = inRound n i x := if_pos h

theorem nextAfter_of_not_lt (h : ¬ x < inRound n i x) :
    nextAfter n i x = inRound n i x + n.toNat := if_neg h

theorem inRound_emod (hi : i.toNat < n.toNat) : inRound n i x % n.toNat = i.toNat := by
  have multiple : x - x % n.toNat = n.toNat * (x / n.toNat) := by
    have := Int.mul_ediv_add_emod x n.toNat
    omega
  rw [inRound, multiple, Int.mul_add_emod_self_left]
  exact Int.emod_eq_of_lt (by omega) (by omega)

theorem nextAfter_emod (hi : i.toNat < n.toNat) : nextAfter n i x % n.toNat = i.toNat := by
  rw [nextAfter]
  split
  · exact inRound_emod hi
  · rw [Int.add_emod_right]
    exact inRound_emod hi

theorem lt_nextAfter (hi : i.toNat < n.toNat) : x < nextAfter n i x := by
  have := Int.emod_lt_of_pos x (b := n.toNat) (by omega)
  rw [nextAfter]
  split
  · assumption
  · rw [inRound]
    omega

/-- No number of the class lies between. -/
theorem nextAfter_le (hi : i.toNat < n.toNat) (above : x < y) (own : y % n.toNat = i.toNat) :
    nextAfter n i x ≤ y := by
  have round := inRound_emod (x := x) hi
  have residue := Int.emod_nonneg x (b := n.toNat) (by omega)
  rw [nextAfter]
  split
  · -- a smaller one would be in the round before, which ends below `x`
    by_contra less
    have := InClass.add_le own round (by omega)
    rw [inRound] at this
    omega
  · exact InClass.add_le round own (by omega)

end NextAfter

/-- The ids of a class above an id. -/
def idsAbove (n i : UInt64) (id : DatumId) : Set DatumId := {j | id < j ∧ InClass n i j}

section IdsAbove

variable {n i : UInt64} {id : DatumId}

theorem isLeast_nextAfter (hi : i.toNat < n.toNat) (hid : 0 ≤ id.toInt)
    (fits : nextAfter n i id.toInt ≤ topId) :
    IsLeast (idsAbove n i id) (Int64.ofInt (nextAfter n i id.toInt)) := by
  have above := lt_nextAfter (x := id.toInt) hi
  have value : (Int64.ofInt (nextAfter n i id.toInt)).toInt = nextAfter n i id.toInt :=
    toInt_ofInt_of_nonneg (by omega) fits
  refine ⟨⟨?_, ?_⟩, ?_⟩
  · rw [Int64.lt_iff_toInt_lt, value]
    exact above
  · rw [InClass, value]
    exact nextAfter_emod hi
  · rintro j ⟨higher, own⟩
    rw [Int64.le_iff_toInt_le, value]
    exact nextAfter_le hi (Int64.lt_iff_toInt_lt.1 higher) own

theorem idsAbove_eq_empty (hi : i.toNat < n.toNat) (ended : topId < nextAfter n i id.toInt) :
    idsAbove n i id = ∅ := by
  apply Set.eq_empty_of_forall_notMem
  rintro j ⟨higher, own⟩
  have least := nextAfter_le hi (Int64.lt_iff_toInt_lt.1 higher) own
  have top := Int64.toInt_le_topId j
  omega

end IdsAbove

namespace IdSource

/-! ## What a source computes -/

/-- The source that hands out the ids of a class. -/
structure OfClass (n i : UInt64) (s : IdSource) : Prop where
  index : s.index.toInt = i.toNat
  stride : s.stride.toInt = n.toNat
  positive : 0 < s.next.toInt

section OfClass

variable {n i : UInt64} {s s' : IdSource} {id : DatumId}

theorem OfClass.new (limit : DatumId) (hi : i.toNat < n.toNat) (hn : (n.toNat : Int) ≤ topId) :
    OfClass n i (.new i n limit) := by
  have source : Source n i limit (.new i n limit) [] := Source.new hn hi
  exact ⟨source.index, source.stride, source.positive⟩

theorem OfClass.upward (h : OfClass n i s) (hi : i.toNat < n.toNat) : s.Upward := by
  refine ⟨?_, h.positive, ?_⟩
  · rw [h.index]; omega
  · rw [h.stride]; omega

theorem residue_eq_ok (h : OfClass n i s) (hi : i.toNat < n.toNat) (id : DatumId) :
    Checked.residue id s.stride = .ok (Int64.ofInt (id.toInt % n.toNat)) := by
  have stride_ne : s.stride ≠ 0 := by
    intro zero
    have stride := h.stride
    rw [zero] at stride
    change (0 : Int) = _ at stride
    omega
  rw [Checked.residue, if_neg stride_ne, if_neg (by rw [h.stride]; omega), h.stride]

/-- Rounding an id down to a multiple of the stride stays within the word. -/
theorem exists_rounded (h : OfClass n i s) (hi : i.toNat < n.toNat) (hid : 0 ≤ id.toInt) :
    ∃ r floor, Checked.residue id s.stride = .ok r ∧ Checked.subSigned id r = .ok floor ∧
      0 ≤ floor.toInt ∧ floor.toInt = id.toInt - id.toInt % n.toNat := by
  have residue := residue_eq_ok h hi id
  have top := Int64.toInt_le_topId id
  have stride_le := Int64.toInt_le_topId s.stride
  have stride_pos := (h.upward hi).stride
  obtain ⟨r_nonneg, r_le, -⟩ := residue_bounds stride_pos hid residue
  have value : (Int64.ofInt (id.toInt % n.toNat)).toInt = id.toInt % n.toNat := by
    rw [h.stride] at stride_le stride_pos
    have less := Int.emod_lt_of_pos id.toInt stride_pos
    exact toInt_ofInt_of_nonneg (Int.emod_nonneg _ (by omega)) (by omega)
  rw [value] at r_nonneg r_le
  have rest := subSigned_eq_ok (a := id) (b := Int64.ofInt (id.toInt % n.toNat))
    (by rw [value]; omega) (by rw [value]; omega)
  refine ⟨_, _, residue, rest, ?_⟩
  rw [value, toInt_ofInt_of_nonneg (by omega) (by omega)]
  exact ⟨by omega, rfl⟩

/-- **What follows an id** is the least id of the class above it, if that fits a word. The id of the
class in the same round is a sum that is not guarded, and it overflows if it does not fit. -/
theorem following_eq (h : OfClass n i s) (hi : i.toNat < n.toNat) (hid : 0 ≤ id.toInt) :
    s.following id =
      if topId < inRound n i id.toInt then .error .addOverflow
      else .ok (if nextAfter n i id.toInt ≤ topId then
        some (Int64.ofInt (nextAfter n i id.toInt)) else none) := by
  obtain ⟨r, floor, residue, rest, nonneg, floor_eq⟩ := exists_rounded h hi hid
  have sum : floor.toInt + s.index.toInt = inRound n i id.toInt := by
    rw [floor_eq, h.index, inRound]
  have sum_nonneg : 0 ≤ inRound n i id.toInt := by
    rw [← sum, h.index]
    omega
  have round := addSigned_eq (a := floor) (b := s.index) (by rw [sum]; exact sum_nonneg)
  rw [sum] at round
  by_cases ended : topId < inRound n i id.toInt
  · simp only [following, residue, rest, round, bind, Except.bind, if_pos ended,
      if_neg (Int.not_le.2 ended)]
  have fits := Int.not_lt.1 ended
  have value : (Int64.ofInt (inRound n i id.toInt)).toInt = inRound n i id.toInt :=
    toInt_ofInt_of_nonneg sum_nonneg fits
  simp only [following, residue, rest, round, bind, Except.bind, pure, Except.pure,
    if_neg ended, if_pos fits, Int64.lt_iff_toInt_lt, value]
  by_cases above : id.toInt < inRound n i id.toInt
  · rw [if_pos above, nextAfter_of_lt above, if_pos fits]
  · rw [if_neg above, nextAfter_of_not_lt above, addSigned_eq (by rw [value, h.stride]; omega),
      value, h.stride]
    split <;> rfl

/-- **Passing over an id** that is not passed yet ends in one of three ways. -/
theorem reserve_eq (h : OfClass n i s) (hi : i.toNat < n.toNat) (reached : s.next ≤ id) :
    (∃ next, IsLeast (idsAbove n i id) next ∧ s.reserve id = .ok { s with next }) ∨
      idsAbove n i id = ∅ ∧
        if id.toInt % n.toNat < i.toNat then s.reserve id = .error .addOverflow
        else s.reserve id = .ok { s with limit := Int64.ofInt (s.next.toInt - 1) } := by
  have positive := h.positive
  have next_le := Int64.toInt_le_topId s.next
  have id_le := Int64.toInt_le_topId id
  rw [Int64.le_iff_toInt_le] at reached
  have nonneg : 0 ≤ id.toInt := by omega
  have following := following_eq h hi nonneg
  have above : ¬ id < s.next := by
    rw [Int64.lt_iff_toInt_lt]
    omega
  by_cases fits : nextAfter n i id.toInt ≤ topId
  · left
    refine ⟨_, isLeast_nextAfter hi nonneg fits, ?_⟩
    have round : ¬ topId < inRound n i id.toInt := by
      rw [nextAfter] at fits
      split at fits <;> omega
    rw [if_neg round, if_pos fits] at following
    simp only [reserve, if_neg above, following]
    rfl
  · right
    refine ⟨idsAbove_eq_empty hi (Int.not_le.1 fits), ?_⟩
    split
    · rename_i less
      have later := lt_inRound_iff.2 less
      rw [nextAfter_of_lt later] at fits
      rw [if_pos (Int.not_le.1 fits)] at following
      simp only [reserve, if_neg above, following]
      rfl
    · rename_i notLess
      have earlier := mt lt_inRound_iff.1 notLess
      have one : (1 : DatumId).toInt = 1 := rfl
      have cut := subSigned_eq_ok (a := s.next) (b := 1) (by rw [one]; omega) (by rw [one]; omega)
      rw [if_neg (by omega), if_neg fits] at following
      simp only [reserve, if_neg above, following, cut]
      rfl

/-- A source that has moved on still hands out the ids of its class. -/
theorem OfClass.onward (h : OfClass n i s) (hi : i.toNat < n.toNat)
    (fixed : s'.index = s.index ∧ s'.stride = s.stride) (moved : s.Onward s') : OfClass n i s' := by
  refine ⟨?_, ?_, (moved.upward (h.upward hi)).next⟩
  · rw [fixed.1, h.index]
  · rw [fixed.2, h.stride]

theorem OfClass.allocate {r : Except Error DatumId} (h : OfClass n i s) (hi : i.toNat < n.toNat)
    (called : s.allocate = .ok (s', r)) : OfClass n i s' ∧ s.Onward s' := by
  obtain ⟨upward, passed, -⟩ := passed_allocate (h.upward hi) called
  have moved : s.Onward s' := ⟨fun _ => upward, passed⟩
  exact ⟨h.onward hi (fixed_allocate called) moved, moved⟩

theorem OfClass.reserve (h : OfClass n i s) (hi : i.toNat < n.toNat)
    (called : s.reserve id = .ok s') : OfClass n i s' ∧ s.Onward s' := by
  obtain ⟨upward, passed, -⟩ := passed_reserve (h.upward hi) called
  have moved : s.Onward s' := ⟨fun _ => upward, passed⟩
  exact ⟨h.onward hi (fixed_reserve called) moved, moved⟩

end OfClass

end IdSource

/-! ## Runs of all sources -/

namespace IdSources

open IdSource (OfClass)

variable {n i : UInt64} {f f' : IdSources}

/-- One call, to any of the sources, leaves the source of a class one, and moves it on. -/
theorem call_onward (hi : i.toNat < n.toNat) (h : OfClass n i (f i)) {j : UInt64} {c : IdCall}
    {more : List (UInt64 × DatumId)} (called : f.call j c = .ok (f', more)) :
    OfClass n i (f' i) ∧ (f i).Onward (f' i) := by
  cases c with
  | allocate =>
    obtain ⟨⟨s, r⟩, answered, called⟩ := bind_eq_ok called
    cases called
    by_cases same : i = j
    · subst same
      rw [set_self]
      exact h.allocate hi answered
    · rw [set_ne f same]
      exact ⟨h, .refl _⟩
  | reserve id =>
    obtain ⟨s, answered, called⟩ := bind_eq_ok called
    cases called
    by_cases same : i = j
    · subst same
      rw [set_self]
      exact h.reserve hi answered
    · rw [set_ne f same]
      exact ⟨h, .refl _⟩

/-- So does a run of calls, of any content. -/
theorem run_onward (hi : i.toNat < n.toNat) (calls : List (UInt64 × IdCall)) :
    ∀ {f : IdSources} {issued : List (UInt64 × DatumId)}, OfClass n i (f i) →
      f.run calls = .ok (f', issued) → OfClass n i (f' i) ∧ (f i).Onward (f' i) := by
  induction calls with
  | nil =>
    intro f issued h ran
    cases ran
    exact ⟨h, .refl _⟩
  | cons c rest ih =>
    intro f issued h ran
    obtain ⟨⟨f₁, first⟩, called, ran⟩ := bind_eq_ok ran
    obtain ⟨⟨f₂, later⟩, went, ended⟩ := bind_eq_ok ran
    cases ended
    obtain ⟨h₁, moved⟩ := call_onward hi h called
    obtain ⟨h₂, moved'⟩ := ih h₁ went
    exact ⟨h₂, moved.trans moved'⟩

/-- **Passing over an id goes on at the next id of the class**, in every state that calls of any
content lead to. An id that is passed already changes nothing. If no id of the class is left above
the one passed over, then either nothing is handed out any more, or, where the residue of that id
lies below the index, the computation overflows. -/
theorem reserve_goes_on {limit : DatumId} {calls : List (UInt64 × IdCall)}
    {issued : List (UInt64 × DatumId)} (hi : i.toNat < n.toNat) (hn : (n.toNat : Int) ≤ topId)
    (reached : (new n limit).run calls = .ok (f, issued)) (id : DatumId) :
    (id < (f i).next → (f i).reserve id = .ok (f i)) ∧
    ((f i).next ≤ id →
      (∃ next, IsLeast (idsAbove n i id) next ∧ (f i).reserve id = .ok { f i with next }) ∨
      idsAbove n i id = ∅ ∧
        if id.toInt % n.toNat < i.toNat then (f i).reserve id = .error .addOverflow
        else ∃ s, (f i).reserve id = .ok s ∧
          ∀ later f' issued', (f.set i s).run later = .ok (f', issued') →
            ∃ e, (f' i).allocate = .ok (f' i, .error e)) := by
  have own : OfClass n i (f i) := (run_onward hi calls (OfClass.new limit hi hn) reached).1
  refine ⟨fun below => ?_, fun above => ?_⟩
  · rw [IdSource.reserve, if_pos below]
    rfl
  refine (IdSource.reserve_eq own hi above).imp_right (And.imp_right fun ended => ?_)
  split
  · rename_i less
    rwa [if_pos less] at ended
  · rename_i notLess
    rw [if_neg notLess] at ended
    refine ⟨_, ended, fun later f' issued' ran => ?_⟩
    obtain ⟨own', -⟩ := own.reserve hi ended
    obtain ⟨-, moved⟩ := run_onward hi later (by rw [set_self]; exact own') ran
    have spent := (IdSource.passed_reserve (own.upward hi) ended).2.2.resolve_right
      (Int64.not_lt.2 above)
    exact allocate_refused (moved.spent (by rw [set_self]; exact spent))

/-- The third of three servers hands out the id 2, and then it is told to pass over the largest
id. Its class ends two below that, and the computation overflows. -/
theorem reserve_goes_on_overflow :
    (IdSources.new 3 Int64.maxValue).run [(2, .allocate)] =
      .ok ((IdSources.new 3 Int64.maxValue).set 2 ⟨2, 5, 3, Int64.maxValue, 1⟩, [(2, 2)]) ∧
    idsAbove 3 2 Int64.maxValue = ∅ ∧
    IdSource.reserve ⟨2, 5, 3, Int64.maxValue, 1⟩ Int64.maxValue = .error .addOverflow := by
  have ran : (IdSources.new 3 Int64.maxValue).run [(2, .allocate)] =
      .ok ((IdSources.new 3 Int64.maxValue).set 2 ⟨2, 5, 3, Int64.maxValue, 1⟩, [(2, 2)]) := rfl
  obtain ⟨-, passed⟩ := reserve_goes_on (i := 2) (by decide) (by decide) ran Int64.maxValue
  rw [set_self] at passed
  rcases passed (by decide) with ⟨next, least, -⟩ | ⟨empty, overflow⟩
  · have top := Int64.toInt_le_topId next
    have higher := Int64.lt_iff_toInt_lt.1 least.1.1
    rw [topId] at top
    omega
  · rw [if_pos (by decide)] at overflow
    exact ⟨ran, empty, overflow⟩

end IdSources

end WorkPool
