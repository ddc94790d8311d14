import WorkPool.IdSource
import WorkPool.Topology

/-!
# Id partition: which server hands out which id

The id sources of a run are meant to share out the ids by residue: source `i` of `n`
hands out ids of the class of `i` modulo `n`, so that the owner of an id is the server
that handed it out, and no id is handed out twice by different servers.

* `Source s` — what every source keeps: its class, its stride, and which of three
  **stages** it is in. A source is *aligned* while its next id is in its class, *spent*
  once the next id did not fit a word and was cut back to the largest word, and
  *exhausted* once its limit lies below its next id.
* `Source.allocate`, `Source.reserve` — one call moves between stages.
* `ids_partitioned_iff` — the ids are shared out by residue in every run **iff** the
  limit is below the largest word or there is only one server. A spent source whose
  limit is the largest word hands that word out, whatever its class.
-/

namespace WorkPool

/-- The largest id. -/
def topId : Int := Int64.maxValue.toInt

theorem topId_eq : topId = 9223372036854775807 := rfl

theorem Int64.toInt_le_topId (id : DatumId) : id.toInt ≤ topId := id.toInt_le

/-- An integer between zero and the largest id is the value of its word. -/
theorem toInt_ofInt_of_nonneg {x : Int} (h0 : 0 ≤ x) (h : x ≤ topId) :
    (Int64.ofInt x).toInt = x := by
  rw [topId_eq] at h
  exact Int64.toInt_ofInt_of_le (by omega) (by omega)

/-- A word below the sign bit keeps its value when it is read as a signed word. -/
theorem toInt_toInt64 {n : UInt64} (h : (n.toNat : Int) ≤ topId) : n.toInt64.toInt = n.toNat := by
  rw [topId_eq] at h
  have cast : n.toInt64.toInt = n.toBitVec.toInt := rfl
  rw [cast, BitVec.toInt_eq_toNat_of_lt]
  · rfl
  · change 2 * n.toNat < 18446744073709551616
    omega

/-! ## Classes -/

/-- Whether an id is in the class of an index modulo a number of servers. -/
def InClass (n i : UInt64) (id : DatumId) : Prop := id.toInt % n.toNat = i.toNat

instance (n i : UInt64) (id : DatumId) : Decidable (InClass n i id) :=
  inferInstanceAs (Decidable (_ = _))

/-- The largest id in a class. -/
def lastId (n i : UInt64) : Int := topId - (topId - i.toNat) % n.toNat

/-- **The owner of an id** is the server of its class. -/
theorem owner_of_inClass {t : Topology} {i : UInt64} {id : DatumId} (hpos : 0 < t.servers.toNat)
    (hfit : (t.servers.toNat : Int) ≤ topId) (h : InClass t.servers i id) :
    t.owner id = t.serverRank i := by
  have hi : (i.toNat : Int) < t.servers.toNat := by
    rw [← h]
    exact Int.emod_lt_of_pos _ (by omega)
  have value : (Int64.ofInt (i.toNat : Int)).toInt = i.toNat :=
    toInt_ofInt_of_nonneg (by omega) (by omega)
  have index : (Int64.ofInt (i.toNat : Int)).toUInt64 = i := by
    apply UInt64.toNat_inj.1
    rw [Int64.toNat_toUInt64_of_le, Int64.toNatClampNeg, value]
    · rfl
    · rw [Int64.le_iff_toInt_le, value]
      exact Int.natCast_nonneg _
  rw [Topology.owner, toInt_toInt64 hfit, h, index]

/-- Two ids of one class are no closer than the number of servers. -/
theorem InClass.add_le {n i : UInt64} {a b : Int} (ha : a % n.toNat = i.toNat)
    (hb : b % n.toNat = i.toNat) (h : a < b) : a + n.toNat ≤ b := by
  have apart : (n.toNat : Int) ∣ b - a := Int.dvd_of_emod_eq_zero (by
    rw [Int.sub_emod, ha, hb]; simp)
  have := Int.le_of_dvd (by omega) apart
  omega

/-! ## The stages of a source -/

/-- How far a source of class `i` has come, given all the ids it has handed out. -/
inductive Stage (n i : UInt64) (limit : DatumId) (s : IdSource) (ids : List DatumId) : Prop where
  /-- the next id is in the class -/
  | aligned (next : InClass n i s.next) (bound : s.limit = limit)
      (issued : ∀ id ∈ ids, InClass n i id)
  /-- the class has run out, and the next id was cut back to the largest word -/
  | spent (next : s.next.toInt = topId) (outside : topId % n.toNat ≠ i.toNat)
      (bound : s.limit = limit) (last : ∃ id ∈ ids, id.toInt = lastId n i)
      (issued : ∀ id ∈ ids, InClass n i id)
  /-- every request for an id is refused -/
  | exhausted (bound : s.limit < s.next)
      (issued : ∀ id ∈ ids, InClass n i id ∨
        id.toInt = topId ∧ limit.toInt = topId ∧ ∃ id' ∈ ids, id'.toInt = lastId n i)

/-- What the source with index `i` of `n` keeps through all calls. -/
structure Source (n i : UInt64) (limit : DatumId) (s : IdSource) (ids : List DatumId) : Prop where
  /-- it knows its class -/
  index : s.index.toInt = i.toNat
  /-- it goes from one id of its class to the next -/
  stride : s.stride.toInt = n.toNat
  /-- it never goes back to the null id -/
  positive : 0 < s.next.toInt
  /-- it is in one of the stages -/
  stage : Stage n i limit s ids

section Source

variable {n i : UInt64} {limit : DatumId} {s : IdSource} {ids : List DatumId}

/-- A new source is aligned. -/
theorem Source.new (hfit : (n.toNat : Int) ≤ topId) (hi : i.toNat < n.toNat) :
    Source n i limit (.new i n limit) [] := by
  have stride := toInt_toInt64 hfit
  have index : i.toInt64.toInt = i.toNat := toInt_toInt64 (by omega)
  have zero : i.toInt64 = nullId ↔ i.toNat = 0 := by
    rw [← Int64.toInt_inj, index]
    exact Int.natCast_eq_zero
  by_cases hnull : i.toNat = 0
  · have next : (IdSource.new i n limit).next.toInt = n.toNat := by
      rw [IdSource.new, if_pos (zero.2 hnull), stride]
    refine ⟨index, stride, by rw [next]; omega, .aligned ?_ rfl (by simp)⟩
    rw [InClass, next, hnull, Int.emod_self]
    rfl
  · have next : (IdSource.new i n limit).next.toInt = i.toNat := by
      rw [IdSource.new, if_neg (fun h => hnull (zero.1 h)), index]
    refine ⟨index, stride, by rw [next]; omega, .aligned ?_ rfl (by simp)⟩
    rw [InClass, next]
    exact Int.emod_eq_of_lt (by omega) (by omega)

/-- One stride further, cut back to the largest word. -/
theorem advance_toInt {id stride : DatumId} (hid : 0 < id.toInt) (hs : 0 < stride.toInt) :
    (IdSource.advance id stride).toInt =
      if id.toInt + stride.toInt ≤ topId then id.toInt + stride.toInt else topId := by
  have least : Int64.minValue.toInt < 0 := by decide
  unfold IdSource.advance
  rw [if_neg (by omega)]
  split
  · rename_i ended
    rw [if_neg (by rw [topId]; omega)]
    rfl
  · rename_i fits
    rw [if_pos (by rw [topId]; omega)]
    exact toInt_ofInt_of_nonneg (by omega) (by rw [topId]; omega)

end Source

/-! ## One call -/

/-- A difference of words that lies between zero and the largest word is exact. -/
theorem subSigned_eq_ok {a b : DatumId} (h0 : 0 ≤ a.toInt - b.toInt)
    (h : a.toInt - b.toInt ≤ topId) :
    Checked.subSigned a b = .ok (Int64.ofInt (a.toInt - b.toInt)) := by
  have least : Int64.minValue.toInt < 0 := by decide
  have fits : Checked.fitsSigned (a.toInt - b.toInt) = true := by
    simp only [Checked.fitsSigned, Bool.and_eq_true, decide_eq_true_eq]
    exact ⟨by omega, h⟩
  rw [Checked.subSigned, if_pos fits]

/-- A sum of words that are not negative is exact if it is no larger than the largest word. -/
theorem addSigned_eq {a b : DatumId} (h0 : 0 ≤ a.toInt + b.toInt) :
    Checked.addSigned a b =
      if a.toInt + b.toInt ≤ topId then .ok (Int64.ofInt (a.toInt + b.toInt))
      else .error .addOverflow := by
  have least : Int64.minValue.toInt < 0 := by decide
  have fits : Checked.fitsSigned (a.toInt + b.toInt) = true ↔ a.toInt + b.toInt ≤ topId := by
    simp only [Checked.fitsSigned, Bool.and_eq_true, decide_eq_true_eq]
    exact ⟨fun h => h.2, fun h => ⟨by omega, h⟩⟩
  rw [Checked.addSigned]
  by_cases h : a.toInt + b.toInt ≤ topId
  · rw [if_pos h, if_pos (fits.2 h)]
  · rw [if_neg h, if_neg (fun hf => h (fits.1 hf))]

/-- A source whose limit lies below its next id hands out nothing and does not change. -/
theorem allocate_refused {s : IdSource} (h : s.limit < s.next) :
    ∃ e, s.allocate = .ok (s, .error e) :=
  ⟨_, by rw [IdSource.allocate, if_pos h]; rfl⟩

/-- A source that can move on hands out its next id. -/
theorem allocate_granted {s : IdSource} (h : ¬ s.limit < s.next)
    (hmove : IdSource.advance s.next s.stride ≠ s.next) :
    s.allocate = .ok ({ s with
      next := IdSource.advance s.next s.stride
      issued := s.issued + 1 }, .ok s.next) := by
  simp only [IdSource.allocate, if_neg h, if_neg hmove]
  rfl

/-- A source that cannot move on hands out its next id and moves its limit below it. -/
theorem allocate_final {s : IdSource} (hpos : 0 < s.next.toInt) (h : ¬ s.limit < s.next)
    (hstay : IdSource.advance s.next s.stride = s.next) :
    s.allocate = .ok ({ s with
      next := s.next
      limit := Int64.ofInt (s.next.toInt - 1)
      issued := s.issued + 1 }, .ok s.next) := by
  have one : (1 : DatumId).toInt = 1 := rfl
  have hle := Int64.toInt_le_topId s.next
  simp only [IdSource.allocate, if_neg h, hstay, if_true,
    subSigned_eq_ok (a := s.next) (b := 1) (by rw [one]; omega) (by rw [one]; omega)]
  rfl

section Source

variable {n i : UInt64} {limit : DatumId} {s : IdSource} {ids : List DatumId}

/-- The ids that an answer hands out. -/
def handedOut : Except Error DatumId → List DatumId
  | .ok id => [id]
  | .error _ => []

/-- A source that cannot move on stands at the largest word, which is not in the class, and refuses
from now on. -/
theorem Source.stop (hpos : 0 < n.toNat) (h : Source n i limit s ids)
    (granted : ¬ s.limit < s.next) (stay : IdSource.advance s.next s.stride = s.next) :
    Source n i limit { s with
      next := s.next
      limit := Int64.ofInt (s.next.toInt - 1)
      issued := s.issued + 1 } (ids ++ [s.next]) := by
  have moved := advance_toInt h.positive (by rw [h.stride]; omega)
  have next_le := Int64.toInt_le_topId s.next
  have top : s.next.toInt = topId := by
    rw [stay, h.stride] at moved
    split at moved <;> omega
  refine ⟨h.index, h.stride, h.positive, .exhausted ?_ fun id hid => ?_⟩
  · rw [Int64.lt_iff_toInt_lt]
    simp only
    rw [toInt_ofInt_of_nonneg (by have := h.positive; omega) (by omega)]
    omega
  simp only [List.mem_append, List.mem_singleton] at hid
  cases h.stage with
  | aligned next bound issued =>
    rcases hid with hid | rfl
    · exact .inl (issued id hid)
    · exact .inl next
  | spent next outside bound last issued =>
    rcases hid with hid | rfl
    · exact .inl (issued id hid)
    · obtain ⟨id', hid', hlast⟩ := last
      refine .inr ⟨top, ?_, id', List.mem_append_left _ hid', hlast⟩
      rw [bound, Int64.lt_iff_toInt_lt] at granted
      have := Int64.toInt_le_topId limit
      omega
  | exhausted bound issued => exact absurd bound granted

/-- A source that moves on stands at the next id of its class; or at the largest word, if it has
handed out the last one. -/
theorem Source.move (hpos : 0 < n.toNat) (h : Source n i limit s ids)
    (granted : ¬ s.limit < s.next) (moves : IdSource.advance s.next s.stride ≠ s.next) :
    Source n i limit { s with
      next := IdSource.advance s.next s.stride
      issued := s.issued + 1 } (ids ++ [s.next]) := by
  have moved := advance_toInt h.positive (by rw [h.stride]; omega)
  have next_le := Int64.toInt_le_topId s.next
  refine ⟨h.index, h.stride, ?_, ?_⟩
  · have := h.positive
    simp only [moved, h.stride, topId_eq]
    split <;> omega
  cases h.stage with
  | aligned next bound issued =>
    have all : ∀ id ∈ ids ++ [s.next], InClass n i id := by
      intro id hid
      simp only [List.mem_append, List.mem_singleton] at hid
      rcases hid with hid | rfl
      · exact issued id hid
      · exact next
    rw [h.stride] at moved
    by_cases fits : s.next.toInt + n.toNat ≤ topId
    · refine .aligned ?_ bound all
      simp only [InClass, moved, if_pos fits, Int.add_emod_right]
      exact next
    · rw [if_neg fits] at moved
      have ne_top : s.next.toInt ≠ topId := fun e =>
        moves (Int64.toInt_inj.1 (moved.trans e.symm))
      have outside : topId % n.toNat ≠ i.toNat := fun e => by
        have := InClass.add_le next e (by omega)
        omega
      refine .spent moved outside bound ⟨s.next, by simp, ?_⟩ all
      have gap : (topId - i.toNat) % n.toNat = topId - s.next.toInt := by
        rw [← next, Int.sub_emod, Int.emod_emod, ← Int.sub_emod]
        exact Int.emod_eq_of_lt (by omega) (by omega)
      rw [lastId, gap]
      omega
  | spent next outside bound last issued =>
    rw [h.stride, if_neg (by omega)] at moved
    exact absurd (Int64.toInt_inj.1 (moved.trans next.symm)) moves
  | exhausted bound issued => exact absurd bound granted

/-- **Handing out an id** keeps a source what it is. -/
theorem Source.allocate (hpos : 0 < n.toNat) (h : Source n i limit s ids) :
    ∃ s' r, s.allocate = .ok (s', r) ∧ Source n i limit s' (ids ++ handedOut r) := by
  by_cases refused : s.limit < s.next
  · obtain ⟨e, he⟩ := allocate_refused refused
    exact ⟨s, _, he, by simpa [handedOut] using h⟩
  by_cases stay : IdSource.advance s.next s.stride = s.next
  · exact ⟨_, _, allocate_final h.positive refused stay, h.stop hpos refused stay⟩
  · exact ⟨_, _, allocate_granted refused stay, h.move hpos refused stay⟩

/-- The id after one of the own class is a stride further, if that fits a word. -/
theorem Source.following (hpos : 0 < n.toNat) (h : Source n i limit s ids) {id : DatumId}
    (hid : 0 < id.toInt) (own : InClass n i id) :
    s.following id = .ok (if id.toInt + n.toNat ≤ topId then
      some (Int64.ofInt (id.toInt + n.toNat)) else none) := by
  have hle := Int64.toInt_le_topId id
  have i_lt : (i.toNat : Int) < n.toNat := by
    rw [← own]
    exact Int.emod_lt_of_pos _ (by omega)
  have i_le : (i.toNat : Int) ≤ id.toInt := by
    have parts := Int.mul_ediv_add_emod id.toInt n.toNat
    have := Int.mul_nonneg (Int.natCast_nonneg n.toNat)
      (Int.ediv_nonneg (Int.le_of_lt hid) (Int.natCast_nonneg n.toNat))
    rw [own] at parts
    omega
  have stride_ne : s.stride ≠ 0 := fun e => by
    have := h.stride
    rw [e] at this
    change (0 : Int) = _ at this
    omega
  have residue : Checked.residue id s.stride = .ok (Int64.ofInt i.toNat) := by
    rw [Checked.residue, if_neg stride_ne, if_neg (by rw [h.stride]; omega), h.stride, own]
  have index : (Int64.ofInt (i.toNat : Int)).toInt = i.toNat :=
    toInt_ofInt_of_nonneg (by omega) (by omega)
  have rest : Checked.subSigned id (Int64.ofInt i.toNat) =
      .ok (Int64.ofInt (id.toInt - i.toNat)) := by
    rw [subSigned_eq_ok (by rw [index]; omega) (by rw [index]; omega), index]
  have rest_value : (Int64.ofInt (id.toInt - i.toNat)).toInt = id.toInt - i.toNat :=
    toInt_ofInt_of_nonneg (by omega) (by omega)
  have base : Checked.addSigned (Int64.ofInt (id.toInt - i.toNat)) s.index = .ok id := by
    rw [addSigned_eq (by rw [rest_value, h.index]; omega), rest_value, h.index,
      Int.sub_add_cancel, if_pos hle, Int64.ofInt_toInt]
  simp only [IdSource.following, residue, rest, base, bind, Except.bind, pure, Except.pure]
  rw [if_neg (by rw [Int64.lt_iff_toInt_lt]; omega), addSigned_eq (by rw [h.stride]; omega),
    h.stride]
  split <;> rfl

/-- **Passing over an id** of the own class keeps a source what it is. If no id of the class is left
above, the source refuses from now on. -/
theorem Source.reserve (hpos : 0 < n.toNat) (h : Source n i limit s ids) {id : DatumId}
    (own : InClass n i id) : ∃ s', s.reserve id = .ok s' ∧ Source n i limit s' ids := by
  by_cases below : id < s.next
  · exact ⟨s, by rw [IdSource.reserve, if_pos below]; rfl, h⟩
  have reached : s.next.toInt ≤ id.toInt := by
    rw [Int64.lt_iff_toInt_lt] at below
    omega
  have positive : 0 < id.toInt := by have := h.positive; omega
  have next_le := Int64.toInt_le_topId s.next
  have id_le := Int64.toInt_le_topId id
  have following := h.following hpos positive own
  by_cases fits : id.toInt + n.toNat ≤ topId
  · have value : (Int64.ofInt (id.toInt + n.toNat)).toInt = id.toInt + n.toNat :=
      toInt_ofInt_of_nonneg (by omega) fits
    refine ⟨{ s with next := Int64.ofInt (id.toInt + n.toNat) }, ?_, h.index, h.stride, ?_, ?_⟩
    · simp only [IdSource.reserve, if_neg below, following, if_pos fits]
      rfl
    · simp only [value]
      omega
    cases h.stage with
    | aligned next bound issued =>
      refine .aligned ?_ bound issued
      simp only [InClass, value, Int.add_emod_right]
      exact own
    | spent next outside bound last issued => omega
    | exhausted bound issued =>
      refine .exhausted ?_ issued
      rw [Int64.lt_iff_toInt_lt] at bound ⊢
      simp only [value]
      omega
  · have one : (1 : DatumId).toInt = 1 := rfl
    have cut := subSigned_eq_ok (a := s.next) (b := 1) (by rw [one]; have := h.positive; omega)
      (by rw [one]; omega)
    refine ⟨{ s with limit := Int64.ofInt (s.next.toInt - 1) }, ?_, h.index, h.stride,
      h.positive, .exhausted ?_ ?_⟩
    · simp only [IdSource.reserve, if_neg below, following, if_neg fits, cut]
      rfl
    · rw [Int64.lt_iff_toInt_lt]
      simp only
      rw [toInt_ofInt_of_nonneg (by have := h.positive; omega) (by omega)]
      omega
    · intro id' hid'
      cases h.stage with
      | aligned next bound issued => exact .inl (issued id' hid')
      | spent next outside bound last issued => exact .inl (issued id' hid')
      | exhausted bound issued => exact issued id' hid'

end Source

/-! ## Runs of all sources -/

/-- What can be asked of an id source. -/
inductive IdCall where
  /-- hand out an id -/
  | allocate
  /-- pass over an id -/
  | reserve (id : DatumId)
  deriving DecidableEq

/-- The ids of a run are handed out by one source per server, found by the server's index. -/
abbrev IdSources := UInt64 → IdSource

namespace IdSources

/-- The sources of `n` servers at the start of a run. -/
def new (n : UInt64) (limit : DatumId) : IdSources := fun i => .new i n limit

/-- Replace one of the sources. -/
def set (f : IdSources) (i : UInt64) (s : IdSource) : IdSources := fun j => if j = i then s else f j

@[simp] theorem set_self (f : IdSources) (i : UInt64) (s : IdSource) : f.set i s i = s := if_pos rfl

theorem set_ne (f : IdSources) {i j : UInt64} (h : j ≠ i) (s : IdSource) : f.set i s j = f j :=
  if_neg h

/-- Ask one of the sources; the answer is the ids handed out, with the index of their source. -/
def call (f : IdSources) (i : UInt64) : IdCall → Except Fault (IdSources × List (UInt64 × DatumId))
  | .allocate => do
    let (s, r) ← (f i).allocate
    return (f.set i s, (handedOut r).map fun id => (i, id))
  | .reserve id => do
    let s ← (f i).reserve id
    return (f.set i s, [])

/-- Ask sources in any order, and collect the ids handed out, in order. -/
def run : IdSources → List (UInt64 × IdCall) → Except Fault (IdSources × List (UInt64 × DatumId))
  | f, [] => return (f, [])
  | f, (i, c) :: rest => do
    let (f, first) ← f.call i c
    let (f, later) ← f.run rest
    return (f, first ++ later)

/-- The ids that one source handed out. -/
def idsOf (i : UInt64) (issued : List (UInt64 × DatumId)) : List DatumId :=
  issued.filterMap fun p => if p.1 = i then some p.2 else none

/-- A call that the server with the index makes: it passes over ids of its own class only. -/
def Proper (n : UInt64) : UInt64 × IdCall → Prop
  | (i, .allocate) => i.toNat < n.toNat
  | (i, .reserve id) => i.toNat < n.toNat ∧ id ≠ nullId ∧ InClass n i id

theorem idsOf_append (i : UInt64) (a b : List (UInt64 × DatumId)) :
    idsOf i (a ++ b) = idsOf i a ++ idsOf i b := List.filterMap_append

theorem mem_idsOf {i : UInt64} {id : DatumId} {issued : List (UInt64 × DatumId)} :
    id ∈ idsOf i issued ↔ (i, id) ∈ issued := by
  simp only [idsOf, List.mem_filterMap]
  constructor
  · rintro ⟨⟨j, id'⟩, hmem, h⟩
    split at h
    · rename_i hj
      obtain rfl := Option.some.inj h
      obtain rfl : j = i := hj
      exact hmem
    · cases h
  · intro hmem
    exact ⟨(i, id), hmem, if_pos rfl⟩

theorem idsOf_map_self (i : UInt64) (ids : List DatumId) :
    idsOf i (ids.map fun id => (i, id)) = ids := by
  induction ids with
  | nil => rfl
  | cons id rest ih =>
    have first : idsOf i ((i, id) :: rest.map fun id => (i, id)) =
        id :: idsOf i (rest.map fun id => (i, id)) := List.filterMap_cons_some (if_pos rfl)
    rw [List.map_cons, first, ih]

theorem idsOf_map_ne {i j : UInt64} (h : j ≠ i) (ids : List DatumId) :
    idsOf j (ids.map fun id => (i, id)) = [] := by
  simp [idsOf, List.filterMap_map, Ne.symm h]

/-- All sources are what they should be, given all the ids handed out. -/
def Sound (n : UInt64) (limit : DatumId) (f : IdSources) (issued : List (UInt64 × DatumId)) :
    Prop :=
  (∀ i : UInt64, i.toNat < n.toNat → Source n i limit (f i) (idsOf i issued)) ∧
    ∀ p ∈ issued, p.1.toNat < n.toNat

/-- **One call** of any server keeps all sources what they should be. -/
theorem Sound.call {n : UInt64} {limit : DatumId} {f : IdSources}
    {issued : List (UInt64 × DatumId)} (hpos : 0 < n.toNat) (h : Sound n limit f issued)
    {i : UInt64} {c : IdCall} (proper : Proper n (i, c)) :
    ∃ f' more, f.call i c = .ok (f', more) ∧ Sound n limit f' (issued ++ more) := by
  cases c with
  | allocate =>
    obtain ⟨s', r, hs, hsound⟩ := (h.1 i proper).allocate hpos
    refine ⟨f.set i s', (handedOut r).map fun id => (i, id), ?_, ?_, ?_⟩
    · simp only [IdSources.call, hs]
      rfl
    · intro j hj
      by_cases same : j = i
      · subst same
        rw [set_self, idsOf_append, idsOf_map_self]
        exact hsound
      · rw [set_ne f same, idsOf_append, idsOf_map_ne same, List.append_nil]
        exact h.1 j hj
    · intro p hp
      rcases List.mem_append.1 hp with hp | hp
      · exact h.2 p hp
      · obtain ⟨id, -, rfl⟩ := List.mem_map.1 hp
        exact proper
  | reserve id =>
    obtain ⟨s', hs, hsound⟩ := (h.1 i proper.1).reserve hpos proper.2.2
    refine ⟨f.set i s', [], ?_, ?_, ?_⟩
    · simp only [IdSources.call, hs]
      rfl
    · intro j hj
      rw [List.append_nil]
      by_cases same : j = i
      · subst same
        rw [set_self]
        exact hsound
      · rw [set_ne f same]
        exact h.1 j hj
    · rw [List.append_nil]
      exact h.2

/-- **Any run** of proper calls ends without a fault and keeps all sources what they should be. -/
theorem Sound.run {n : UInt64} {limit : DatumId} (hpos : 0 < n.toNat)
    (calls : List (UInt64 × IdCall)) :
    ∀ {f : IdSources} {issued : List (UInt64 × DatumId)}, Sound n limit f issued →
      (∀ c ∈ calls, Proper n c) →
      ∃ f' more, f.run calls = .ok (f', more) ∧ Sound n limit f' (issued ++ more) := by
  induction calls with
  | nil =>
    intro f issued h _
    exact ⟨f, [], rfl, by simpa using h⟩
  | cons c rest ih =>
    obtain ⟨i, c⟩ := c
    intro f issued h proper
    obtain ⟨f₁, first, hcall, h₁⟩ := h.call hpos (proper (i, c) (by simp))
    obtain ⟨f₂, later, hrun, h₂⟩ := ih h₁ fun c hc => proper c (List.mem_cons_of_mem _ hc)
    refine ⟨f₂, first ++ later, ?_, by rw [← List.append_assoc]; exact h₂⟩
    simp only [IdSources.run, hcall, hrun, bind, Except.bind]
    rfl

theorem Sound.new {n : UInt64} (limit : DatumId) (hfit : (n.toNat : Int) ≤ topId) :
    Sound n limit (IdSources.new n limit) [] :=
  ⟨fun _ hi => Source.new hfit hi, by simp⟩

end IdSources

/-! ## Past the end of a class -/

section Overrun

variable {n i : UInt64}

theorem lastId_emod (hi : i.toNat < n.toNat) :
    lastId n i % n.toNat = i.toNat := by
  have parts := Int.mul_ediv_add_emod (topId - i.toNat) n.toNat
  have form : lastId n i = i.toNat + n.toNat * ((topId - i.toNat) / n.toNat) := by
    rw [lastId]
    omega
  rw [form, Int.add_mul_emod_self_left]
  exact Int.emod_eq_of_lt (by omega) (by omega)

theorem topId_lt_lastId_add (hpos : 0 < n.toNat) : topId < lastId n i + n.toNat := by
  have := Int.emod_lt_of_pos (topId - i.toNat) (b := n.toNat) (by omega)
  rw [lastId]
  omega

theorem lastId_le (hpos : 0 < n.toNat) : lastId n i ≤ topId := by
  have := Int.emod_nonneg (topId - i.toNat) (b := n.toNat) (by omega)
  rw [lastId]
  omega

/-- A source that stands at the last id of its class, with the largest word as its limit, hands out
that id and then the largest word. -/
theorem Source.overrun {limit : DatumId} {s : IdSource} {ids : List DatumId} (hpos : 0 < n.toNat)
    (h : Source n i limit s ids) (last : s.next.toInt = lastId n i) (bound : s.limit.toInt = topId)
    (outside : topId % n.toNat ≠ i.toNat) (hi : i.toNat < n.toNat) :
    ∃ s₁ s₂ id, s.allocate = .ok (s₁, .ok s.next) ∧ s₁.allocate = .ok (s₂, .ok id) ∧
      id.toInt = topId := by
  have stride_pos : 0 < s.stride.toInt := by rw [h.stride]; omega
  have ne_top : s.next.toInt ≠ topId := by
    rw [last]
    exact fun e => outside (e ▸ lastId_emod hi)
  have past := topId_lt_lastId_add (i := i) hpos
  have next_le := Int64.toInt_le_topId s.next
  have moved : (IdSource.advance s.next s.stride).toInt = topId := by
    rw [advance_toInt h.positive stride_pos, h.stride, if_neg (by omega)]
  have granted := allocate_granted (s := s) (by rw [Int64.lt_iff_toInt_lt]; omega)
    fun e => ne_top (by rw [← e]; exact moved)
  refine ⟨_, _, IdSource.advance s.next s.stride, granted, allocate_final ?_ ?_ ?_, moved⟩
  · simp only [moved, topId_eq]
    omega
  · rw [Int64.lt_iff_toInt_lt]
    simp only [moved, bound]
    omega
  · apply Int64.toInt_inj.1
    simp only
    rw [advance_toInt (by rw [moved, topId_eq]; omega) stride_pos, moved, if_neg (by omega)]

end Overrun

namespace IdSources

/-- A call that is answered opens a run. -/
theorem run_cons {f f₁ f₂ : IdSources} {i : UInt64} {c : IdCall} {rest : List (UInt64 × IdCall)}
    {first later : List (UInt64 × DatumId)} (hc : f.call i c = .ok (f₁, first))
    (hr : f₁.run rest = .ok (f₂, later)) :
    f.run ((i, c) :: rest) = .ok (f₂, first ++ later) := by
  simp only [run, hc, hr, bind, Except.bind]
  rfl

/-- Two requests to a source that stands at the last id of its class bring the largest word. -/
theorem run_overrun {n i : UInt64} {limit : DatumId} {f : IdSources} {ids : List DatumId}
    (hpos : 0 < n.toNat) (h : Source n i limit (f i) ids) (last : (f i).next.toInt = lastId n i)
    (bound : (f i).limit.toInt = topId) (outside : topId % n.toNat ≠ i.toNat)
    (hi : i.toNat < n.toNat) :
    ∃ f' issued id, f.run [(i, .allocate), (i, .allocate)] = .ok (f', issued) ∧
      (i, id) ∈ issued ∧ id.toInt = topId := by
  obtain ⟨s₁, s₂, id, h₁, h₂, top⟩ := h.overrun hpos last bound outside hi
  have first : f.call i .allocate = .ok (f.set i s₁, [(i, (f i).next)]) := by
    simp only [call, h₁]
    rfl
  have second : (f.set i s₁).call i .allocate = .ok ((f.set i s₁).set i s₂, [(i, id)]) := by
    simp only [call, set_self, h₂]
    rfl
  exact ⟨_, _, id, run_cons first (run_cons second rfl), by simp, top⟩

/-- A source that stands below the last id of its class is moved there by one call: it passes over
the id before. -/
theorem call_reserve_last {n i : UInt64} {limit : DatumId} {f : IdSources} {ids : List DatumId}
    (hpos : 0 < n.toNat) (hi : i.toNat < n.toNat) (h : Source n i limit (f i) ids)
    (aligned : InClass n i (f i).next) (less : (f i).next.toInt < lastId n i) :
    ∃ id, Proper n (i, .reserve id) ∧
      f.call i (.reserve id) = .ok (f.set i { f i with next := Int64.ofInt (lastId n i) }, []) ∧
      Source n i limit { f i with next := Int64.ofInt (lastId n i) } ids := by
  have step := InClass.add_le aligned (lastId_emod hi) less
  have positive := h.positive
  have last_le := lastId_le (i := i) hpos
  have value : (Int64.ofInt (lastId n i - n.toNat)).toInt = lastId n i - n.toNat :=
    toInt_ofInt_of_nonneg (by omega) (by omega)
  have own : InClass n i (Int64.ofInt (lastId n i - n.toNat)) := by
    rw [InClass, value, Int.sub_emod_right]
    exact lastId_emod hi
  have moved : (f i).reserve (Int64.ofInt (lastId n i - n.toNat)) =
      .ok { f i with next := Int64.ofInt (lastId n i) } := by
    have following := h.following hpos (by rw [value]; omega) own
    rw [value, Int.sub_add_cancel, if_pos last_le] at following
    rw [IdSource.reserve, if_neg (by rw [Int64.lt_iff_toInt_lt, value]; omega), following]
    rfl
  refine ⟨_, ⟨hi, fun null => ?_, own⟩, ?_, ?_⟩
  · have zero : (Int64.ofInt (lastId n i - n.toNat)).toInt = 0 := by rw [null]; rfl
    omega
  · simp only [call, moved]
    rfl
  · obtain ⟨s', hs', h'⟩ := h.reserve hpos own
    obtain rfl := Except.ok.inj (hs'.symm.trans moved)
    exact h'

/-- **Some run brings an id outside its class**, if the limit is the largest word and that word is
outside the class. The source is first moved to the last id of its class, unless it starts there; it
does not stand a stride below the largest word, which would be in the class then. -/
theorem exists_run_outside {n i : UInt64} {limit : DatumId} (hpos : 0 < n.toNat)
    (hfit : (n.toNat : Int) ≤ topId) (hi : i.toNat < n.toNat) (bound : limit.toInt = topId)
    (outside : topId % n.toNat ≠ i.toNat) :
    ∃ calls f issued id, (∀ c ∈ calls, Proper n c) ∧ (new n limit).run calls = .ok (f, issued) ∧
      (i, id) ∈ issued ∧ id.toInt = topId := by
  have h : Source n i limit (new n limit i) [] := Source.new hfit hi
  have start_le := Int64.toInt_le_topId (new n limit i).next
  have past := topId_lt_lastId_add (i := i) hpos
  have last_le := lastId_le (i := i) hpos
  have aligned : InClass n i (new n limit i).next := by
    cases h.stage with
    | aligned next _ _ => exact next
    | spent _ _ _ last _ => simp at last
    | exhausted below _ =>
      rw [Int64.lt_iff_toInt_lt] at below
      change limit.toInt < _ at below
      omega
  rcases Int.lt_trichotomy (new n limit i).next.toInt (lastId n i) with less | same | more
  · obtain ⟨skipped, proper, call, h'⟩ := call_reserve_last hpos hi h aligned less
    have positive := h.positive
    obtain ⟨f, issued, id, hrun, hmem, top⟩ := run_overrun
      (f := (new n limit).set i { new n limit i with next := Int64.ofInt (lastId n i) }) hpos
      (by rw [set_self]; exact h')
      (by rw [set_self]; exact toInt_ofInt_of_nonneg (by omega) last_le)
      (by rw [set_self]; exact bound) outside hi
    refine ⟨_, f, _, id, ?_, run_cons call hrun, by simpa using hmem, top⟩
    intro c hc
    simp only [List.mem_cons, List.not_mem_nil, or_false] at hc
    rcases hc with rfl | rfl | rfl
    · exact proper
    · exact hi
    · exact hi
  · obtain ⟨f, issued, id, hrun, hmem, top⟩ := run_overrun hpos h same bound outside hi
    refine ⟨_, f, issued, id, ?_, hrun, hmem, top⟩
    intro c hc
    simp only [List.mem_cons, List.not_mem_nil, or_false, or_self] at hc
    obtain rfl := hc
    exact hi
  · have := InClass.add_le (lastId_emod hi) aligned more
    omega

end IdSources

/-! ## The partition -/

/-- The ids are shared out by residue: each is in the class of the server that handed it out, which
is its owner, and no two servers handed out the same id. -/
def Partitioned (t : Topology) (issued : List (UInt64 × DatumId)) : Prop :=
  (∀ p ∈ issued, InClass t.servers p.1 p.2 ∧ t.owner p.2 = t.serverRank p.1) ∧
    ∀ p ∈ issued, ∀ q ∈ issued, p.2 = q.2 → p.1 = q.1

/-- Ids in the classes of their servers are shared out by residue. -/
theorem Partitioned.of_inClass {t : Topology} {issued : List (UInt64 × DatumId)}
    (hpos : 0 < t.servers.toNat) (hfit : (t.servers.toNat : Int) ≤ topId)
    (h : ∀ p ∈ issued, InClass t.servers p.1 p.2) : Partitioned t issued := by
  refine ⟨fun p hp => ⟨h p hp, owner_of_inClass hpos hfit (h p hp)⟩, fun p hp q hq e => ?_⟩
  have hp' := h p hp
  have hq' := h q hq
  rw [InClass, e, hq'] at hp'
  exact UInt64.toNat_inj.1 (by omega)

/-- What a sound run has handed out: ids of the classes, and the largest word once it is the limit
and the class of its source has run out. -/
theorem IdSources.Sound.issued {n : UInt64} {limit : DatumId} {f : IdSources}
    {issued : List (UInt64 × DatumId)} (h : Sound n limit f issued) :
    ∀ p ∈ issued, InClass n p.1 p.2 ∨
      p.2.toInt = topId ∧ limit.toInt = topId ∧
        ∃ q ∈ issued, q.1 = p.1 ∧ q.2.toInt = lastId n p.1 := by
  rintro ⟨i, id⟩ hp
  have hid : id ∈ idsOf i issued := mem_idsOf.2 hp
  cases (h.1 i (h.2 _ hp)).stage with
  | aligned _ _ issued => exact .inl (issued id hid)
  | spent _ _ _ _ issued => exact .inl (issued id hid)
  | exhausted _ issued =>
    rcases issued id hid with own | ⟨top, bound, id', hid', last⟩
    · exact .inl own
    · exact .inr ⟨top, bound, (i, id'), mem_idsOf.1 hid', rfl, last⟩

/-- **When the ids are shared out by residue.** Whatever proper calls the servers make, in whatever
order, no call faults, and each id handed out is in the class of its server, except for the largest
word, which a server hands out past the last id of its class if it is the limit. So the ids are
shared out by residue in every run exactly if the limit is below the largest word or there is only
one server. -/
theorem ids_partitioned_iff (t : Topology) (limit : DatumId) (hpos : 0 < t.servers.toNat)
    (hfit : (t.servers.toNat : Int) ≤ topId) :
    (∀ calls, (∀ c ∈ calls, IdSources.Proper t.servers c) →
      ∃ f issued, (IdSources.new t.servers limit).run calls = .ok (f, issued) ∧
        ∀ p ∈ issued, InClass t.servers p.1 p.2 ∧ t.owner p.2 = t.serverRank p.1 ∨
          p.2.toInt = topId ∧ limit.toInt = topId ∧
            ∃ q ∈ issued, q.1 = p.1 ∧ q.2.toInt = lastId t.servers p.1) ∧
    ((∀ calls, (∀ c ∈ calls, IdSources.Proper t.servers c) →
        ∃ f issued, (IdSources.new t.servers limit).run calls = .ok (f, issued) ∧
          Partitioned t issued) ↔
      limit.toInt < topId ∨ t.servers = 1) := by
  have start := IdSources.Sound.new limit hfit
  have hlimit := Int64.toInt_le_topId limit
  refine ⟨fun calls proper => ?_, ?_, ?_⟩
  · obtain ⟨f, issued, hrun, hsound⟩ := start.run hpos calls proper
    refine ⟨f, issued, hrun, fun p hp => ?_⟩
    rcases hsound.issued p hp with own | past
    · exact .inl ⟨own, owner_of_inClass hpos hfit own⟩
    · exact .inr past
  · intro all
    refine Decidable.byContradiction fun hnot => ?_
    rw [not_or] at hnot
    -- with two servers or more, the largest word is outside the class of one of the first two
    obtain ⟨i, hi, outside⟩ : ∃ i : UInt64, i.toNat < t.servers.toNat ∧
        topId % t.servers.toNat ≠ i.toNat := by
      have two : 1 < t.servers.toNat := by
        have ne_one : t.servers.toNat ≠ 1 := fun e => hnot.2 (UInt64.toNat_inj.1 e)
        omega
      by_cases zero : topId % t.servers.toNat = 0
      · exact ⟨1, two, by rw [zero]; decide⟩
      · exact ⟨0, hpos, zero⟩
    have bound : limit.toInt = topId := by omega
    obtain ⟨calls, f, issued, id, proper, hrun, hmem, top⟩ :=
      IdSources.exists_run_outside hpos hfit hi bound outside
    obtain ⟨f', issued', hrun', partitioned⟩ := all calls proper
    rw [hrun] at hrun'
    obtain ⟨rfl, rfl⟩ := Prod.mk.inj (Except.ok.inj hrun')
    have own := (partitioned.1 _ hmem).1
    rw [InClass, top] at own
    exact outside own
  · intro room calls proper
    obtain ⟨f, issued, hrun, hsound⟩ := start.run hpos calls proper
    refine ⟨f, issued, hrun, .of_inClass hpos hfit fun p hp => ?_⟩
    rcases hsound.issued p hp with own | ⟨-, bound, -⟩
    · exact own
    · rcases room with room | one
      · omega
      · have hp' := hsound.2 p hp
        rw [InClass, one] at *
        simp only [UInt64.reduceToNat] at hp' ⊢
        omega

/-- The partition of two servers whose ids end at a thousand. -/
theorem ids_partitioned_two : 0 < (⟨2, 2⟩ : Topology).servers.toNat ∧
    (((⟨2, 2⟩ : Topology).servers.toNat : Int) ≤ topId) ∧
    ∀ calls, (∀ c ∈ calls, IdSources.Proper 2 c) →
      ∃ f issued, (IdSources.new 2 1000).run calls = .ok (f, issued) ∧ Partitioned ⟨2, 2⟩ issued :=
  ⟨by decide, by decide, (ids_partitioned_iff ⟨2, 2⟩ 1000 (by decide) (by decide)).2.2
    (.inl (by decide))⟩

end WorkPool
