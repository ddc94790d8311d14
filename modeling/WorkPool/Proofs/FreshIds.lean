import WorkPool.Proofs.IdPartition
import WorkPool.Proofs.Result

/-!
# Fresh ids

An id source moves upward only. It has **passed** an id when it will not hand it out any
more: the next id lies above it, or nothing is handed out at all. An id that is handed out,
or that a caller chose, is passed from then on (`passed_allocate`, `passed_reserve`), so a
fresh id is none that was passed before. A source that hands out nothing has passed all ids, and so
it never hands out any again (`Onward.spent`); until then its limit is the one it had at first
(`Bounded`). No difference that a source forms on the way is out of range
(`allocate_ne_subtractOverflow`, `reserve_ne_subtractOverflow`).
-/

namespace WorkPool

namespace IdSource

/-- A source that moves upward. -/
structure Upward (s : IdSource) : Prop where
  /-- the residue is one -/
  index : 0 ≤ s.index.toInt
  /-- the next id is positive -/
  next : 0 < s.next.toInt
  /-- so is the distance between ids -/
  stride : 0 < s.stride.toInt

/-- The source will not hand out an id. -/
def Passed (s : IdSource) (id : DatumId) : Prop := s.limit < s.next ∨ id < s.next

theorem Passed.mono {s s' : IdSource} {id : DatumId} (h : s.Passed id)
    (hnext : s.next.toInt ≤ s'.next.toInt) (hlimit : s.limit < s.next → s'.limit < s'.next) :
    s'.Passed id := by
  rcases h with spent | below
  · exact .inl (hlimit spent)
  · refine .inr ?_
    rw [Int64.lt_iff_toInt_lt] at below ⊢
    omega

/-- A source has moved on: it is as good as before, and what it had passed stays passed. -/
structure Onward (s s' : IdSource) : Prop where
  upward : s.Upward → s'.Upward
  passed : ∀ j, s.Passed j → s'.Passed j

theorem Onward.refl (s : IdSource) : s.Onward s := ⟨fun h => h, fun _ h => h⟩

theorem Onward.trans {s s' s'' : IdSource} (h : s.Onward s') (h' : s'.Onward s'') :
    s.Onward s'' :=
  ⟨fun hs => h'.upward (h.upward hs), fun j hj => h'.passed j (h.passed j hj)⟩

/-- The source of a server of a run moves upward. -/
theorem upward_new {index servers : UInt64} (limit : DatumId) (hi : index < servers)
    (hn : (servers.toNat : Int) ≤ topId) : (IdSource.new index servers limit).Upward := by
  rw [UInt64.lt_iff_toNat_lt] at hi
  have source : Source servers index limit (IdSource.new index servers limit) [] :=
    Source.new hn hi
  refine ⟨?_, source.positive, ?_⟩
  · rw [source.index]; omega
  · rw [source.stride]; omega

/-- What is handed out is the next id, while there is one. -/
theorem allocate_eq_ok {s s' : IdSource} {id : DatumId} (h : s.allocate = .ok (s', .ok id)) :
    ¬ s.limit < s.next ∧ id = s.next := by
  unfold allocate at h
  split at h
  · cases h
  rename_i unspent
  simp only at h
  split at h
  · obtain ⟨limit, -, h⟩ := bind_eq_ok h
    cases h
    exact ⟨unspent, rfl⟩
  · cases h
    exact ⟨unspent, rfl⟩

/-- While there is a next id, it is handed out. -/
theorem allocate_of_unspent {s : IdSource} (hs : s.Upward) (unspent : ¬ s.limit < s.next) :
    ∃ s', s.allocate = .ok (s', .ok s.next) := by
  by_cases stay : advance s.next s.stride = s.next
  · exact ⟨_, allocate_final hs.next unspent stay⟩
  · exact ⟨_, allocate_granted unspent stay⟩

/-- An id that is handed out was not passed before, and is passed from then on. -/
theorem passed_allocate {s s' : IdSource} {r : Except Error DatumId} (hs : s.Upward)
    (h : s.allocate = .ok (s', r)) :
    s'.Upward ∧ (∀ j, s.Passed j → s'.Passed j) ∧
      ∀ id, r = .ok id → ¬ s.Passed id ∧ s'.Passed id := by
  by_cases spent : s.limit < s.next
  · obtain ⟨e, he⟩ := allocate_refused spent
    rw [he] at h
    cases h
    exact ⟨hs, fun _ hj => hj, fun id hid => nomatch hid⟩
  have fresh : ¬ s.Passed s.next := by
    rintro (hp | hp)
    · exact spent hp
    · exact Int64.lt_irrefl hp
  by_cases stay : advance s.next s.stride = s.next
  · rw [allocate_final hs.next spent stay] at h
    cases h
    have top := Int64.toInt_le_topId s.next
    have ended : Int64.ofInt (s.next.toInt - 1) < s.next := by
      rw [Int64.lt_iff_toInt_lt, toInt_ofInt_of_nonneg (by have := hs.next; omega) (by omega)]
      omega
    refine ⟨⟨hs.index, hs.next, hs.stride⟩, fun j hj => hj.mono (Int.le_refl _) fun _ => ended, ?_⟩
    rintro id ⟨⟩
    exact ⟨fresh, .inl ended⟩
  · rw [allocate_granted spent stay] at h
    cases h
    have moved := advance_toInt hs.next hs.stride
    have top := Int64.toInt_le_topId s.next
    have ne : (advance s.next s.stride).toInt ≠ s.next.toInt := fun e => stay (Int64.toInt.inj e)
    have up : s.next.toInt < (advance s.next s.stride).toInt := by
      have := hs.stride
      split at moved <;> omega
    refine ⟨⟨hs.index, Int.lt_trans hs.next up, hs.stride⟩,
      fun j hj => hj.mono (Int.le_of_lt up) fun h => absurd h spent, ?_⟩
    rintro id ⟨⟩
    exact ⟨fresh, .inr (Int64.lt_iff_toInt_lt.2 up)⟩

/-- The residue of an id is no more than the id, and less than the stride. -/
theorem residue_bounds {id stride r : DatumId} (hstride : 0 < stride.toInt) (hid : 0 ≤ id.toInt)
    (h : Checked.residue id stride = .ok r) :
    0 ≤ r.toInt ∧ r.toInt ≤ id.toInt ∧ r.toInt < stride.toInt := by
  have top := Int64.toInt_le_topId id
  have nonneg := Int.emod_nonneg id.toInt (Int.ne_of_gt hstride)
  have lt := Int.emod_lt_of_pos id.toInt hstride
  have le : id.toInt % stride.toInt ≤ id.toInt := by
    have split := Int.mul_ediv_add_emod id.toInt stride.toInt
    have := Int.mul_nonneg (Int.le_of_lt hstride) (Int.ediv_nonneg hid (Int.le_of_lt hstride))
    omega
  rw [Checked.residue] at h
  split at h
  · cases h
  split at h
  · cases h
  cases h
  rw [toInt_ofInt_of_nonneg nonneg (by omega)]
  exact ⟨nonneg, le, lt⟩

/-- The id that follows another one lies above it. -/
theorem lt_of_following {s : IdSource} {id next : DatumId} (hs : s.Upward) (hid : 0 ≤ id.toInt)
    (h : s.following id = .ok (some next)) : id.toInt < next.toInt := by
  obtain ⟨r, hr, h⟩ := bind_eq_ok h
  obtain ⟨floor, hfloor, h⟩ := bind_eq_ok h
  obtain ⟨base, hbase, h⟩ := bind_eq_ok h
  have stride := hs.stride
  have index := hs.index
  have top := Int64.toInt_le_topId id
  -- no step of the computation overflows, because the residue is at most the id
  obtain ⟨r_nonneg, r_le, r_lt⟩ := residue_bounds stride hid hr
  have floor_eq : floor.toInt = id.toInt - r.toInt := by
    rw [subSigned_eq_ok (by omega) (by omega)] at hfloor
    cases hfloor
    exact toInt_ofInt_of_nonneg (by omega) (by omega)
  have base_eq : base.toInt = floor.toInt + s.index.toInt := by
    rw [addSigned_eq (by omega)] at hbase
    split at hbase
    · cases hbase
      exact toInt_ofInt_of_nonneg (by omega) (by assumption)
    · cases hbase
  split at h
  · rename_i above
    cases h
    exact Int64.lt_iff_toInt_lt.1 above
  · rw [addSigned_eq (by omega)] at h
    split at h
    · cases h
      rw [toInt_ofInt_of_nonneg (by omega) (by assumption)]
      omega
    · cases h

/-- An id that a caller chose is passed from then on. -/
theorem passed_reserve {s s' : IdSource} {id : DatumId} (hs : s.Upward)
    (h : s.reserve id = .ok s') :
    s'.Upward ∧ (∀ j, s.Passed j → s'.Passed j) ∧ s'.Passed id := by
  unfold reserve at h
  split at h
  · rename_i below
    cases h
    exact ⟨hs, fun _ hj => hj, .inr below⟩
  rename_i above
  rw [Int64.lt_iff_toInt_lt] at above
  obtain ⟨found, hfound, h⟩ := bind_eq_ok h
  have positive := hs.next
  cases found with
  | some next =>
    cases h
    have up := lt_of_following hs (by omega) hfound
    refine ⟨⟨hs.index, ?_, hs.stride⟩, fun j hj => hj.mono ?_ fun spent => ?_, .inr ?_⟩
    · show 0 < next.toInt; omega
    · show s.next.toInt ≤ next.toInt; omega
    · show s.limit < next
      rw [Int64.lt_iff_toInt_lt] at spent ⊢
      omega
    · exact Int64.lt_iff_toInt_lt.2 up
  | none =>
    have one : (1 : DatumId).toInt = 1 := rfl
    have top := Int64.toInt_le_topId s.next
    obtain ⟨limit, hlimit, h⟩ := bind_eq_ok h
    rw [subSigned_eq_ok (by rw [one]; omega) (by rw [one]; omega)] at hlimit
    cases hlimit
    cases h
    have ended : Int64.ofInt (s.next.toInt - (1 : DatumId).toInt) < s.next := by
      rw [Int64.lt_iff_toInt_lt, one, toInt_ofInt_of_nonneg (by omega) (by omega)]
      omega
    exact ⟨⟨hs.index, hs.next, hs.stride⟩, fun j hj => hj.mono (Int.le_refl _) fun _ => ended,
      .inl ended⟩

/-! ## The end of the ids -/

/-- A source whose limit lies below its next id has passed all ids, and the other way round. -/
theorem passed_maxValue_iff {s : IdSource} : s.Passed Int64.maxValue ↔ s.limit < s.next := by
  refine ⟨fun h => h.resolve_right fun below => ?_, .inl⟩
  have top := Int64.toInt_le_topId s.next
  rw [Int64.lt_iff_toInt_lt] at below
  rw [topId] at top
  omega

/-- **Exhaustion is for good**: a source that hands out nothing does not when it has moved on. -/
theorem Onward.spent {s s' : IdSource} (h : s.Onward s') (spent : s.limit < s.next) :
    s'.limit < s'.next :=
  passed_maxValue_iff.1 (h.passed _ (passed_maxValue_iff.2 spent))

/-- A source hands out ids up to a limit, or none any more. -/
def Bounded (s : IdSource) (limit : DatumId) : Prop := s.limit = limit ∨ s.limit < s.next

section Bounded

variable {s s' : IdSource} {limit : DatumId}

theorem Bounded.next_le (h : s.Bounded limit) (unspent : ¬ s.limit < s.next) : s.next ≤ limit := by
  rw [← h.resolve_right unspent]
  exact Int64.not_lt.1 unspent

theorem Bounded.allocate {r : Except Error DatumId} (hs : s.Upward) (hb : s.Bounded limit)
    (h : s.allocate = .ok (s', r)) : s'.Bounded limit := by
  by_cases spent : s.limit < s.next
  · obtain ⟨e, he⟩ := allocate_refused spent
    rw [he] at h
    cases h
    exact hb
  obtain ⟨-, -, own⟩ := passed_allocate hs h
  by_cases stay : advance s.next s.stride = s.next
  · rw [allocate_final hs.next spent stay] at h
    cases h
    exact .inr ((own s.next rfl).2.resolve_right Int64.lt_irrefl)
  · rw [allocate_granted spent stay] at h
    cases h
    exact .inl (hb.resolve_right spent)

theorem Bounded.reserve {id : DatumId} (hs : s.Upward) (hb : s.Bounded limit)
    (h : s.reserve id = .ok s') : s'.Bounded limit := by
  obtain ⟨upward, passed, own⟩ := passed_reserve hs h
  have spent := Onward.spent ⟨fun _ => upward, passed⟩
  unfold IdSource.reserve at h
  split at h
  · cases h
    exact hb
  rename_i above
  obtain ⟨found, -, h⟩ := bind_eq_ok h
  cases found with
  | some next =>
    cases h
    exact hb.imp_right spent
  | none =>
    obtain ⟨cut, -, h⟩ := bind_eq_ok h
    cases h
    exact .inr (own.resolve_right above)

end Bounded

/-! ## The number of ids handed out -/

theorem allocate_spent {s : IdSource} (h : s.limit < s.next) :
    s.allocate = .ok (s, .error (.resource "datum_ids" (s.issued + 1) s.issued)) := by
  rw [allocate, if_pos h]
  rfl

theorem issued_allocate {s s' : IdSource} {id : DatumId} (h : s.allocate = .ok (s', .ok id)) :
    s'.issued = s.issued + 1 := by
  rw [allocate, if_neg (allocate_eq_ok h).1] at h
  simp only at h
  split at h
  · obtain ⟨limit, -, h⟩ := bind_eq_ok h
    cases h
    rfl
  · cases h
    rfl

theorem issued_reserve {s s' : IdSource} {id : DatumId} (h : s.reserve id = .ok s') :
    s'.issued = s.issued := by
  unfold reserve at h
  split at h
  · cases h
    rfl
  obtain ⟨found, -, h⟩ := bind_eq_ok h
  cases found with
  | some next =>
    cases h
    rfl
  | none =>
    obtain ⟨cut, -, h⟩ := bind_eq_ok h
    cases h
    rfl

/-! ## No difference is out of range -/

theorem allocate_ne_subtractOverflow {s : IdSource} (hs : s.Upward) :
    s.allocate ≠ .error .subtractOverflow := by
  by_cases spent : s.limit < s.next
  · obtain ⟨e, he⟩ := allocate_refused spent
    simp [he]
  · obtain ⟨s', hs'⟩ := allocate_of_unspent hs spent
    simp [hs']

theorem reserve_ne_subtractOverflow {s : IdSource} (hs : s.Upward) (id : DatumId) :
    s.reserve id ≠ .error .subtractOverflow := by
  unfold reserve
  split
  · simp
  rename_i above
  rw [Int64.lt_iff_toInt_lt] at above
  have positive := hs.next
  have followed : s.following id ≠ .error .subtractOverflow := by
    refine bind_ne_error ?_ fun r hr => ?_
    · unfold Checked.residue
      split
      · simp
      · split <;> simp
    obtain ⟨r_nonneg, r_le, -⟩ := residue_bounds hs.stride (by omega) hr
    have top := Int64.toInt_le_topId id
    refine bind_ne_error ?_ fun floor _ => ?_
    · rw [subSigned_eq_ok (by omega) (by omega)]
      simp
    refine bind_ne_error (Checked.addSigned_ne_subtractOverflow _ _) fun base _ => ?_
    split <;> simp
  refine bind_ne_error followed fun next _ => ?_
  cases next with
  | some next => simp
  | none =>
    have one : (1 : DatumId).toInt = 1 := rfl
    have top := Int64.toInt_le_topId s.next
    refine bind_ne_error ?_ fun limit _ => ?_
    · rw [subSigned_eq_ok (by rw [one]; omega) (by rw [one]; omega)]
      simp
    · simp

end IdSource

end WorkPool
