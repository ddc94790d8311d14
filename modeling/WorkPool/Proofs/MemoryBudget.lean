import WorkPool.MemoryBudget
import WorkPool.Proofs.Result

/-!
# What a memory budget counts

A budget is **sound** if the use lies within its bounds and nothing was ever given back that was
not in use. Growth and shrinking that were granted keep it sound and change the use by exactly
the difference (`Sound.resize`), if what is replaced was in use before.

Growth that was refused leaves the use as it was, which is `Holds`.
-/

namespace WorkPool

namespace MemoryBudget

variable {b b' : MemoryBudget} {n old new : Nat}

/-- The use is within its bounds, and all that was given back was in use. -/
structure Sound (b : MemoryBudget) : Prop where
  used_le : b.used ≤ b.peak
  peak_le : b.peak ≤ b.limit
  overdrawn : b.overdrawn = 0

/-- As many bytes are in use as before. -/
structure Holds (b b' : MemoryBudget) : Prop where
  limit : b'.limit = b.limit
  used : b'.used = b.used
  overdrawn : b'.overdrawn = b.overdrawn
  /-- and there were no more in between -/
  peak : b.used ≤ b.peak → b'.peak = b.peak

theorem Holds.refl (b : MemoryBudget) : b.Holds b := ⟨rfl, rfl, rfl, fun _ => rfl⟩

theorem Holds.trans {b'' : MemoryBudget} (h : b.Holds b') (h' : b'.Holds b'') : b.Holds b'' := by
  refine ⟨h'.limit.trans h.limit, h'.used.trans h.used, h'.overdrawn.trans h.overdrawn, ?_⟩
  intro bounded
  rw [← h.peak bounded]
  apply h'.peak
  rw [h.used, h.peak bounded]
  exact bounded

theorem Holds.sound (h : b.Holds b') (hb : b.Sound) : b'.Sound := by
  have peak := h.peak hb.used_le
  refine ⟨?_, ?_, h.overdrawn.trans hb.overdrawn⟩
  · rw [h.used, peak]
    exact hb.used_le
  · rw [peak, h.limit]
    exact hb.peak_le

/-- Of a sound budget that holds, only the number of refusals can have changed. -/
theorem Holds.eq (h : b.Holds b') (hb : b.Sound) :
    b' = { b with violations := b'.violations } := by
  have peak := h.peak hb.used_le
  obtain ⟨limit, used, overdrawn, -⟩ := h
  cases b
  cases b'
  simp_all

/-- A new budget is sound. -/
theorem sound_new (limit : Nat) : ({ limit } : MemoryBudget).Sound :=
  ⟨Nat.le_refl 0, Nat.zero_le limit, rfl⟩

/-! ## Growth -/

theorem allocate_granted (h : b.allocate n = .ok (b', .ok ())) :
    b' = { b with used := b.used + n, peak := max b.peak (b.used + n) } ∧
      b.used + n ≤ b.limit := by
  obtain ⟨total, htotal, h⟩ := bind_eq_ok h
  cases Checked.addSize_eq_ok htotal
  split at h
  · cases h
  · rename_i room
    cases h
    exact ⟨rfl, Nat.le_of_not_lt room⟩

/-- Growth that was refused is noted, and no more. -/
theorem allocate_refused_eq {e : Error} (h : b.allocate n = .ok (b', .error e)) :
    b' = { b with violations := b.violations + 1 } := by
  obtain ⟨total, -, h⟩ := bind_eq_ok h
  split at h
  · cases h
    rfl
  · cases h

theorem allocate_refused {e : Error} (h : b.allocate n = .ok (b', .error e)) : b.Holds b' := by
  rw [allocate_refused_eq h]
  exact ⟨rfl, rfl, rfl, fun _ => rfl⟩

theorem allocate_zero (h : b.allocate 0 = .ok (b', .ok ())) : b.Holds b' := by
  obtain ⟨rfl, -⟩ := allocate_granted h
  exact ⟨rfl, rfl, rfl, Nat.max_eq_left⟩

/-- Growth by nothing is refused to nobody. -/
theorem Sound.allocate_zero {r : Except Error Unit} (hb : b.Sound)
    (h : b.allocate 0 = .ok (b', r)) : r = .ok () := by
  obtain ⟨total, htotal, h⟩ := bind_eq_ok h
  cases Checked.addSize_eq_ok htotal
  have room : ¬ b.limit < b.used + 0 := Nat.not_lt.2 (Nat.le_trans hb.used_le hb.peak_le)
  rw [if_neg room] at h
  cases h
  rfl

theorem Sound.allocate (hb : b.Sound) (h : b.allocate n = .ok (b', .ok ())) :
    b'.Sound ∧ b'.used = b.used + n ∧ b'.limit = b.limit := by
  obtain ⟨rfl, room⟩ := allocate_granted h
  refine ⟨⟨Nat.le_max_right _ _, ?_, hb.overdrawn⟩, rfl, rfl⟩
  exact Nat.max_le.2 ⟨hb.peak_le, room⟩

/-! ## Shrinking -/

/-- Bytes in use are given back in full. -/
theorem Sound.release (hb : b.Sound) (covered : n ≤ b.used) :
    (b.release n).Sound ∧ (b.release n).used + n = b.used := by
  have used : (b.release n).used = b.used - n := rfl
  have overdrawn : (b.release n).overdrawn = b.overdrawn + (n - b.used) := rfl
  refine ⟨⟨?_, hb.peak_le, ?_⟩, ?_⟩
  · exact Nat.le_trans (Nat.sub_le _ _) hb.used_le
  · rw [overdrawn, hb.overdrawn, Nat.sub_eq_zero_of_le covered]
  · rw [used]
    exact Nat.sub_add_cancel covered

@[simp] theorem release_zero (b : MemoryBudget) : b.release 0 = b := by
  simp only [release, Nat.sub_zero, Nat.zero_sub, Nat.add_zero]

@[simp] theorem resize_self (b : MemoryBudget) (n : Nat) : b.resize n n = .ok (b, .ok ()) := by
  simp only [resize, Nat.lt_irrefl, if_false, Nat.sub_self, release_zero]

theorem resize_refused_eq {e : Error} (h : b.resize old new = .ok (b', .error e)) :
    b' = { b with violations := b.violations + 1 } := by
  unfold resize at h
  split at h
  · exact allocate_refused_eq h
  · cases h

theorem resize_refused {e : Error} (h : b.resize old new = .ok (b', .error e)) :
    b.Holds b' := by
  rw [resize_refused_eq h]
  exact ⟨rfl, rfl, rfl, fun _ => rfl⟩

/-- **A use of other size** takes the place of one that was counted. -/
theorem Sound.resize (hb : b.Sound) (covered : old ≤ b.used)
    (h : b.resize old new = .ok (b', .ok ())) :
    b'.Sound ∧ b'.used + old = b.used + new ∧ b'.limit = b.limit := by
  unfold MemoryBudget.resize at h
  split at h
  · rename_i grows
    obtain ⟨sound, used, limit⟩ := hb.allocate h
    exact ⟨sound, by omega, limit⟩
  · rename_i shrinks
    cases h
    obtain ⟨sound, used⟩ := hb.release (n := old - new) (by omega)
    exact ⟨sound, by omega, rfl⟩

/-! ## No difference is out of range -/

theorem allocate_ne_subtractOverflow (b : MemoryBudget) (n : Nat) :
    b.allocate n ≠ .error .subtractOverflow := by
  refine bind_ne_error (Checked.addSize_ne_subtractOverflow _ _) fun total _ => ?_
  split <;> simp

theorem resize_ne_subtractOverflow (b : MemoryBudget) (old new : Nat) :
    b.resize old new ≠ .error .subtractOverflow := by
  unfold MemoryBudget.resize
  split
  · exact allocate_ne_subtractOverflow _ _
  · simp

end MemoryBudget

end WorkPool
