/-!
# Faults: results that do not fit

Ranks, sizes and counters are machine words. An operation whose exact result does
not fit its word, or that divides by zero, has no answer: it **faults**. So does the
making of a list that no memory could hold. A fault is
kept apart from an `Error`: an error is an answer that a caller can act on, while a
fault ends the computation it arises in.

* `Fault` — the causes and their wording.
* `Checked` — sums, differences and remainders of words, exact or a fault, and room for lists.

Every checked operation returns the exact result whenever it returns at all, which
is what the lemmas beside the definitions say.
-/

namespace WorkPool

/-- Why a computation has no result. -/
inductive Fault where
  /-- a sum does not fit its word -/
  | addOverflow
  /-- a difference does not fit its word -/
  | subtractOverflow
  /-- a remainder by zero -/
  | zeroDivisor
  /-- a remainder whose quotient does not fit its word -/
  | quotientOverflow
  /-- a list has more items than memory can hold -/
  | capacityOverflow
  deriving DecidableEq

/-- The wording of a fault. -/
def Fault.message : Fault → String
  | .addOverflow => "attempt to add with overflow"
  | .subtractOverflow => "attempt to subtract with overflow"
  | .zeroDivisor => "attempt to calculate the remainder with a divisor of zero"
  | .quotientOverflow => "attempt to calculate the remainder with overflow"
  | .capacityOverflow => "capacity overflow"

namespace Checked

/-- The number of values of a 64-bit word. -/
def wordSize : Nat := UInt64.size

/-- The number of values of a 32-bit word. -/
def halfSize : Nat := UInt32.size

/-! ## Unsigned words -/

/-- The exact sum of two words. -/
def add (a b : UInt64) : Except Fault UInt64 :=
  if a.toNat + b.toNat < wordSize then .ok (a + b) else .error .addOverflow

/-- The exact difference of two words. -/
def sub (a b : UInt64) : Except Fault UInt64 :=
  if b ≤ a then .ok (a - b) else .error .subtractOverflow

/-- The remainder of a division of words. -/
def rem (a b : UInt64) : Except Fault UInt64 :=
  if b = 0 then .error .zeroDivisor else .ok (a % b)

/-- The exact sum of two reference counts. -/
def addCount (a b : UInt32) : Except Fault UInt32 :=
  if a.toNat + b.toNat < halfSize then .ok (a + b) else .error .addOverflow

/-- The exact difference of two reference counts. -/
def subCount (a b : UInt32) : Except Fault UInt32 :=
  if b ≤ a then .ok (a - b) else .error .subtractOverflow

/-- A sum of sizes that has to fit a word. -/
def addSize (a b : Nat) : Except Fault Nat :=
  if a + b < wordSize then .ok (a + b) else .error .addOverflow

/-- The exact difference of two sizes. -/
def subSize (a b : Nat) : Except Fault Nat :=
  if b ≤ a then .ok (a - b) else .error .subtractOverflow

/-- The exact sum of a list of words. -/
def sum : List UInt64 → Except Fault UInt64
  | words => words.foldlM add 0

/-! ## Signed words -/

/-- Whether an integer is a signed 64-bit word. -/
def fitsSigned (n : Int) : Bool := Int64.minValue.toInt ≤ n && n ≤ Int64.maxValue.toInt

/-- The exact sum of two signed words. -/
def addSigned (a b : Int64) : Except Fault Int64 :=
  if fitsSigned (a.toInt + b.toInt) then .ok (Int64.ofInt (a.toInt + b.toInt))
  else .error .addOverflow

/-- The exact difference of two signed words. -/
def subSigned (a b : Int64) : Except Fault Int64 :=
  if fitsSigned (a.toInt - b.toInt) then .ok (Int64.ofInt (a.toInt - b.toInt))
  else .error .subtractOverflow

/-- The remainder of a signed division that lies between zero and the size of the divisor. The
division itself has to have an answer, which the least word divided by minus one has not. -/
def residue (a b : Int64) : Except Fault Int64 :=
  if b = 0 then .error .zeroDivisor
  else if a = Int64.minValue ∧ b.toInt = -1 then .error .quotientOverflow
  else .ok (Int64.ofInt (a.toInt % b.toInt))

/-! ## Lists -/

/-- The most bytes that a list can take up. -/
def memorySize : Nat := wordSize / 2 - 1

/-- Check that a list can be made of so many items, each of which takes up so many bytes. -/
def room (items : UInt64) (bytes : Nat) : Except Fault Unit :=
  if items.toNat * bytes ≤ memorySize then .ok () else .error .capacityOverflow

/-! ## What a result says -/

theorem add_eq_ok {a b c : UInt64} (h : add a b = .ok c) : c.toNat = a.toNat + b.toNat := by
  unfold add at h
  split at h
  · rename_i fits
    cases h
    rw [UInt64.toNat_add]
    exact Nat.mod_eq_of_lt fits
  · cases h

theorem addCount_eq_ok {a b c : UInt32} (h : addCount a b = .ok c) :
    c.toNat = a.toNat + b.toNat := by
  unfold addCount at h
  split at h
  · rename_i fits
    cases h
    rw [UInt32.toNat_add]
    exact Nat.mod_eq_of_lt fits
  · cases h

/-- A count that is not zero does not become zero by adding to it. -/
theorem addCount_ne_zero {a b c : UInt32} (h : addCount a b = .ok c) (ha : a ≠ 0) : c ≠ 0 := by
  have sum := addCount_eq_ok h
  rintro rfl
  exact ha (UInt32.toNat_inj.1 (Nat.eq_zero_of_add_eq_zero_right sum.symm))

theorem addSize_eq_ok {a b c : Nat} (h : addSize a b = .ok c) : c = a + b := by
  unfold addSize at h
  split at h <;> cases h
  rfl

theorem subSize_eq_ok {a b c : Nat} (h : subSize a b = .ok c) : c + b = a := by
  unfold subSize at h
  split at h
  · rename_i enough
    cases h
    exact Nat.sub_add_cancel enough
  · cases h

/-! A sum is not a difference. -/

theorem addCount_ne_subtractOverflow (a b : UInt32) : addCount a b ≠ .error .subtractOverflow := by
  unfold addCount
  split <;> simp

theorem addSize_ne_subtractOverflow (a b : Nat) : addSize a b ≠ .error .subtractOverflow := by
  unfold addSize
  split <;> simp

theorem addSigned_ne_subtractOverflow (a b : Int64) :
    addSigned a b ≠ .error .subtractOverflow := by
  unfold addSigned
  split <;> simp

end Checked

end WorkPool
