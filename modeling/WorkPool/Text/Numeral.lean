/-!
# Numerals: words written in digits

A numeral is a sign, where one is allowed, and at least one digit of a base. It reads
as a word if its value fits that word, and as nothing otherwise.
-/

namespace WorkPool

namespace Numeral

/-- The value of a digit in bases up to sixteen. -/
def digit? (c : Char) : Option Nat :=
  if '0' ≤ c ∧ c ≤ '9' then some (c.toNat - '0'.toNat)
  else if 'a' ≤ c ∧ c ≤ 'f' then some (c.toNat - 'a'.toNat + 10)
  else if 'A' ≤ c ∧ c ≤ 'F' then some (c.toNat - 'A'.toNat + 10)
  else none

/-- Append digits to a number. -/
def extend? (base : Nat) : Nat → List Char → Option Nat
  | n, [] => some n
  | n, c :: cs =>
    match digit? c with
    | some d => if d < base then extend? base (n * base + d) cs else none
    | none => none

/-- The number written by one or more digits. -/
def natural? (base : Nat) : List Char → Option Nat
  | [] => none
  | cs => extend? base 0 cs

/-- The number written by digits after an optional sign. -/
def integer? (base : Nat) : List Char → Option Int
  | '-' :: cs => (natural? base cs).map fun n => -(n : Int)
  | '+' :: cs => (natural? base cs).map Int.ofNat
  | cs => (natural? base cs).map Int.ofNat

/-- The signed word that a numeral writes. -/
def signed? (base : Nat) (cs : List Char) : Option Int64 :=
  match integer? base cs with
  | some n =>
    if Int64.minValue.toInt ≤ n ∧ n ≤ Int64.maxValue.toInt then some (Int64.ofInt n) else none
  | none => none

/-- The unsigned word that a numeral writes; a minus sign is not allowed. -/
def unsigned? (base : Nat) : List Char → Option UInt64
  | '-' :: _ => none
  | cs =>
    match integer? base cs with
    | some n => if n.toNat < UInt64.size then some (UInt64.ofNat n.toNat) else none
    | none => none

end Numeral

end WorkPool
