import WorkPool.Data.Value

/-!
# Floats in decimal

A finite float is written with the fewest digits that read back to it, and among those
with the digits nearest to it; of two equally near ones the greater is taken.

The arithmetic is exact. A float is a whole number of quarter steps of its last binary
place: `a · p / q` with `a` a multiple of four. Decimals between `low · p / q` and
`high · p / q` read back to the float, and the ends do too if its last bit is zero.
For one digit, two digits and so on, the two neighbours of the float among the
decimals with so many digits are tried against that range.

`Decimal.text` decides the form: digits around a point from 0.0001 up to 10¹⁶, and
with an exponent outside; at least one digit stands after a point.
-/

namespace WorkPool

namespace Decimal

/-- The number of fractions with one exponent. -/
def fractions : Nat := 4503599627370496

/-- The number of exponents. -/
def exponents : Nat := 2048

/-- A power of ten. -/
def tens (n : Nat) : Nat := Nat.pow 10 n

/-- A positive float and the range of reals that round to it, in exact numbers. -/
structure Span where
  /-- the float, in quarter steps -/
  value : Nat
  /-- the least real that rounds to it, in quarter steps -/
  low : Nat
  /-- the greatest real that rounds to it, in quarter steps -/
  high : Nat
  /-- whether the ends belong to the range -/
  closed : Bool
  /-- the size of a quarter step, above the line -/
  p : Nat
  /-- the size of a quarter step, below the line -/
  q : Nat

/-- The range of a positive finite float, given by its exponent and fraction fields. A float
whose fraction is zero is nearer to the float below it than to the one above. -/
def Span.ofFields (exponent fraction : Nat) : Span :=
  let m := if exponent = 0 then fraction else fraction + fractions
  let shift : Int := (max exponent 1 : Nat) - 1075 - 2
  { value := 4 * m
    low := if exponent ≠ 0 ∧ fraction = 0 then 4 * m - 1 else 4 * m - 2
    high := 4 * m + 2
    closed := m % 2 = 0
    p := Nat.pow 2 shift.toNat
    q := Nat.pow 2 (-shift).toNat }

namespace Span

variable (s : Span)

/-- Whether the decimal `c · 10 ^ e` lies in the range. -/
def contains (c : Nat) (e : Int) : Bool :=
  let x := c * tens e.toNat * s.q
  let low := s.low * s.p * tens (-e).toNat
  let high := s.high * s.p * tens (-e).toNat
  if s.closed then low ≤ x && x ≤ high else low < x && x < high

/-- The greatest `c` with `c · 10 ^ e` at most the float. -/
def floor (e : Int) : Nat := s.value * s.p * tens (-e).toNat / (tens e.toNat * s.q)

/-- Whether `(c + 1) · 10 ^ e` is at least as near to the float as `c · 10 ^ e`. -/
def upper (c : Nat) (e : Int) : Bool :=
  (2 * c + 1) * tens e.toNat * s.q ≤ 2 * (s.value * s.p * tens (-e).toNat)

/-- The decimal on the grid of step `10 ^ e` that reads back to the float and is nearest to it. -/
def nearest? (e : Int) : Option Nat :=
  let c := s.floor e
  match s.contains c e, s.contains (c + 1) e with
  | true, true => some (if s.upper c e then c + 1 else c)
  | true, false => some c
  | false, true => some (c + 1)
  | false, false => none

/-- The number of digits in front of the point; zero or less for a float below one. -/
def magnitude : Int :=
  let whole := s.floor 0
  if 0 < whole then (Nat.toDigits 10 whole).length
  else match (List.range 400).find? fun i => 0 < s.floor (-(i + 1 : Nat)) with
    | some zeros => -zeros
    | none => 0

/-- The digits of the shortest decimal that reads back, on coarser grids first. -/
def shortest : Nat × Int :=
  let grids := (List.range 17).map fun i => s.magnitude - (i + 1 : Nat)
  match grids.findSome? fun e => (s.nearest? e).map fun c => (c, e) with
  | some r => r
  | none => (s.floor (s.magnitude - 17), s.magnitude - 17)

end Span

/-! ## Text -/

/-- Digits without the zeros at their end. -/
def trim (ds : List Char) : List Char := (ds.reverse.dropWhile (· == '0')).reverse

/-- Digits around a point, where `k` of them stand in front of it. -/
def positional (ds : List Char) (k : Int) : List Char :=
  if k ≤ 0 then ['0', '.'] ++ List.replicate (-k).toNat '0' ++ ds
  else if ds.length ≤ k.toNat then ds ++ List.replicate (k.toNat - ds.length) '0' ++ ['.', '0']
  else ds.take k.toNat ++ ['.'] ++ ds.drop k.toNat

/-- Digits with an exponent, where the point would stand after `k` of them. -/
def scientific (ds : List Char) (k : Int) : List Char :=
  let tail := ds.drop 1
  ds.take 1 ++ (if tail.isEmpty then [] else '.' :: tail) ++ ['e'] ++ (toString (k - 1)).toList

/-- A positive finite float. -/
def positive (exponent fraction : Nat) : List Char :=
  let s := Span.ofFields exponent fraction
  let (c, e) := s.shortest
  let ds := Nat.toDigits 10 c
  let k := ds.length + e
  if -3 ≤ s.magnitude ∧ s.magnitude ≤ 16 then positional (trim ds) k else scientific (trim ds) k

/-- A float in decimal. -/
def text (x : Binary64) : String :=
  let n := x.bits.toNat
  let exponent := n / fractions % exponents
  let fraction := n % fractions
  let sign := if n / (fractions * exponents) = 1 then ['-'] else []
  String.ofList <|
    if exponent + 1 = exponents then
      if fraction = 0 then sign ++ ['i', 'n', 'f'] else ['N', 'a', 'N']
    else if exponent = 0 ∧ fraction = 0 then sign ++ ['0', '.', '0']
    else sign ++ positive exponent fraction

end Decimal

end WorkPool
