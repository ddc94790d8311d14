import WorkPool.Basic
import WorkPool.Table

/-!
# The wire format

A value on the wire is a run of bytes with nothing around it: the reader knows from
the type where it ends, and leaves the rest alone.

* words are little-endian and of fixed width, a flag is one byte of value 0 or 1;
* an optional value is one byte of value 0, or of value 1 and the value;
* texts, lists and tables have a 64-bit count in front;
* one of several alternatives has its 32-bit number in front.

A reader refuses a flag, an option byte or a number outside its range, text that is
not UTF-8, and a value with bytes missing. Bytes after the value are not its concern.
A table is written in key order; of two entries for one key the reader keeps the
later one.
-/

namespace WorkPool

/-- The wire format of a type. -/
class Wire (α : Type) where
  /-- the bytes of a value -/
  put : α → Bytes
  /-- the value at the start of some bytes, and the bytes after it -/
  get : Bytes → Option (α × Bytes)

namespace Wire

/-- The bytes of a value. -/
def encode {α : Type} [Wire α] (a : α) : Bytes := put a

/-- The value at the start of some bytes. -/
def decode? {α : Type} [Wire α] (b : Bytes) : Option α := (get b).map (·.1)

/-! ## Words -/

/-- The low bytes of a number, least significant first. -/
def digits : Nat → Nat → Bytes
  | 0, _ => []
  | width + 1, n => UInt8.ofNat (n % 256) :: digits width (n / 256)

/-- The number with the given bytes at the start of some bytes. -/
def readDigits : Nat → Bytes → Option (Nat × Bytes)
  | 0, b => some (0, b)
  | _ + 1, [] => none
  | width + 1, x :: b =>
    (readDigits width b).map fun (n, rest) => (x.toNat + 256 * n, rest)

instance : Wire UInt8 where
  put n := [n]
  get
    | [] => none
    | x :: b => some (x, b)

instance : Wire UInt32 where
  put n := digits 4 n.toNat
  get b := (readDigits 4 b).map fun (n, rest) => (UInt32.ofNat n, rest)

instance : Wire UInt64 where
  put n := digits 8 n.toNat
  get b := (readDigits 8 b).map fun (n, rest) => (UInt64.ofNat n, rest)

instance : Wire Int32 where
  put n := put n.toUInt32
  get b := (get b).map fun (n, rest) => (UInt32.toInt32 n, rest)

instance : Wire Int64 where
  put n := put n.toUInt64
  get b := (get b).map fun (n, rest) => (UInt64.toInt64 n, rest)

instance : Wire Bool where
  put b := [if b then 1 else 0]
  get
    | 0 :: b => some (false, b)
    | 1 :: b => some (true, b)
    | _ => none

/-! ## Composed values -/

instance : Wire Unit where
  put _ := []
  get b := some ((), b)

instance {α β : Type} [Wire α] [Wire β] : Wire (α × β) where
  put p := put p.1 ++ put p.2
  get b := do
    let (x, b) ← get b
    let (y, b) ← get b
    return ((x, y), b)

instance {α : Type} [Wire α] : Wire (Option α) where
  put
    | none => [0]
    | some a => 1 :: put a
  get
    | 0 :: b => some (none, b)
    | 1 :: b => (get b).map fun (a, rest) => (some a, rest)
    | _ => none

/-- So many values, one after the other. -/
def getMany {α : Type} [Wire α] : Nat → Bytes → Option (List α × Bytes)
  | 0, b => some ([], b)
  | n + 1, b => do
    let (x, b) ← get b
    let (xs, b) ← getMany n b
    return (x :: xs, b)

instance {α : Type} [Wire α] : Wire (List α) where
  put l := put (UInt64.ofNat l.length) ++ l.flatMap put
  get b := do
    let (n, b) ← get b
    getMany (UInt64.toNat n) b

instance : Wire String where
  put s := put (textBytes s)
  get b := do
    let (bytes, b) ← get b
    let s ← textOfBytes? bytes
    return (s, b)

instance {κ ν : Type} [Ord κ] [Std.TransOrd κ] [Std.LawfulEqOrd κ] [Wire κ] [Wire ν] :
    Wire (Table κ ν) where
  put t := put t.entries
  get b := (get b).map fun (entries, rest) => (Table.ofList entries, rest)

/-- A type with the wire format of another one. -/
abbrev via {α β : Type} [Wire β] (view : α → β) (make : β → α) : Wire α where
  put a := put (view a)
  get b := (get b).map fun (x, rest) => (make x, rest)

/-! ## Alternatives -/

/-- The number of an alternative, followed by its content. -/
def alternative {α : Type} [Wire α] (number : UInt32) (content : α) : Bytes :=
  put number ++ put content

/-- The number of an alternative. -/
def getNumber (b : Bytes) : Option (UInt32 × Bytes) := get b

/-- Read the content of an alternative. -/
def content {α β : Type} [Wire β] (make : β → α) (b : Bytes) : Option (α × Bytes) :=
  (get b).map fun (x, rest) => (make x, rest)

end Wire

end WorkPool
