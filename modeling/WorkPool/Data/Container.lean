import WorkPool.Data.Value
import WorkPool.Table
import WorkPool.Text.Numeral

/-!
# Containers

A container maps subscripts to members and keeps them in the order in which the
subscripts first came. A subscript is **reserved** before its member is written, and
**present** after.

The members are in a table of **slots**, and the order of the subscripts is kept beside
it. What is asked of one subscript is read from its slot, and what is listed follows the
order. A subscript keeps its place for good: writing a member changes a slot, and only a
new subscript adds to the order, at the end.
-/

namespace WorkPool

/-- What a write has done to a container. -/
inductive Inserted where
  /-- it has added the subscript -/
  | new
  /-- it has given a reserved subscript its first member -/
  | filled
  /-- it has put a member in place of another -/
  | replaced
  deriving DecidableEq

/-- Subscripts with their members. -/
structure Container where
  /-- what the subscripts must be -/
  subscriptKind : Kind
  /-- the members; a reserved subscript has a slot without one -/
  slots : Table String (Option Bytes) := {}
  /-- the subscripts, oldest first -/
  order : List String := []
  deriving DecidableEq

namespace Container

variable (c : Container)

/-! ## Reading -/

/-- The entry at a subscript. -/
def find? (s : String) : Option Entry := (c.slots.find? s).map fun member => ⟨s, member⟩

/-- Whether a subscript is present or reserved. -/
def contains (s : String) : Bool := c.slots.contains s

/-- The member at a subscript. -/
def lookup (s : String) : Option Bytes := (c.slots.find? s).join

/-- The bytes of the member at a subscript. -/
def memberBytes (s : String) : Nat := ((c.lookup s).map List.length).getD 0

/-- The number of present entries. -/
def size : Nat := c.slots.values.countP Option.isSome

/-- The present entries, oldest first. -/
def present : List (String × Bytes) :=
  c.order.filterMap fun s => (c.lookup s).map fun m => (s, m)

/-- The present entries from a position on, at most so many. -/
def page (offset : Nat) (count : Option Nat) : List (String × Bytes) :=
  let rest := c.present.drop offset
  match count with
  | some n => rest.take n
  | none => rest

/-- The entries a reader is shown, oldest first. -/
def shown (reserved : Bool) : List Entry :=
  c.order.filterMap fun s => (c.find? s).filter fun e => reserved || e.member.isSome

/-- All entries, reserved ones as well. -/
def entries : List Entry := c.shown true

/-- The bytes that the entries hold. -/
def bytes : Nat := Entry.total c.entries

/-- Accept a subscript of the right kind. -/
def checkSubscript (s : String) : Except Error Unit :=
  if c.subscriptKind = .integer && (Numeral.signed? 10 s.toList).isNone then
    .error (.invalid s!"subscript \"{s}\" is not an integer")
  else .ok ()

/-! ## Writing -/

/-- Write a member; one that is there is replaced only if that is allowed. -/
def insert (s : String) (m : Bytes) (allowOverwrite : Bool) : Except Error (Inserted × Container) :=
  match c.slots.find? s with
  | some (some _) =>
    if allowOverwrite then .ok (.replaced, { c with slots := c.slots.insert s (some m) })
    else .error (.invalid s!"subscript \"{s}\" already present")
  | some none => .ok (.filled, { c with slots := c.slots.insert s (some m) })
  | none =>
    .ok (.new, { c with slots := c.slots.insert s (some m), order := c.order ++ [s] })

/-- Add a subscript without a member, and tell whether it was free. -/
def reserve (s : String) : Bool × Container :=
  if c.contains s then (false, c)
  else (true, { c with slots := c.slots.insert s none, order := c.order ++ [s] })

end Container

end WorkPool
