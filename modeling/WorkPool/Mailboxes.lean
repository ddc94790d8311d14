import WorkPool.Fault
import WorkPool.Message

/-!
# Mailboxes: how messages reach a rank

Every rank of a run has a mailbox, which keeps encoded messages in the order in which
they were put in. A mailbox can be **closed**, after which nothing more is put in but
what it holds is still taken out; and its reader can **leave**, after which nothing is
taken out either.

* `Mailboxes.deliver` — put bytes into a mailbox, or tell why that cannot be done.
* `Mailboxes.receive` — take the oldest message out.
* `frames_deliver` — a delivery appends to the addressed mailbox.
-/

namespace WorkPool

/-- Bytes in a mailbox. -/
structure Frame where
  /-- the rank they came from -/
  source : Rank
  /-- an encoded message, or what was sent in place of one -/
  bytes : Bytes
  deriving DecidableEq

/-- The mailbox of one rank. -/
structure Mailbox where
  /-- what waits to be taken out, oldest first -/
  frames : List Frame := []
  /-- whether frames may be put in -/
  isOpen : Bool := true
  /-- whether there is somebody to take them out -/
  hasReader : Bool := true
  deriving DecidableEq

/-- The mailboxes of a run. -/
structure Mailboxes where
  /-- how many ranks there are -/
  size : UInt64
  /-- the mailbox of each of them -/
  boxes : Table Rank Mailbox

/-- The mailbox is empty and nothing more is put in. -/
def Error.mailboxClosed : Error := .transport "mailbox closed"

/-- What a look into a mailbox shows. -/
inductive Received where
  /-- the oldest frame, which was taken out and decoded -/
  | frame (source : Rank) (content : Except Error Message)
  /-- nothing waits yet -/
  | nothing
  /-- nothing waits, and nothing will come -/
  | closed
  /-- the reader has left -/
  | departed

namespace Mailboxes

/-- How many bytes a mailbox takes up. -/
def boxBytes : Nat := 32

/-- Empty mailboxes for so many ranks, if there is room for them. -/
def new (size : UInt64) : Except Fault Mailboxes := do
  Checked.room size boxBytes
  return ⟨size, .ofList ((ranksBelow size).map fun r => (r, {}))⟩

variable (m : Mailboxes)

/-- Change the mailbox of a rank, if there is one. -/
def update (r : Rank) (change : Mailbox → Mailbox) : Mailboxes :=
  match m.boxes.find? r with
  | some box => { m with boxes := m.boxes.insert r (change box) }
  | none => m

/-- What waits for a rank, oldest first. -/
def frames (r : Rank) : List Frame :=
  match m.boxes.find? r with
  | some box => box.frames
  | none => []

/-- Whether the reader of a rank's mailbox is there. -/
def hasReader (r : Rank) : Bool :=
  match m.boxes.find? r with
  | some box => box.hasReader
  | none => false

/-- Put a frame into the mailbox of a rank. -/
def deliver (dest : Rank) (f : Frame) : Except Error Mailboxes :=
  match m.boxes.find? dest with
  | some box =>
    if !box.isOpen then .error (.transport s!"no mailbox for rank {dest}")
    else if !box.hasReader then .error (.transport s!"rank {dest} has left the run")
    else .ok { m with boxes := m.boxes.insert dest { box with frames := box.frames ++ [f] } }
  | none => .error (.transport s!"no mailbox for rank {dest}")

/-- Send a message from one rank to another. -/
def send (source dest : Rank) (message : Message) : Except Error Mailboxes :=
  m.deliver dest ⟨source, Wire.encode message⟩

/-- Take the oldest frame out of the mailbox of a rank. -/
def receive (r : Rank) : Mailboxes × Received :=
  match m.boxes.find? r with
  | some ⟨_, _, false⟩ | none => (m, .departed)
  | some ⟨[], isOpen, true⟩ => (m, if isOpen then .nothing else .closed)
  | some ⟨f :: rest, isOpen, true⟩ =>
    ({ m with boxes := m.boxes.insert r ⟨rest, isOpen, true⟩ },
      .frame f.source (Message.ofBytes f.bytes))

/-- Close the mailbox of a rank. -/
def close (r : Rank) : Mailboxes := m.update r fun box => { box with isOpen := false }

/-- The reader of a mailbox leaves, and what it held is lost. -/
def depart (r : Rank) : Mailboxes :=
  m.update r fun box => { box with frames := [], hasReader := false }

/-! ## What a delivery does -/

/-- **A delivery appends.** What was put into the addressed mailbox comes after all it held. -/
theorem frames_deliver {dest : Rank} {f : Frame} {m' : Mailboxes} (h : m.deliver dest f = .ok m') :
    m'.frames dest = m.frames dest ++ [f] := by
  unfold deliver at h
  split at h
  · rename_i box hbox
    split at h
    · cases h
    split at h
    · cases h
    cases h
    simp [frames, hbox]
  · cases h

/-- **A delivery touches one mailbox.** -/
theorem frames_deliver_ne {dest r : Rank} {f : Frame} {m' : Mailboxes}
    (h : m.deliver dest f = .ok m') (hr : r ≠ dest) : m'.frames r = m.frames r := by
  unfold deliver at h
  split at h
  · split at h
    · cases h
    split at h
    · cases h
    cases h
    simp [frames, Table.find?_insert_ne _ hr]
  · cases h

end Mailboxes

end WorkPool
