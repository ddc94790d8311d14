/-!
# The words of the pool

Everything in a run is addressed by machine words: processes by rank, data by id,
work by type. The widths are those of the wire, so a message holds exactly what a
word can hold.
-/

namespace WorkPool

/-- The number of a process of the run, worker or server. -/
abbrev Rank := UInt64

/-- The global id of a datum. -/
abbrev DatumId := Int64

/-- The id that stands for "no id yet". -/
def nullId : DatumId := 0

/-- The label a unit of work is queued and asked for under. -/
abbrev WorkType := Int32

/-- Raw content: payloads, members and encoded messages. -/
abbrev Bytes := List UInt8

/-- The UTF-8 bytes of a text. -/
def textBytes (s : String) : Bytes := s.toByteArray.toList

/-- The text with the given UTF-8 bytes, if they are valid. -/
def textOfBytes? (b : Bytes) : Option String := String.fromUTF8? ⟨b.toArray⟩

/-- The ranks from zero up to a bound. -/
def ranksBelow (n : UInt64) : List Rank := (List.range n.toNat).map UInt64.ofNat

/-- Three numbers that name a release. -/
structure Version where
  /-- the number that changes with the interface -/
  major : Nat
  /-- the number that changes with what is offered -/
  minor : Nat
  /-- the number that changes with corrections -/
  revision : Nat
  deriving DecidableEq

/-- The release this library implements. -/
def version : Version := ⟨0, 3, 0⟩

/-- A release in dotted form. -/
def Version.text (v : Version) : String := s!"{v.major}.{v.minor}.{v.revision}"

end WorkPool
