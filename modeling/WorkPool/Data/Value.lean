import WorkPool.Error
import WorkPool.Wire

/-!
# Values

A datum is of one of six **kinds**. A `Value` of a kind has a raw byte form
(`toBytes`, `ofBytes`) and a size that counts against the memory budget.

A float is its bit pattern: values are stored, compared and sent by bits, so that
every NaN keeps its payload.
-/

namespace WorkPool

/-- The kinds of data. -/
inductive Kind where
  | integer
  | float
  | string
  | blob
  | file
  | container
  deriving DecidableEq

namespace Kind

/-- The name of a kind. -/
def name : Kind → String
  | .integer => "integer"
  | .float => "float"
  | .string => "string"
  | .blob => "blob"
  | .file => "file"
  | .container => "container"

/-- All kinds, in their order on the wire. -/
def all : List Kind := [.integer, .float, .string, .blob, .file, .container]

/-- The kind with a name. -/
def ofName (s : String) : Except Error Kind :=
  match all.find? fun k => k.name == s with
  | some k => .ok k
  | none => .error (.invalid s!"unknown data type: {s}")

/-- Whether containers may be keyed by a kind. -/
def isSubscriptKind : Kind → Bool
  | .integer | .string => true
  | _ => false

instance : Wire Kind where
  put
    | .integer => Wire.alternative 0 ()
    | .float => Wire.alternative 1 ()
    | .string => Wire.alternative 2 ()
    | .blob => Wire.alternative 3 ()
    | .file => Wire.alternative 4 ()
    | .container => Wire.alternative 5 ()
  get b := do
    let (number, b) ← Wire.getNumber b
    match number with
    | 0 => some (.integer, b)
    | 1 => some (.float, b)
    | 2 => some (.string, b)
    | 3 => some (.blob, b)
    | 4 => some (.file, b)
    | 5 => some (.container, b)
    | _ => none

end Kind

/-- A float of double width, as its bits. -/
structure Binary64 where
  /-- sign, exponent and fraction -/
  bits : UInt64
  deriving DecidableEq

/-- An entry of a container as readers see it. -/
structure Entry where
  /-- the key -/
  subscript : String
  /-- the content, absent while the subscript is only reserved -/
  member : Option Bytes
  deriving DecidableEq

/-- The bytes that an entry holds. -/
def Entry.size (e : Entry) : Nat := e.subscript.utf8ByteSize + (e.member.map List.length).getD 0

/-- The bytes that some entries hold. -/
def Entry.total : List Entry → Nat
  | [] => 0
  | e :: rest => e.size + Entry.total rest

/-- The content of a datum. -/
inductive Value where
  | integer (n : Int64)
  | float (x : Binary64)
  | string (s : String)
  | blob (b : Bytes)
  /-- a file is known by its name -/
  | file (name : String)
  | container (entries : List Entry)
  deriving DecidableEq

instance : Wire Binary64 := Wire.via Binary64.bits Binary64.mk

instance : Wire Entry := Wire.via (fun e => (e.subscript, e.member)) fun p => ⟨p.1, p.2⟩

namespace Value

/-- The kind of a value. -/
def kind : Value → Kind
  | .integer _ => .integer
  | .float _ => .float
  | .string _ => .string
  | .blob _ => .blob
  | .file _ => .file
  | .container _ => .container

/-- The bytes that a value takes of the memory budget. -/
def size : Value → Nat
  | .integer _ | .float _ => 8
  | .string s | .file s => s.utf8ByteSize
  | .blob b => b.length
  | .container entries => Entry.total entries

/-- The raw bytes of a value: little-endian numbers, UTF-8 text, the wire form of entries. -/
def toBytes : Value → Bytes
  | .integer n => Wire.encode n
  | .float x => Wire.encode x
  | .string s | .file s => textBytes s
  | .blob b => b
  | .container entries => Wire.encode entries

/-- The number in exactly eight bytes. -/
def number {α : Type} [Wire α] (kind : Kind) (bytes : Bytes) : Except Error α :=
  if bytes.length = 8 then
    match Wire.decode? bytes with
    | some n => .ok n
    | none => .error .malformed
  else .error (.invalid s!"{kind.name} value must be 8 bytes, got {bytes.length}")

/-- The text in some bytes. -/
def text (kind : Kind) (bytes : Bytes) : Except Error String :=
  match textOfBytes? bytes with
  | some s => .ok s
  | none => .error (.invalid s!"{kind.name} value is not valid UTF-8")

/-- The value of a kind with the given raw bytes. -/
def ofBytes (kind : Kind) (bytes : Bytes) : Except Error Value :=
  match kind with
  | .integer => (number kind bytes).map .integer
  | .float => (number kind bytes).map .float
  | .string => (text kind bytes).map .string
  | .file => (text kind bytes).map .file
  | .blob => .ok (.blob bytes)
  | .container =>
    match Wire.decode? bytes with
    | some entries => .ok (.container entries)
    | none => .error .malformed

instance : Wire Value where
  put
    | .integer n => Wire.alternative 0 n
    | .float x => Wire.alternative 1 x
    | .string s => Wire.alternative 2 s
    | .blob b => Wire.alternative 3 b
    | .file s => Wire.alternative 4 s
    | .container entries => Wire.alternative 5 entries
  get b := do
    let (number, b) ← Wire.getNumber b
    match number with
    | 0 => Wire.content .integer b
    | 1 => Wire.content .float b
    | 2 => Wire.content .string b
    | 3 => Wire.content .blob b
    | 4 => Wire.content .file b
    | 5 => Wire.content .container b
    | _ => none

end Value

end WorkPool
