import WorkPool.Data.Container

/-!
# Data

A **datum** is content under reference counts. It is created from a `Spec`, is open
while it has writers, and closes when the last writer leaves. The content's type
fixes the kind: a scalar slot of one kind never holds a value of another.
-/

namespace WorkPool

/-- What a new datum should be. -/
structure Spec where
  /-- the id, or the null id for a fresh one -/
  id : DatumId
  /-- the kind of content -/
  kind : Kind
  /-- what a container is keyed by -/
  subscriptKind : Option Kind := none
  /-- the name that a file datum starts with -/
  filename : Option String := none
  /-- how many readers there are at first -/
  readers : UInt32 := 1
  /-- how many writers there are at first -/
  writers : UInt32 := 1
  deriving DecidableEq

instance : Wire Spec :=
  Wire.via (fun s => (s.id, s.kind, s.subscriptKind, s.filename, s.readers, s.writers))
    fun (id, kind, subscriptKind, filename, readers, writers) =>
      ⟨id, kind, subscriptKind, filename, readers, writers⟩

namespace Spec

/-- A container keyed by a kind. -/
def container (id : DatumId) (key : Kind) : Spec := { id, kind := .container, subscriptKind := some key }

/-- A file with a name. -/
def file (id : DatumId) (name : String) : Spec := { id, kind := .file, filename := some name }

end Spec

/-- What a datum holds; a scalar holds nothing before its first store. -/
inductive Content where
  | integer (n : Option Int64)
  | float (x : Option Binary64)
  | string (s : Option String)
  | blob (b : Option Bytes)
  | file (name : Option String)
  | container (c : Container)
  deriving DecidableEq

namespace Content

/-- The content of a new datum. -/
def ofSpec (spec : Spec) : Except Error Content :=
  match spec.kind with
  | .integer => .ok (.integer none)
  | .float => .ok (.float none)
  | .string => .ok (.string none)
  | .blob => .ok (.blob none)
  | .file => .ok (.file spec.filename)
  | .container =>
    let key := spec.subscriptKind.getD .string
    if key.isSubscriptKind then .ok (.container { subscriptKind := key })
    else .error (.invalid s!"containers cannot be keyed by {key.name}")

/-- The kind of content. -/
def kind : Content → Kind
  | .integer _ => .integer
  | .float _ => .float
  | .string _ => .string
  | .blob _ => .blob
  | .file _ => .file
  | .container _ => .container

/-- The value of a scalar, if it has one. -/
def scalar? : Content → Option Value
  | .integer n => n.map .integer
  | .float x => x.map .float
  | .string s => s.map .string
  | .blob b => b.map .blob
  | .file s => s.map .file
  | .container _ => none

/-- Set a scalar to a value of its kind. -/
def set : Content → Value → Except Error Content
  | .integer _, .integer n => .ok (.integer (some n))
  | .float _, .float x => .ok (.float (some x))
  | .string _, .string s => .ok (.string (some s))
  | .blob _, .blob b => .ok (.blob (some b))
  | .file _, .file s => .ok (.file (some s))
  | .container _, _ => .error (.invalid "containers are written with insert")
  | content, value =>
    .error (.invalid s!"cannot store {value.kind.name} into {content.kind.name} datum")

/-- The container, if it is one. -/
def container? : Content → Option Container
  | .container c => some c
  | _ => none

/-- The bytes that content takes of the memory budget. -/
def size : Content → Nat
  | .container c => c.bytes
  | content => (content.scalar?.map Value.size).getD 0

end Content

/-- Content under reference counts. -/
structure Datum where
  /-- what it holds -/
  content : Content
  /-- how many may still write -/
  writers : UInt32
  /-- how many may still read -/
  readers : UInt32
  /-- whether it takes no more writes -/
  closed : Bool
  /-- the bytes it was counted with in the memory budget -/
  footprint : Nat
  deriving DecidableEq

end WorkPool
