import WorkPool.Data.Datum

/-!
# Operations on data

An `Operation` is one thing that a rank can ask the owner of some data to do. Most
name the datum they are about, their **subject**; only asking for a fresh id, or for
a datum under a fresh id, can be addressed to any server.
-/

namespace WorkPool

/-- What can be asked of the owner of some data. -/
inductive Operation where
  /-- make a datum -/
  | create (spec : Spec)
  /-- is the datum live, or the subscript present -/
  | has (id : DatumId) (subscript : Option String)
  /-- set a scalar and give up writers -/
  | store (id : DatumId) (value : Value) (drops : UInt32)
  /-- set a scalar from its raw bytes and give up writers -/
  | storeBytes (id : DatumId) (bytes : Bytes) (drops : UInt32)
  /-- read a whole datum -/
  | retrieve (id : DatumId) (acceptOpen : Bool)
  /-- read a page of a container -/
  | enumerate (id : DatumId) (offset : UInt64) (count : Option UInt64)
  /-- add writers -/
  | addWriters (id : DatumId) (count : UInt32)
  /-- give up writers -/
  | dropWriters (id : DatumId) (count : UInt32)
  /-- add readers -/
  | addReaders (id : DatumId) (count : UInt32)
  /-- give up readers -/
  | dropReaders (id : DatumId) (count : UInt32)
  /-- write a member and give up writers -/
  | insert (id : DatumId) (subscript : String) (member : Bytes) (drops : UInt32)
  /-- reserve a subscript, and tell whether it was free -/
  | reserve (id : DatumId) (subscript : String)
  /-- read a member -/
  | lookup (id : DatumId) (subscript : String)
  /-- wait for a datum to close, or for a subscript -/
  | subscribe (id : DatumId) (subscript : Option String) (token : UInt64)
  /-- wait for a subscript and copy its member into another datum -/
  | refer (id : DatumId) (subscript : String) (reference : Option DatumId) (token : UInt64)
  /-- close an open datum -/
  | close (id : DatumId)
  /-- hand out a fresh id -/
  | unique
  /-- tell the kind of a datum -/
  | kindOf (id : DatumId)
  /-- tell what a container is keyed by -/
  | subscriptKindOf (id : DatumId)
  /-- count the present entries of a container -/
  | sizeOf (id : DatumId)
  /-- take the lock of a datum if it is free -/
  | lock (id : DatumId)
  /-- give the lock of a datum back -/
  | unlock (id : DatumId)
  deriving DecidableEq

namespace Operation

/-- The name of an operation in messages about it. -/
def name : Operation → String
  | .create .. => "create"
  | .has .. => "exists"
  | .store .. => "store"
  | .storeBytes .. => "store_member"
  | .retrieve .. => "retrieve"
  | .enumerate .. => "enumerate"
  | .addWriters .. => "slot_create"
  | .dropWriters .. => "slot_drop"
  | .addReaders .. => "read_incr"
  | .dropReaders .. => "read_decr"
  | .insert .. => "insert"
  | .reserve .. => "insert_atomic"
  | .lookup .. => "lookup"
  | .subscribe .. => "subscribe"
  | .refer .. => "container_reference"
  | .close .. => "close"
  | .unique => "unique"
  | .kindOf .. => "typeof"
  | .subscriptKindOf .. => "container_typeof"
  | .sizeOf .. => "container_size"
  | .lock .. => "lock"
  | .unlock .. => "unlock"

/-- The datum that an operation is about; a datum that is yet to get its id is none. -/
def subject? : Operation → Option DatumId
  | .create spec => if spec.id = nullId then none else some spec.id
  | .unique => none
  | .has id _ | .store id _ _ | .storeBytes id _ _ | .retrieve id _ | .enumerate id _ _
  | .addWriters id _ | .dropWriters id _ | .addReaders id _ | .dropReaders id _
  | .insert id _ _ _ | .reserve id _ | .lookup id _ | .subscribe id _ _ | .refer id _ _ _
  | .close id | .kindOf id | .subscriptKindOf id | .sizeOf id | .lock id | .unlock id => some id

end Operation

end WorkPool
