import WorkPool.Data.Value

/-!
# Notices and subscriptions

A rank may **subscribe** to the closing of a datum or to a subscript of a container,
and is sent one `Notice` when the wait is over. Subscriptions wait in the order in
which they came; `Subscriptions.take` removes those that a given event ends.
-/

namespace WorkPool

/-- What ended a wait. -/
inductive Event where
  /-- the datum closed -/
  | closed
  /-- the subscript received a member -/
  | inserted (member : Bytes)
  /-- the container closed without the subscript -/
  | missing
  deriving DecidableEq

instance : Wire Event where
  put
    | .closed => Wire.alternative 0 ()
    | .inserted member => Wire.alternative 1 member
    | .missing => Wire.alternative 2 ()
  get b := do
    let (number, b) ← Wire.getNumber b
    match number with
    | 0 => some (.closed, b)
    | 1 => Wire.content .inserted b
    | 2 => some (.missing, b)
    | _ => none

/-- What a subscriber is told. -/
structure Notice where
  /-- the datum waited for -/
  id : DatumId
  /-- the subscript waited for, if it was one -/
  subscript : Option String
  /-- the token the subscriber gave -/
  token : UInt64
  /-- what ended the wait -/
  event : Event
  deriving DecidableEq

instance : Wire Notice :=
  Wire.via (fun n => (n.id, n.subscript, n.token, n.event))
    fun (id, subscript, token, event) => ⟨id, subscript, token, event⟩

/-- The answer to a subscription. -/
inductive SubscribeStatus where
  /-- there is nothing to wait for; the member if a subscript was asked for -/
  | satisfied (member : Option Bytes)
  /-- one notice will follow -/
  | pending
  deriving DecidableEq

instance : Wire SubscribeStatus where
  put
    | .satisfied member => Wire.alternative 0 member
    | .pending => Wire.alternative 1 ()
  get b := do
    let (number, b) ← Wire.getNumber b
    match number with
    | 0 => Wire.content .satisfied b
    | 1 => some (.pending, b)
    | _ => none

/-- A wait of one rank. -/
structure Subscription where
  /-- the datum waited for -/
  id : DatumId
  /-- the subscript waited for, if it is one -/
  subscript : Option String
  /-- who waits -/
  rank : Rank
  /-- the token to tell the waits of a rank apart -/
  token : UInt64
  /-- a datum that receives the member as well -/
  reference : Option DatumId
  deriving DecidableEq

/-- The notice that ends a wait. -/
def Subscription.notice (s : Subscription) (event : Event) : Rank × Notice :=
  (s.rank, ⟨s.id, s.subscript, s.token, event⟩)

/-- The waits of a shard, oldest first. -/
abbrev Subscriptions := List Subscription

namespace Subscriptions

/-- Remove the waits that satisfy a test, and return them and the others. -/
def take (subs : Subscriptions) (p : Subscription → Bool) : List Subscription × Subscriptions :=
  (subs.filter p, subs.filter fun s => !p s)

/-- Whether a wait is for the closing of a datum. -/
def onClose (id : DatumId) (s : Subscription) : Bool := s.id == id && s.subscript.isNone

/-- Whether a wait is for a subscript of a container. -/
def onSubscript (id : DatumId) (subscript : String) (s : Subscription) : Bool :=
  s.id == id && s.subscript == some subscript

/-- Whether a wait is for any subscript of a container. -/
def onAnySubscript (id : DatumId) (s : Subscription) : Bool := s.id == id && s.subscript.isSome

/-- Whether somebody waits for a datum. -/
def hasPending (subs : Subscriptions) (id : DatumId) : Bool := subs.any fun s => s.id == id

/-- Waits, those for one subscript together and the older first. Which subscript comes before which
is left open; here the byte order is taken, and what is stated of the notices that follow holds of
them in any order. -/
def bySubscript (subs : List Subscription) : List Subscription :=
  subs.mergeSort fun a b => (compare a.subscript b.subscript).isLE

end Subscriptions

end WorkPool
