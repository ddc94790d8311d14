import WorkPool.Message
import WorkPool.Proofs.Wire

/-!
# Messages and notices go round

Every message that is sent is read as what it was, whatever bytes come after it, and a message
that was read can be sent on and read again. Of hostile bytes, too, those that a reader accepts
are the written form of what it returns, but for one freedom: the table in a report of load may
list its keys in any order, and more than once.

These are the laws of `Wire.Readable` and `Wire.Exact`, taken through all types that a message is
made of. For a type with several constructors, `read` says both of what was read: it fits, and it
is what would be written. The result is `messages_round_trip`.
-/

namespace WorkPool

open Wire

/-! ## Values and data -/

instance : Readable Kind where
  Fits _ := True
  get_put k _ _ := by cases k <;> exact get_alternative rfl
  fits_of_get _ := trivial

instance : Exact Kind where
  eq_put h := by
    obtain ⟨number, b, rfl, read⟩ := getNumber_bind_eq_some h
    dsimp only at read
    split at read <;> cases read <;> rfl

/-- How a float is written. -/
def Binary64.form : View Binary64 UInt64 :=
  ⟨Binary64.bits, Binary64.mk, fun _ => rfl, fun _ => rfl, fun _ => rfl, fun _ => rfl⟩

instance : Readable Binary64 := Binary64.form.readable

instance : Exact Binary64 := Binary64.form.exact

/-- How an entry is written. -/
def Entry.form : View Entry (String × Option Bytes) :=
  ⟨fun e => (e.subscript, e.member), fun p => ⟨p.1, p.2⟩, fun _ => rfl, fun _ => rfl,
    fun _ => rfl, fun _ => rfl⟩

instance : Readable Entry := Entry.form.readable

instance : Exact Entry := Entry.form.exact

namespace Value

/-- Every count in a value fits its word. -/
protected def Fits : Value → Prop
  | .integer n => Fits n
  | .float x => Fits x
  | .string s | .file s => Fits s
  | .blob b => Fits b
  | .container entries => Fits entries

theorem read {b rest : Bytes} {v : Value} (h : get b = some (v, rest)) :
    v.Fits ∧ b = put v ++ rest := by
  obtain ⟨number, b, rfl, read⟩ := getNumber_bind_eq_some h
  dsimp only at read
  split at read
  case h_7 => cases read
  all_goals
    obtain ⟨x, rfl, inner⟩ := content_eq_some read
    exact ⟨fits_of_get inner, eq_alternative _ inner⟩

instance : Readable Value where
  Fits := Value.Fits
  get_put v _ fits := by cases v <;> exact get_alternative (content_put _ _ _ fits)
  fits_of_get h := (read h).1

instance : Exact Value where
  eq_put h := (read h).2

end Value

/-- How the description of a new datum is written. -/
def Spec.form :
    View Spec (DatumId × Kind × Option Kind × Option String × UInt32 × UInt32) :=
  ⟨fun s => (s.id, s.kind, s.subscriptKind, s.filename, s.readers, s.writers),
    fun p => ⟨p.1, p.2.1, p.2.2.1, p.2.2.2.1, p.2.2.2.2.1, p.2.2.2.2.2⟩,
    fun _ => rfl, fun _ => rfl, fun _ => rfl, fun _ => rfl⟩

instance : Readable Spec := Spec.form.readable

instance : Exact Spec := Spec.form.exact

/-! ## Notices -/

namespace Event

/-- Every count in an event fits its word. -/
protected def Fits : Event → Prop
  | .inserted member => Fits member
  | .closed | .missing => True

theorem read {b rest : Bytes} {e : Event} (h : get b = some (e, rest)) :
    e.Fits ∧ b = put e ++ rest := by
  obtain ⟨number, b, rfl, read⟩ := getNumber_bind_eq_some h
  dsimp only at read
  split at read
  · cases read
    exact ⟨trivial, rfl⟩
  · obtain ⟨x, rfl, inner⟩ := content_eq_some read
    exact ⟨fits_of_get inner, eq_alternative _ inner⟩
  · cases read
    exact ⟨trivial, rfl⟩
  · cases read

instance : Readable Event where
  Fits := Event.Fits
  get_put e rest fits := by
    cases e with
    | inserted member => exact get_alternative (content_put _ _ _ fits)
    | closed | missing => exact get_alternative rfl
  fits_of_get h := (read h).1

instance : Exact Event where
  eq_put h := (read h).2

end Event

/-- How a notice is written. -/
def Notice.form : View Notice (DatumId × Option String × UInt64 × Event) :=
  ⟨fun n => (n.id, n.subscript, n.token, n.event), fun p => ⟨p.1, p.2.1, p.2.2.1, p.2.2.2⟩,
    fun _ => rfl, fun _ => rfl, fun _ => rfl, fun _ => rfl⟩

instance : Readable Notice := Notice.form.readable

instance : Exact Notice := Notice.form.exact

namespace SubscribeStatus

/-- Every count in an answer to a subscription fits its word. -/
protected def Fits : SubscribeStatus → Prop
  | .satisfied member => Fits member
  | .pending => True

theorem read {b rest : Bytes} {s : SubscribeStatus} (h : get b = some (s, rest)) :
    s.Fits ∧ b = put s ++ rest := by
  obtain ⟨number, b, rfl, read⟩ := getNumber_bind_eq_some h
  dsimp only at read
  split at read
  · obtain ⟨x, rfl, inner⟩ := content_eq_some read
    exact ⟨fits_of_get inner, eq_alternative _ inner⟩
  · cases read
    exact ⟨trivial, rfl⟩
  · cases read

instance : Readable SubscribeStatus where
  Fits := SubscribeStatus.Fits
  get_put s rest fits := by
    cases s with
    | satisfied member => exact get_alternative (content_put _ _ _ fits)
    | pending => exact get_alternative rfl
  fits_of_get h := (read h).1

instance : Exact SubscribeStatus where
  eq_put h := (read h).2

end SubscribeStatus

/-! ## Units and reports -/

/-- How a unit is written. -/
def WorkUnit.form : View WorkUnit (Bytes × Option Rank × Rank × WorkType × Int32) :=
  ⟨fun u => (u.payload, u.target, u.answer, u.type, u.priority),
    fun p => ⟨p.1, p.2.1, p.2.2.1, p.2.2.2.1, p.2.2.2.2⟩,
    fun _ => rfl, fun _ => rfl, fun _ => rfl, fun _ => rfl⟩

instance : Readable WorkUnit := WorkUnit.form.readable

instance : Exact WorkUnit := WorkUnit.form.exact

/-- How a report in a vote is written. -/
def IdleReport.form : View IdleReport (Bool × UInt64 × UInt64 × UInt64) :=
  ⟨fun r => (r.idle, r.activity, r.sent, r.received), fun p => ⟨p.1, p.2.1, p.2.2.1, p.2.2.2⟩,
    fun _ => rfl, fun _ => rfl, fun _ => rfl, fun _ => rfl⟩

instance : Readable IdleReport := IdleReport.form.readable

instance : Exact IdleReport := IdleReport.form.exact

/-- How a report of load is written. -/
def Load.form : View Load (Table WorkType UInt64 × UInt64) :=
  ⟨fun l => (l.counts, l.parked), fun p => ⟨p.1, p.2⟩, fun _ => rfl, fun _ => rfl, fun _ => rfl,
    fun _ => rfl⟩

instance : Readable Load := Load.form.readable

/-! ## Answers -/

namespace Reply

/-- Every count in a reply fits its word. -/
protected def Fits : Reply → Prop
  | .ack => True
  | .work unit => Fits unit
  | .id datum => Fits datum
  | .flag b => Fits b
  | .kind k => Fits k
  | .value v => Fits v
  | .member m => Fits m
  | .records entries => Fits entries
  | .size n => Fits n
  | .subscribed status => Fits status
  | .ranks rs => Fits rs

theorem read {b rest : Bytes} {r : Reply} (h : get b = some (r, rest)) :
    r.Fits ∧ b = put r ++ rest := by
  obtain ⟨number, b, rfl, read⟩ := getNumber_bind_eq_some h
  dsimp only at read
  split at read
  case h_1 =>
    cases read
    exact ⟨trivial, rfl⟩
  case h_12 => cases read
  all_goals
    obtain ⟨x, rfl, inner⟩ := content_eq_some read
    exact ⟨fits_of_get inner, eq_alternative _ inner⟩

instance : Readable Reply where
  Fits := Reply.Fits
  get_put r rest fits := by
    cases r with
    | ack => exact get_alternative rfl
    | _ => exact get_alternative (content_put _ _ _ fits)
  fits_of_get h := (read h).1

instance : Exact Reply where
  eq_put h := (read h).2

end Reply

instance : Readable Code where
  Fits _ := True
  get_put c _ _ := by cases c <;> exact get_alternative rfl
  fits_of_get _ := trivial

instance : Exact Code where
  eq_put h := by
    obtain ⟨number, b, rfl, read⟩ := getNumber_bind_eq_some h
    dsimp only at read
    split at read <;> cases read <;> rfl

/-- How a refusal is written. -/
def Refusal.form : View Refusal (Code × String) :=
  ⟨fun r => (r.code, r.message), fun p => ⟨p.1, p.2⟩, fun _ => rfl, fun _ => rfl, fun _ => rfl,
    fun _ => rfl⟩

instance : Readable Refusal := Refusal.form.readable

instance : Exact Refusal := Refusal.form.exact

namespace Answer

/-- Every count in an answer fits its word. -/
protected def Fits : Answer → Prop
  | .granted reply => Fits reply
  | .refused refusal => Fits refusal

theorem read {b rest : Bytes} {a : Answer} (h : get b = some (a, rest)) :
    a.Fits ∧ b = put a ++ rest := by
  obtain ⟨number, b, rfl, read⟩ := getNumber_bind_eq_some h
  dsimp only at read
  split at read
  case h_3 => cases read
  all_goals
    obtain ⟨x, rfl, inner⟩ := content_eq_some read
    exact ⟨fits_of_get inner, eq_alternative _ inner⟩

instance : Readable Answer where
  Fits := Answer.Fits
  get_put a _ fits := by cases a <;> exact get_alternative (content_put _ _ _ fits)
  fits_of_get h := (read h).1

instance : Exact Answer where
  eq_put h := (read h).2

end Answer

/-! ## Requests -/

/-- Every count in an operation fits its word. -/
protected def Operation.Fits : Operation → Prop
  | .create spec => Fits spec
  | .has id subscript => Fits (id, subscript)
  | .store id value drops => Fits (id, value, drops)
  | .storeBytes id bytes drops => Fits (id, bytes, drops)
  | .retrieve id acceptOpen => Fits (id, acceptOpen)
  | .enumerate id offset count => Fits (id, offset, count)
  | .addWriters id count | .dropWriters id count | .addReaders id count | .dropReaders id count =>
    Fits (id, count)
  | .insert id subscript member drops => Fits (id, subscript, member, drops)
  | .reserve id subscript | .lookup id subscript => Fits (id, subscript)
  | .subscribe id subscript token => Fits (id, subscript, token)
  | .refer id subscript reference token => Fits (id, subscript, reference, token)
  | .unique => True
  | .close id | .kindOf id | .subscriptKindOf id | .sizeOf id | .lock id | .unlock id => Fits id

namespace Request

/-- Every count in a request fits its word. -/
protected def Fits : Request → Prop
  | .put unit => Fits unit
  | .get type => Fits type
  | .data op => op.Fits
  | .serverIdle | .serverShutdown | .finalize => True

theorem read {b rest : Bytes} {r : Request} (h : Wire.get b = some (r, rest)) :
    r.Fits ∧ b = Wire.put r ++ rest := by
  obtain ⟨number, b, rfl, read⟩ := getNumber_bind_eq_some h
  simp only [getNumbered] at read
  split at read
  case h_19 | h_25 | h_26 | h_27 =>
    cases read
    exact ⟨trivial, rfl⟩
  case h_28 => cases read
  all_goals
    obtain ⟨x, rfl, inner⟩ := content_eq_some read
    exact ⟨fits_of_get inner, eq_alternative _ inner⟩

theorem get_put_data (op : Operation) (rest : Bytes) (fits : op.Fits) :
    Wire.get (Wire.put (Request.data op) ++ rest) = some (Request.data op, rest) := by
  cases op with
  | unique => exact get_alternative rfl
  | _ =>
    refine get_alternative ?_
    simp only [getNumbered]
    exact content_put _ _ _ fits

instance : Readable Request where
  Fits := Request.Fits
  get_put r rest fits := by
    cases r with
    | put | get => exact get_alternative (content_put _ _ _ fits)
    | data op => exact get_put_data op rest fits
    | serverIdle | serverShutdown | finalize => exact get_alternative rfl
  fits_of_get h := (read h).1

instance : Exact Request where
  eq_put h := (read h).2

end Request

/-! ## Messages

A table stands in a message only in a report of load, at its end and after a list. -/

section Reports

variable {α : Type} [Wire α] {b rest : Bytes} {x : α} {l : Load}

/-- The pairs of the table in a report of load that comes after something else, in the order in
which they stand in the bytes. -/
def listedAfter? (α : Type) [Wire α] (b : Bytes) : Option (List (WorkType × UInt64)) :=
  (decode? b : Option (α × List (WorkType × UInt64))).map (·.2)

/-- A report of load that was read is what would be written, if the keys of its table ascend. -/
theorem eq_put_of_ascending [Exact α] (h : get b = some ((x, l), rest)) :
    ∃ pairs, listedAfter? α b = some pairs ∧
      (pairs.Pairwise (fun p q => compare p.1 q.1 = .lt) → b = put (x, l) ++ rest) := by
  obtain ⟨report, first, later⟩ := get_pair_eq_some h
  obtain ⟨between, counts, parked⟩ := get_pair_eq_some (Load.form.get_eq_some later)
  obtain ⟨pairs, read, -⟩ := get_table_eq_some counts
  dsimp only [Load.form] at first counts parked
  refine ⟨pairs, ?_, fun ascending => ?_⟩
  · rw [listedAfter?, decode?, get_pair first read, Option.map_some, Option.map_some]
  · show b = (put x ++ (put l.counts ++ put l.parked)) ++ rest
    rw [List.append_assoc, List.append_assoc, ← eq_put parked,
      ← exact_table counts read ascending, ← eq_put first]

/-- What is written lists the keys of the table in their order. -/
theorem listedAfter?_put [Readable α] (fits : Fits (x, l)) :
    listedAfter? α (put (x, l) ++ rest) = some l.counts.entries := by
  have read := get_put (x, l.counts.entries) (put l.parked ++ rest) ⟨fits.1, fits.2.1⟩
  have same : put (x, l) ++ rest = put (x, l.counts.entries) ++ (put l.parked ++ rest) := by
    show (put x ++ (put l.counts.entries ++ put l.parked)) ++ rest =
      (put x ++ put l.counts.entries) ++ (put l.parked ++ rest)
    simp only [List.append_assoc]
  rw [listedAfter?, same, decode?, read, Option.map_some, Option.map_some]

end Reports

namespace Message

/-- Every count in a message fits its word. -/
protected def Fits : Message → Prop
  | .request tag body => Fits (tag, body)
  | .response tag body => Fits (tag, body)
  | .forwardPut unit => Fits unit
  | .stealRequest wanted load => Fits (wanted, load)
  | .stealResponse units load => Fits (units, load)
  | .idleQuery round => Fits round
  | .idleReply round report => Fits (round, report)
  | .shutdown | .shutdownRequested => True
  | .abort code => Fits code

/-- The pairs of the table in the bytes of a message, in the order in which they stand there. -/
def listed? (b : Bytes) : Option (List (WorkType × UInt64)) := do
  let (number, b) ← getNumber b
  match number with
  | 3 => listedAfter? (List WorkType) b
  | 4 => listedAfter? (List WorkUnit) b
  | _ => none

/-- Every table in the bytes of a message has its keys in strictly ascending order. -/
def Ascending (b : Bytes) : Prop :=
  ∀ pairs, listed? b = some pairs → pairs.Pairwise fun p q => compare p.1 q.1 = .lt

theorem read {b rest : Bytes} {m : Message} (h : get b = some (m, rest)) :
    m.Fits ∧ (Ascending b → b = put m ++ rest) := by
  obtain ⟨number, b, rfl, read⟩ := getNumber_bind_eq_some h
  have numbered : getNumber (put number ++ b) = some (number, b) := get_put number b trivial
  dsimp only at read
  split at read
  case h_4 | h_5 =>
    obtain ⟨⟨x, l⟩, rfl, inner⟩ := content_eq_some read
    refine ⟨fits_of_get inner, fun ascending => ?_⟩
    obtain ⟨pairs, listed, written⟩ := eq_put_of_ascending inner
    have e := written (ascending pairs (by rw [listed?, numbered]; exact listed))
    exact (congrArg (put _ ++ ·) e).trans (List.append_assoc ..).symm
  case h_8 | h_9 =>
    cases read
    exact ⟨trivial, fun _ => rfl⟩
  case h_11 => cases read
  all_goals
    obtain ⟨x, rfl, inner⟩ := content_eq_some read
    exact ⟨fits_of_get inner, fun _ => eq_alternative _ inner⟩

instance : Readable Message where
  Fits := Message.Fits
  get_put m rest fits := by
    cases m with
    | shutdown | shutdownRequested => exact get_alternative rfl
    | _ => exact get_alternative (content_put _ _ _ fits)
  fits_of_get h := (read h).1

theorem listed?_put (m : Message) (rest : Bytes) :
    listed? (put m ++ rest) = match m with
      | .stealRequest wanted load => listedAfter? (List WorkType) (put (wanted, load) ++ rest)
      | .stealResponse units load => listedAfter? (List WorkUnit) (put (units, load) ++ rest)
      | _ => none := by
  rw [listed?]
  cases m <;> exact get_alternative rfl

/-- What is written has its keys in order. -/
theorem ascending_put {m : Message} (fits : Fits m) (rest : Bytes) :
    Ascending (put m ++ rest) := by
  intro pairs listed
  rw [listed?_put] at listed
  cases m with
  | stealRequest _ load | stealResponse _ load =>
    cases (listedAfter?_put fits).symm.trans listed
    exact load.counts.ascending
  | _ => cases listed

theorem ok_ofBytes_iff {b : Bytes} {m : Message} :
    ofBytes b = .ok m ↔ decode? b = some m := by
  simp only [ofBytes]
  split <;> simp_all

end Message

theorem Notice.ok_ofBytes_iff {b : Bytes} {n : Notice} :
    Notice.ofBytes b = .ok n ↔ decode? b = some n := by
  simp only [Notice.ofBytes]
  split <;> simp_all

/-- **Messages and notices go round.** One that fits, and only such a one, is read back from its
bytes whatever comes after them. What was read can be written and read again, and it stands at the
start of the bytes as it would be written: always if it is a notice, and exactly if all tables in
the bytes ascend if it is a message. -/
theorem messages_round_trip :
    (∀ (m : Message) (t : Bytes), Message.ofBytes (encode m ++ t) = .ok m ↔ Fits m) ∧
    (∀ (b : Bytes) (m : Message), Message.ofBytes b = .ok m →
      (encode m <+: b ↔ Message.Ascending b) ∧ Message.ofBytes (encode m) = .ok m) ∧
    (∀ (n : Notice) (t : Bytes), Notice.ofBytes (encode n ++ t) = .ok n ↔ Fits n) ∧
    (∀ (b : Bytes) (n : Notice), Notice.ofBytes b = .ok n →
      encode n <+: b ∧ Notice.ofBytes (encode n) = .ok n) := by
  refine ⟨fun m t => ?_, fun b m h => ?_, fun n t => ?_, fun b n h => ?_⟩
  · rw [Message.ok_ofBytes_iff, decode?_encode_iff]
  · rw [Message.ok_ofBytes_iff] at h ⊢
    refine ⟨?_, decode?_encode_of_decode? h⟩
    obtain ⟨⟨m, rest⟩, read, rfl⟩ := Option.map_eq_some_iff.1 h
    constructor
    · rintro ⟨t, rfl⟩
      exact Message.ascending_put (fits_of_get read) t
    · intro ascending
      exact ⟨rest, ((Message.read read).2 ascending).symm⟩
  · rw [Notice.ok_ofBytes_iff, decode?_encode_iff]
  · rw [Notice.ok_ofBytes_iff] at h ⊢
    exact ⟨encode_prefix_of_decode? h, decode?_encode_of_decode? h⟩

/-- A report whose table lists type 2 before type 1 is read. What was read is written otherwise,
and read again all the same. -/
theorem messages_round_trip_descending :
    let b : Bytes := alternative 3
      (([1] : List WorkType), ([(2, 5), (1, 7)] : List (WorkType × UInt64)), (0 : UInt64))
    let m : Message := .stealRequest [1] ⟨.ofList [(1, 7), (2, 5)], 0⟩
    Message.ofBytes b = .ok m ∧ ¬ encode m <+: b ∧ Message.ofBytes (encode m) = .ok m := by
  intro b m
  have read : Message.ofBytes b = .ok m := (Message.ok_ofBytes_iff ..).2 (by decide +kernel)
  have laws := messages_round_trip.2.1 b m read
  refine ⟨read, fun first => ?_, laws.2⟩
  have ascending := laws.1.1 first [(2, 5), (1, 7)] (by decide +kernel)
  exact absurd ascending (by decide)

end WorkPool
