import WorkPool.Settings
import WorkPool.Text.Numeral
import WorkPool.Yaml.Node

/-!
# Settings as a YAML document

A document is a mapping from the names of settings to their values. A setting that is not
named keeps its default, and a name that is no setting is passed over with its value; but a
setting that is named twice is refused. An empty document is a mapping without entries.

`Settings.ofYaml` reads and validates. Every reason for which a text cannot be read gives the
same error.
-/

namespace WorkPool

namespace Yaml

/-! ## Scalars with a meaning -/

/-- The tag of the numbers that are integers. -/
def integerTag : Bytes := textBytes "tag:yaml.org,2002:int"

/-- The tag of the two truth values. -/
def booleanTag : Bytes := textBytes "tag:yaml.org,2002:bool"

/-- The text of a scalar that can stand for a value of the given tag: one without quotes, or one
of indented lines that bears the tag. -/
def Node.meaningful? (tag : Bytes) : Node → Option (List Char)
  | .scalar text .plain _ => some text.toList
  | .scalar text .literal (some t) => if t == tag then some text.toList else none
  | _ => none

/-- The text of any scalar. -/
def Node.text? : Node → Option String
  | .scalar text _ _ => some text
  | _ => none

/-- Whether a node is a scalar of nothing without quotes, which stands for an empty collection. -/
def Node.isNothing : Node → Bool
  | .scalar "" .plain _ => true
  | _ => false

/-- The entries of a mapping. -/
def Node.entries? (n : Node) : Option (List (Node × Node)) :=
  match n with
  | .mapping entries => some entries
  | n => if n.isNothing then some [] else none

/-- The items of a sequence. -/
def Node.items? (n : Node) : Option (List Node) :=
  match n with
  | .sequence items => some items
  | n => if n.isNothing then some [] else none

/-- A number with the sign for its base. -/
def based? : List Char → Option Nat
  | '0' :: 'x' :: digits => Numeral.natural? 16 digits
  | '0' :: 'o' :: digits => Numeral.natural? 8 digits
  | '0' :: 'b' :: digits => Numeral.natural? 2 digits
  | _ => none

/-- Whether digits begin with a zero that has no place there. -/
def hasIdleZero : List Char → Bool
  | '0' :: d :: rest => (d :: rest).all Char.isDigit
  | _ => false

/-- A number without a sign. -/
def magnitude? (digits : List Char) : Option Nat :=
  match based? digits with
  | some n => some n
  | none => if hasIdleZero digits then none else Numeral.natural? 10 digits

/-- A number that may have a plus sign. -/
def natural? : List Char → Option Nat
  | '+' :: digits => magnitude? digits
  | digits => magnitude? digits

/-- A number that may have a sign. -/
def integer? : List Char → Option Int
  | '-' :: digits => (magnitude? digits).map fun n => -(n : Int)
  | digits => (natural? digits).map fun n => (n : Int)

/-- A truth value. -/
def boolean? (text : List Char) : Option Bool :=
  match String.ofList text with
  | "true" | "True" | "TRUE" => some true
  | "false" | "False" | "FALSE" => some false
  | _ => none

/-- Whether a text stands for nothing. -/
def isNull (text : String) : Bool := ["", "~", "null", "Null", "NULL"].contains text

namespace Document

variable (d : Document)

/-! ## Values of settings -/

/-- A number from zero up to a bound. -/
def natural? (bound : Nat) (n : Node) : Option Nat := do
  let value ← Yaml.natural? (← (← d.resolve? n).meaningful? integerTag)
  if value < bound then return value else none

/-- A number between two others. -/
def integer? (least most : Int) (n : Node) : Option Int := do
  let value ← Yaml.integer? (← (← d.resolve? n).meaningful? integerTag)
  if least ≤ value && value ≤ most then return value else none

/-- A word. -/
def word? (n : Node) : Option UInt64 := (d.natural? UInt64.size n).map UInt64.ofNat

/-- A type of work. -/
def workType? (n : Node) : Option WorkType :=
  (d.integer? Int32.minValue.toInt Int32.maxValue.toInt n).map Int32.ofInt

/-- An id. -/
def id? (n : Node) : Option DatumId :=
  (d.integer? Int64.minValue.toInt Int64.maxValue.toInt n).map Int64.ofInt

/-- A truth value. -/
def boolean? (n : Node) : Option Bool := do
  Yaml.boolean? (← (← d.resolve? n).meaningful? booleanTag)

/-- The types of work. -/
def workTypes? (n : Node) : Option (List WorkType) := do
  (← (← d.resolve? n).items?).mapM d.workType?

/-- The value of one name in the entries of a mapping, if it is there exactly once. -/
def only? (entries : List (String × Node)) (name : String) : Option Node :=
  match entries.filter (·.1 == name) with
  | [(_, n)] => some n
  | _ => none

/-- The entries of a mapping whose keys are scalars. -/
def named? (n : Node) : Option (List (String × Node)) := do
  (← (← d.resolve? n).entries?).mapM fun (k, v) => do return (← (← d.resolve? k).text?, v)

/-- A span of time: seconds and nanoseconds, and nothing else. Nanoseconds that make up seconds
are added to them. -/
def interval? (n : Node) : Option Interval := do
  let entries ← d.named? n
  if entries.length != 2 then none
  let secs ← d.natural? UInt64.size (← only? entries "secs")
  let nanos ← d.natural? UInt32.size (← only? entries "nanos")
  let total := secs + nanos / 1000000000
  if total < UInt64.size then return ⟨total.toUInt64, (nanos % 1000000000).toUInt32⟩ else none

/-- The word for what a read of an open container shows. -/
def openReadOf? : String → Option OpenRead
  | "snapshot" => some .snapshot
  | "live" => some .live
  | _ => none

/-- The word that a tag with an exclamation mark holds, if it is a text. -/
def wordOfTag? : Bytes → Option String
  | mark :: word => if mark == '!'.toUInt8 then textOfBytes? word else none
  | [] => none

/-- What a read of an open container shows: a scalar with the word for it, or a tag with that word
on a scalar of nothing. -/
def openRead? (n : Node) : Option OpenRead := do
  match ← d.resolve? n with
  | .scalar text style tag =>
    match tag.bind wordOfTag? with
    | some word => if style == .plain && isNull text then openReadOf? word else none
    | none => openReadOf? text
  | _ => none

/-- What an entry of a document changes: nothing, if its name is no setting. -/
def change? (name : String) (n : Node) : Option (Option Settings.Change) :=
  match name with
  | "nservers" => (d.word? n).map fun x => some (.servers x)
  | "nworkers" => (d.word? n).map fun x => some (.workers x)
  | "work_types" => (d.workTypes? n).map fun x => some (.workTypes x)
  | "notification_type" => (d.workType? n).map fun x => some (.notificationType x)
  | "steal_interval" => (d.interval? n).map fun x => some (.stealInterval x)
  | "idle_check_interval" => (d.interval? n).map fun x => some (.idleCheckInterval x)
  | "max_queued_units" => (d.word? n).map fun x => some (.maxQueuedUnits x)
  | "max_memory_bytes" => (d.word? n).map fun x => some (.maxMemoryBytes x)
  | "id_limit" => (d.id? n).map fun x => some (.idLimit x)
  | "allow_overwrite" => (d.boolean? n).map fun x => some (.allowOverwrite x)
  | "open_read" => (d.openRead? n).map fun x => some (.openRead x)
  | "quiescence_requires_closed_data" =>
    (d.boolean? n).map fun x => some (.quiescenceRequiresClosedData x)
  | "exit_on_abort" => (d.boolean? n).map fun x => some (.exitOnAbort x)
  | _ => some none

/-- The settings that a document describes. -/
def settings? : Option Settings := do
  match d.root with
  | none => return {}
  | some root =>
    let entries ← d.named? root
    let changes ← entries.mapM fun (name, n) => do return (name, ← d.change? name n)
    let known := changes.filterMap fun (name, change) => change.map (name, ·)
    if ¬ (known.map (·.1)).Nodup then none
    return (known.map (·.2)).foldl Settings.adjust {}

end Document

end Yaml

/-- The settings that a text describes, if a run can start with them. -/
def Settings.ofYaml (text : String) : Except Error Settings :=
  match (Yaml.Document.ofText? text).bind Yaml.Document.settings? with
  | none => .error (.serialization "yaml")
  | some s => s.validate.map fun _ => s

/-- The settings in a file, given its content if there is any. -/
def Settings.ofFile (path : String) (content : Option Bytes) : Except Error Settings :=
  match content.bind textOfBytes? with
  | none => .error (.io s!"read {path}")
  | some text => Settings.ofYaml text

end WorkPool
