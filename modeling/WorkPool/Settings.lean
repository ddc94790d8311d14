import WorkPool.Error
import WorkPool.Topology

/-!
# Settings of a run

`Settings` are shared by every rank. They start from a preset, are adjusted by
`Change`s, and are usable once `validate` accepts them. `build` does all three.
-/

namespace WorkPool

/-- A span of time. -/
structure Interval where
  /-- whole seconds -/
  secs : UInt64
  /-- nanoseconds past them -/
  nanos : UInt32
  deriving DecidableEq

/-- A span of so many thousandths of a second. -/
def Interval.ofMillis (n : Nat) : Interval :=
  ⟨(n / 1000).toUInt64, (n % 1000 * 1000000).toUInt32⟩

/-- Whether a span is empty. -/
def Interval.isZero (i : Interval) : Bool := i.secs == 0 && i.nanos == 0

/-- What a read of a container that is still open shows. -/
inductive OpenRead where
  /-- only the entries that hold a member -/
  | snapshot
  /-- reserved entries as well -/
  | live
  deriving DecidableEq

/-- The settings of a run. -/
structure Settings where
  /-- how many servers there are -/
  servers : UInt64 := 1
  /-- how many workers there are -/
  workers : UInt64 := 1
  /-- the types of work that may be put and got -/
  workTypes : List WorkType := [0, 1]
  /-- the type that notices travel under -/
  notificationType : WorkType := 0
  /-- how often a starved server asks a peer for work -/
  stealInterval : Interval := .ofMillis 5
  /-- how often the master considers a vote -/
  idleCheckInterval : Interval := .ofMillis 10
  /-- how many units one server may queue -/
  maxQueuedUnits : UInt64 := 1000000
  /-- how many bytes of content one server may hold -/
  maxMemoryBytes : UInt64 := 1024 * 1024 * 1024
  /-- the largest id a server may hand out -/
  idLimit : DatumId := Int64.maxValue
  /-- whether an insert may replace a member -/
  allowOverwrite : Bool := true
  /-- what a read of an open container shows -/
  openRead : OpenRead := .snapshot
  /-- whether open data keep a run going -/
  quiescenceRequiresClosedData : Bool := true
  /-- whether the process that aborts a run ends with it -/
  exitOnAbort : Bool := true
  deriving DecidableEq

namespace Settings

/-! ## Presets -/

/-- Short intervals and small capacities. -/
def development : Settings where
  stealInterval := .ofMillis 2
  idleCheckInterval := .ofMillis 5
  maxQueuedUnits := 10000
  maxMemoryBytes := 64 * 1024 * 1024
  exitOnAbort := false

/-- Long intervals and large capacities. -/
def production : Settings where
  stealInterval := .ofMillis 20
  idleCheckInterval := .ofMillis 100
  maxQueuedUnits := 50000000
  maxMemoryBytes := 16 * 1024 * 1024 * 1024

/-! ## Reading -/

/-- The topology the settings describe. -/
def topology (s : Settings) : Topology := ⟨s.workers, s.servers⟩

/-- The number of ranks, as a word. -/
def size (s : Settings) : Except Fault UInt64 := Checked.add s.servers s.workers

/-- Whether a type of work is known. -/
def accepts (s : Settings) (type : WorkType) : Bool := s.workTypes.contains type

/-- Accept settings that a run can start with; the first rule that is broken is told. -/
def validate (s : Settings) : Except Error Unit := do
  if s.servers = 0 then
    throw (.configuration "at least one server is required" (some "nservers"))
  if s.workers = 0 then
    throw (.configuration "at least one worker is required" (some "nworkers"))
  if s.workTypes.isEmpty then
    throw (.configuration "work_types cannot be empty" (some "work_types"))
  if ¬ s.workTypes.Nodup then
    throw (.configuration "work_types contains duplicates" (some "work_types"))
  if ¬ s.accepts s.notificationType then
    throw (.configuration
      s!"notification_type {s.notificationType} is not one of the work types"
      (some "notification_type"))
  if s.stealInterval.isZero || s.idleCheckInterval.isZero then
    throw (.configuration "steal_interval and idle_check_interval must be non-zero" none)
  if s.maxQueuedUnits = 0 then
    throw (.configuration "max_queued_units must be greater than 0" (some "max_queued_units"))
  if s.maxMemoryBytes = 0 then
    throw (.configuration "max_memory_bytes must be greater than 0" (some "max_memory_bytes"))
  if s.idLimit < s.servers.toInt64 then
    throw (.configuration "id_limit leaves no ids for some servers" (some "id_limit"))

/-! ## Building -/

/-- One adjustment of settings. -/
inductive Change where
  | servers (n : UInt64)
  | workers (n : UInt64)
  | workTypes (types : List WorkType)
  | notificationType (type : WorkType)
  | stealInterval (i : Interval)
  | idleCheckInterval (i : Interval)
  | maxQueuedUnits (n : UInt64)
  | maxMemoryBytes (n : UInt64)
  | idLimit (id : DatumId)
  | allowOverwrite (b : Bool)
  | openRead (p : OpenRead)
  | quiescenceRequiresClosedData (b : Bool)
  | exitOnAbort (b : Bool)
  deriving DecidableEq

/-- Make one adjustment. -/
def adjust (s : Settings) : Change → Settings
  | .servers n => { s with servers := n }
  | .workers n => { s with workers := n }
  | .workTypes types => { s with workTypes := types }
  | .notificationType type => { s with notificationType := type }
  | .stealInterval i => { s with stealInterval := i }
  | .idleCheckInterval i => { s with idleCheckInterval := i }
  | .maxQueuedUnits n => { s with maxQueuedUnits := n }
  | .maxMemoryBytes n => { s with maxMemoryBytes := n }
  | .idLimit id => { s with idLimit := id }
  | .allowOverwrite b => { s with allowOverwrite := b }
  | .openRead p => { s with openRead := p }
  | .quiescenceRequiresClosedData b => { s with quiescenceRequiresClosedData := b }
  | .exitOnAbort b => { s with exitOnAbort := b }

/-- Add the type of notices to the known types if it is missing. -/
def withNotificationType (s : Settings) : Settings :=
  if s.accepts s.notificationType then s
  else { s with workTypes := s.workTypes ++ [s.notificationType] }

/-- Adjust settings, complete their types and validate them. -/
def build (base : Settings) (changes : List Change) : Except Error Settings := do
  let s := (changes.foldl adjust base).withNotificationType
  s.validate
  return s

end Settings

end WorkPool
