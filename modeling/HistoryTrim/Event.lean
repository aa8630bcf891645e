import HistoryTrim.Duration
import HistoryTrim.Service

/-! # Events

What is worth telling about a run: every event has a level, the part of the program that it comes
from, and a text. The events of a trim follow from its outcome.
-/

namespace HistoryTrim

/-- How much an event matters. -/
inductive Level where
  | debug
  | info
  | warn
  | error
  deriving Repr, DecidableEq

namespace Level

def name : Level → String
  | debug => "DEBUG"
  | info => "INFO"
  | warn => "WARN"
  | error => "ERROR"

def rank : Level → Nat
  | debug => 0
  | info => 1
  | warn => 2
  | error => 3

end Level

/-- A request of the system to end. -/
inductive Signal where
  | interrupt
  | terminate
  deriving Repr, DecidableEq

namespace Signal

def name : Signal → String
  | interrupt => "SIGINT"
  | terminate => "SIGTERM"

end Signal

/-- Something that happened. -/
inductive Event where
  | loadingConfig (file : String)
  | validating
  | unusedFrequency (table : String)
  | validated
  | connecting (dsn : String)
  | connected
  | connectionFailed (dsn : String) (cause : ConnectionError)
  | probed (table : String) (order : ScanOrder)
  | registered (tables : Nat)
  | trimDisabled
  | trimDisabledHint
  | serviceStarting
  | serviceReady (tick : Duration)
  | serviceWaiting
  | cycleStarted
  | cycleFailed (cause : TrimError)
  | signalReceived (signal : Signal)
  | serviceStopping
  | serviceStopped
  | runStarted (trimHeight : Height) (tables : Nat)
  | tableSkipped (table : String)
  /-- The store has committed a batch. -/
  | batchStored (table : String) (batch : BatchRecord)
  /-- A run goes on after its batch of this number. -/
  | batchCounted (table : String) (trimHeight : Height) (number : Nat) (batch : BatchRecord)
  | tableTrimmed (trimHeight : Height) (result : TableResult)
  | tableFailed (table : String) (trimHeight : Height) (cause : TrimError)
  | runCompleted (run : TrimRun)
  /-- The run with this name is over. -/
  | runSummary (name : String) (run : TrimRun)
  | runFailure (text : String)
  | metrics (metrics : Metrics)

namespace Event

def level : Event → Level
  | cycleStarted | tableSkipped _ | batchStored .. | batchCounted .. => .debug
  | unusedFrequency _ | tableFailed .. => .warn
  | probed _ order => if order.isAvailable then .info else .warn
  | connectionFailed .. | cycleFailed _ | runFailure _ => .error
  | _ => .info

/-- The part of the program that an event comes from. -/
def target : Event → String
  | loadingConfig _ | validating | unusedFrequency _ | validated => "common::cli::utils"
  | connecting _ | connected | connectionFailed .. => "common::database"
  | probed .. => "compactor::probe"
  | runStarted .. | tableSkipped _ | tableTrimmed .. | tableFailed .. | runCompleted _ =>
    "compactor::service"
  | batchStored .. => "compactor::store::sqlite"
  | batchCounted .. => "compactor::executor"
  | metrics _ => "compactor::retention::metrics"
  | _ => "ledgerdb_trimmer"

/-- The wording of a scan order. -/
def orderText (table : String) : ScanOrder → String
  | .available index => s!"Ordered trim available table={table} index={index}"
  | .unavailable m =>
    s!"Ordered trim unavailable, falling back to unordered trim table={table} reason={m.message}"

/-- The form of a failed request in which its parts are named. -/
def inspectDefinition : DefinitionError → String
  | .noKeyColumns t => s!"NoKeyColumns({Text.quoted t})"
  | .invalidIdentifier n => s!"InvalidIdentifier({Text.quoted n})"
  | .duplicateColumn t c =>
    s!"DuplicateColumn \x7b table: {Text.quoted t}, column: {Text.quoted c} \x7d"

/-- The form of a failure of a store in which its parts are named. -/
def inspectStore : StoreError → String
  | .database e => s!"Database({e.inspect})"
  | .invalidTable e => s!"InvalidTable({inspectDefinition e})"
  | .unknownTable t => s!"UnknownTable({Text.quoted t})"
  | .nonIntegerLeadingKey t c =>
    s!"NonIntegerLeadingKey \x7b table: {Text.quoted t}, column: {Text.quoted c} \x7d"
  | .unavailable r => s!"Unavailable({Text.quoted r})"

/-- The form of a failed request in which its parts are named. -/
def inspect : TrimError → String
  | .unknownTable n => s!"UnknownTable({Text.quoted n})"
  | .invalidTable e => s!"InvalidTable({inspectDefinition e})"
  | .store e => s!"Store({inspectStore e})"

def text : Event → String
  | loadingConfig f => s!"Loading configuration from: {f}"
  | validating => "Validating configuration..."
  | unusedFrequency t => s!"Trim frequency set for unconfigured table {t}"
  | validated => "Configuration validation passed"
  | connecting dsn => s!"Connecting to ledger database with DSN: {dsn}"
  | connected => "Database connection established successfully"
  | connectionFailed dsn e =>
    s!"Failed to connect to SQLite database with DSN '{Address.creating dsn}': {e.message}"
  | probed t order => orderText t order
  | registered n => s!"Registered {n} tables for trimming"
  | trimDisabled => "Trimming is disabled in configuration (trim.enabled = false)"
  | trimDisabledHint =>
    "Set LEDGERDB__TRIM__ENABLED=true or enable in config file to run the trimmer"
  | serviceStarting => "Starting LedgerDB Trimmer Service"
  | serviceReady tick => s!"Trimmer initialized with tick interval: {tick.compact}"
  | serviceWaiting => "Trimmer service running, waiting for shutdown signal"
  | cycleStarted => "Running trim cycle"
  | cycleFailed e => s!"Trim cycle failed: {inspect e}"
  | signalReceived s => s!"Received {s.name}"
  | serviceStopping => "Received shutdown signal, stopping trimmer service"
  | serviceStopped => "Trimmer service stopped"
  | runStarted h n => s!"Starting trim run trim_height={h} tables={n}"
  | tableSkipped t => s!"Trim skipped by scheduler table={t}"
  | batchStored t b =>
    s!"Committed trim batch table={t} deleted={b.deleted} resume_marker={b.marker}"
  | batchCounted t h n b =>
    s!"Trim batch committed table={t} trim_height={h} batch={n} deleted={b.deleted} " ++
      s!"resume_marker={b.marker}"
  | tableTrimmed h r =>
    s!"Table trimmed table={r.table} trim_height={h} path={r.path.name} " ++
      s!"batches={r.batches} rows_deleted={r.rowsDeleted}"
  | tableFailed t h e => s!"Table trim failed table={t} trim_height={h} error={e.message}"
  | runCompleted r =>
    s!"Trim run completed trim_height={r.trimHeight} rows_deleted={r.rowsDeleted} " ++
      s!"failed={r.failures.length}"
  | runSummary name r =>
    s!"Trim run {name} at trim height {r.trimHeight}: {r.rowsDeleted} rows deleted " ++
      s!"across {r.results.length} tables"
  | runFailure text => text
  | metrics m => m.summary

def line (e : Event) : String := s!"{e.level.name} {e.target} {e.text}"

/-- Events of the batches of a run, given the number of the first one. -/
def ofBatches (table : String) (trimHeight : Height) (number : Nat) :
    List BatchRecord → List Event
  | [] => []
  | b :: bs =>
    batchStored table b :: batchCounted table trimHeight number b ::
      ofBatches table trimHeight (number + 1) bs

def ofAttempt (trimHeight : Height) (a : Attempt) : List Event :=
  let batches := match a.work with
    | .ordered batches _ => ofBatches a.table trimHeight 1 batches
    | .fallback _ => []
  batches ++ [match a.result with
    | .ok r => tableTrimmed trimHeight r
    | .error e => tableFailed a.table trimHeight (.store e)]

/-- Events of what became of a table at an opportunity. -/
def ofOutcome (trimHeight : Height) : Outcome → List Event
  | .skipped t _ => [tableSkipped t]
  | .attempted a => ofAttempt trimHeight a

def ofRun (r : TrimRun) : List Event :=
  runStarted r.trimHeight r.outcomes.length ::
    r.outcomes.flatMap (ofOutcome r.trimHeight) ++ [runCompleted r]

/-- Events of an opportunity, with a summary under a name. -/
def ofNamedRun (name : String) (r : TrimRun) : List Event :=
  ofRun r ++ runSummary name r :: r.failures.map runFailure

def ofService (s : Service) : List Event :=
  connecting s.config.dsn :: connected ::
    s.registrations.map (fun r => probed r.1 r.2) ++ [registered s.registrations.length]

def ofStartError : StartError → List Event
  | .options _ => []
  | .connection dsn e => [connecting dsn, connectionFailed dsn e]
  | .registration .. => []

def ofCheck (c : Config) : List Event :=
  validating :: match c.check with
    | .error _ => []
    | .ok () => c.unusedFrequencies.map unusedFrequency ++ [validated]

end Event

end HistoryTrim
