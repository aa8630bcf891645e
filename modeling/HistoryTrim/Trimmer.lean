import HistoryTrim.Retention
import HistoryTrim.Compaction
import HistoryTrim.ScanOrder

/-! # Trimmers

A trimmer knows the tables that were registered with it and how each can be trimmed. One trim is
one opportunity for every registered table: the scheduler says which are due, and a due table is
trimmed in order where that is possible, without an order elsewhere. A table that fails does not
keep the others from being trimmed.
-/

namespace HistoryTrim

/-- The two ways of trimming a table. -/
inductive TrimPath where
  /-- By an ordered scan in batches. -/
  | ordered
  /-- All at once, without an order. -/
  | fallback
  deriving Repr, DecidableEq

namespace TrimPath

def name : TrimPath → String
  | ordered => "Ordered"
  | fallback => "Fallback"

end TrimPath

/-- The path that a scan order leads to. -/
def ScanOrder.path (o : ScanOrder) : TrimPath := if o.isAvailable then .ordered else .fallback

inductive TrimError where
  /-- The table is not registered. -/
  | unknownTable (name : String)
  | invalidTable (cause : DefinitionError)
  | store (cause : StoreError)
  deriving Repr, DecidableEq

namespace TrimError

def message : TrimError → String
  | unknownTable n => s!"Table {n} is not registered"
  | invalidTable e => s!"Invalid table definition: {e.message}"
  | store e => s!"Store error: {e.message}"

end TrimError

structure Entry where
  table : Table
  /-- How the table can be trimmed, as it was when it was registered. -/
  order : ScanOrder
  /-- Lock that a run on the table holds; every registration of one name has the same. -/
  lock : Nat
  deriving Repr, DecidableEq

/-- What the attempt to trim a table committed, and how it ended. -/
inductive Work where
  /-- Batches of an ordered trim. -/
  | ordered (batches : List BatchRecord) (failure : Option StoreError)
  /-- A trim without an order, with the number of rows it deleted. -/
  | fallback (outcome : Except StoreError Nat)

namespace Work

def path : Work → TrimPath
  | ordered .. => .ordered
  | fallback _ => .fallback

def failure? : Work → Option StoreError
  | ordered _ failure => failure
  | fallback (.error e) => some e
  | fallback (.ok _) => none

/-- Rows that each committed batch deleted; a trim without an order is one batch. -/
def committed : Work → List Nat
  | ordered batches _ => batches.map BatchRecord.deleted
  | fallback (.error _) => []
  | fallback (.ok n) => [n]

end Work

/-- The attempt to trim a table. -/
structure Attempt where
  table : String
  work : Work

/-- What became of a table at an opportunity. -/
inductive Outcome where
  /-- The table was not due. -/
  | skipped (table : String) (path : TrimPath)
  | attempted (attempt : Attempt)

/-- The answer for a table that was trimmed or skipped. -/
structure TableResult where
  table : String
  path : TrimPath
  skipped : Bool
  batches : Nat
  rowsDeleted : Nat
  deriving Repr, DecidableEq

namespace Attempt

/-- The answer for a table, unless the attempt failed. -/
def result (a : Attempt) : Except StoreError TableResult :=
  match a.work.failure? with
  | some e => .error e
  | none => .ok
    { table := a.table, path := a.work.path, skipped := false
      batches := a.work.committed.length, rowsDeleted := total a.work.committed }

end Attempt

namespace Outcome

def table : Outcome → String
  | skipped t _ => t
  | attempted a => a.table

def result? : Outcome → Option TableResult
  | skipped t p => some { table := t, path := p, skipped := true, batches := 0, rowsDeleted := 0 }
  | attempted a => a.result.toOption

def failure? : Outcome → Option String
  | skipped _ _ => none
  | attempted a => a.work.failure?.map fun e =>
    s!"Failed to trim table {a.table}: {(TrimError.store e).message}"

end Outcome

/-- Outcome of an opportunity for all registered tables. -/
structure TrimRun where
  trimHeight : Height
  /-- One outcome per registered table, in the order of registration. -/
  outcomes : List Outcome

namespace TrimRun

def results (r : TrimRun) : List TableResult := r.outcomes.filterMap Outcome.result?

def failures (r : TrimRun) : List String := r.outcomes.filterMap Outcome.failure?

/-- Rows deleted in the tables that did not fail. -/
def rowsDeleted (r : TrimRun) : Nat := total (r.results.map TableResult.rowsDeleted)

def isSuccess (r : TrimRun) : Bool := r.failures.isEmpty

end TrimRun

namespace Metrics

/-- Count an attempt: its batches, then how it ended. -/
def countAttempt (m : Metrics) (work : Work) : Metrics :=
  let m := m.countCommitted work.committed
  match work.failure?, work.path with
  | some _, _ => m.countFailure
  | none, .ordered => m.countOrdered
  | none, .fallback => m.countFallback

end Metrics

structure Trimmer where
  clock : RetentionClock
  batchSize : Option BatchSize
  retained : Option Height
  metrics : Metrics
  scheduler : Scheduler
  /-- Registered tables in the order in which their names were first registered. -/
  entries : List Entry

/-- Where the current height comes from, and how deep a rollback may be there. -/
structure HeightSource where
  current : Except StoreError Height
  depth : Height

namespace HeightSource

/-- A height that is known. -/
def fixed (height depth : Height) : HeightSource := ⟨.ok height, depth⟩

end HeightSource

namespace Trimmer

/-- A trimmer with these settings that goes on counting from these metrics. -/
def withMetrics (settings : TrimSettings) (metrics : Metrics) : Trimmer where
  clock := RetentionClock.ofDepth settings.depth
  batchSize := BatchSize.ofOption? settings.batchSize
  retained := settings.retained
  metrics := metrics
  scheduler := Scheduler.ofMultipliers settings.frequency
  entries := []

def new (settings : TrimSettings) : Trimmer := withMetrics settings {}

def find? (t : Trimmer) (name : String) : Option Entry :=
  t.entries.find? fun e => e.table.name = name

/-- Put a table among the registered ones: in place of the one of its name, whose lock it takes
    over, or at the end with a lock of its own. -/
def install (table : Table) (order : ScanOrder) (lock : Nat) : List Entry → List Entry
  | [] => [{ table, order, lock }]
  | e :: es =>
    if e.table.name = table.name then { table, order, lock := e.lock } :: es
    else e :: install table order lock es

/-- Register a table, and say how it can be trimmed. -/
def register (t : Trimmer) (catalog : Catalog) (table : Table) :
    Except TrimError (ScanOrder × Trimmer) :=
  match table.validate with
  | .error e => .error (.invalidTable e)
  | .ok () =>
    let order := table.scanOrder catalog
    .ok (order, { t with entries := install table order t.entries.length t.entries })

/-- Names of the registered tables, and how each can be trimmed. -/
def tables (t : Trimmer) : List (String × ScanOrder) :=
  t.entries.map fun e => (e.table.name, e.order)

section Runs

variable {σ : Type} [VersionStore σ]

/-- Trim a registered table on the path that was found when it was registered. -/
def work (t : Trimmer) (store : σ) (e : Entry) (trimHeight : Height) : Work × σ :=
  let rule : RetentionRule := { trimHeight, retained := t.retained }
  match e.order.path with
  | .ordered =>
    let run := VersionStore.trimOrdered store e.table t.batchSize rule
    (.ordered run.batches run.failure, run.store)
  | .fallback =>
    let (outcome, store) := VersionStore.trimUnordered store e.table rule
    (.fallback outcome, store)

/-- Trim a registered table and count what was done. -/
def attempt (t : Trimmer) (store : σ) (e : Entry) (trimHeight : Height) :
    Attempt × Trimmer × σ :=
  let (work, store) := t.work store e trimHeight
  ({ table := e.table.name, work }, { t with metrics := t.metrics.countAttempt work }, store)

/-- Offer an opportunity to registered tables, one after the other. -/
def runEntries (trimHeight : Height) :
    List Entry → Trimmer → σ → List Outcome × Trimmer × σ
  | [], t, store => ([], t, store)
  | e :: es, t, store =>
    let (due, scheduler) := t.scheduler.offer e.table.name
    let t := { t with scheduler }
    if due then
      let (a, t, store) := t.attempt store e trimHeight
      let (rest, t, store) := runEntries trimHeight es t store
      (.attempted a :: rest, t, store)
    else
      let t := { t with metrics := t.metrics.countSkipped }
      let (rest, t, store) := runEntries trimHeight es t store
      (.skipped e.table.name e.order.path :: rest, t, store)

/-- One opportunity for all registered tables at a trim height. -/
def run (t : Trimmer) (store : σ) (trimHeight : Height) : TrimRun × Trimmer × σ :=
  let (outcomes, t, store) := runEntries trimHeight t.entries t store
  ({ trimHeight, outcomes }, t, store)

/-- One opportunity at a current height, as deep as the settings say. -/
def trim (t : Trimmer) (store : σ) (current : Height) : TrimRun × Trimmer × σ :=
  t.run store (t.clock.trimHeight current)

/-- One opportunity at the height that a source tells, as deep as the source says. -/
def trimFrom (t : Trimmer) (store : σ) (source : HeightSource) :
    Except TrimError (TrimRun × Trimmer × σ) :=
  match source.current with
  | .error e => .error (.store e)
  | .ok current => .ok (t.run store ((RetentionClock.ofDepth source.depth).trimHeight current))

/-- Trim one registered table, due or not. A name that is not registered has no attempt. -/
def trimTable (t : Trimmer) (store : σ) (name : String) (trimHeight : Height) :
    Except TrimError (Attempt × Trimmer × σ) :=
  match t.find? name with
  | none => .error (.unknownTable name)
  | some e => .ok (t.attempt store e trimHeight)

end Runs

end Trimmer

end HistoryTrim
