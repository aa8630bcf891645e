import HistoryTrim.Dictionary
import HistoryTrim.Duration
import HistoryTrim.Version

/-! # What a trimmer keeps to

The settings of a trimmer, the heights it may trim below, how often it trims which table, and the
counters of what it has done.
-/

/-! ## Trim settings

What a trimmer needs to know, once it has been checked.
-/

namespace HistoryTrim

/-- Settings of a trimmer. -/
structure TrimSettings where
  /-- How many blocks may be rolled back. -/
  depth : Height := 800
  /-- Rows per batch; nothing and zero mean one batch without a limit. -/
  batchSize : Option Nat := some 1000
  /-- The height whose versions are always kept. -/
  retained : Option Height := some (-1)
  /-- Multipliers of the tables that are not trimmed at every opportunity. -/
  frequency : Dictionary UInt32 := ∅
  deriving Repr, DecidableEq

/-! ## Trim heights

A chain may be rolled back by a bounded number of blocks. What lies further back than that below
the current height may be trimmed.
-/

/-- Difference of two heights; one that no height can hold is the nearest height. -/
def Height.saturatingSub (a b : Height) : Height :=
  let d := a.toInt - b.toInt
  if d < Int64.minValue.toInt then Int64.minValue
  else if Int64.maxValue.toInt < d then Int64.maxValue
  else Int64.ofInt d

def Height.max (a b : Height) : Height := if a ≤ b then b else a

/-- How many blocks behind the current height stay untouched. -/
structure RetentionClock where
  depth : Height
  depth_nonneg : 0 ≤ depth

namespace RetentionClock

/-- A clock of the given depth; a negative depth counts as zero. -/
def ofDepth (depth : Height) : RetentionClock where
  depth := Height.max depth 0
  depth_nonneg := by
    unfold Height.max
    split
    · decide
    next h => exact Int64.le_of_lt (Int64.not_le.1 h)

/-- The height below which versions may go: never negative, so that versions at negative heights
    are older than every trim height that lies in the chain. -/
def trimHeight (clock : RetentionClock) (current : Height) : Height :=
  Height.max (Height.saturatingSub current clock.depth) 0

end RetentionClock

/-! ## Trim frequency

Large tables that change little need not be scanned at every opportunity. A table with multiplier
`n` is due at every `n`-th one; a table without a multiplier is due every time.
-/

/-- How often each table is trimmed, and how many opportunities it has let pass. -/
structure Scheduler where
  multipliers : Dictionary UInt32
  /-- Opportunities since a table was last due. -/
  counters : Dictionary UInt32 := ∅
  deriving Repr, DecidableEq

namespace Scheduler

/-- A scheduler at which no opportunity has passed. -/
def ofMultipliers (multipliers : Dictionary UInt32) : Scheduler := { multipliers }

/-- The multiplier of a table, at least one. -/
def multiplier (s : Scheduler) (table : String) : UInt32 :=
  match s.multipliers.get? table with
  | some m => if m = 0 then 1 else m
  | none => 1

/-- Opportunities that a table has let pass since it was last due. -/
def counter (s : Scheduler) (table : String) : UInt32 := (s.counters.get? table).getD 0

/-- Offer an opportunity to a table: whether it is due, and the scheduler afterwards. -/
def offer (s : Scheduler) (table : String) : Bool × Scheduler :=
  let count := s.counter table + 1
  if s.multiplier table ≤ count then
    (true, { s with counters := s.counters.put table 0 })
  else
    (false, { s with counters := s.counters.put table count })

end Scheduler

/-! ## Trim metrics

Counters over the whole life of a trimmer. They are 64-bit words and wrap around.
-/

/-- What a trimmer has done so far. -/
structure Metrics where
  orderedRuns : UInt64 := 0
  fallbackRuns : UInt64 := 0
  skippedRuns : UInt64 := 0
  failedRuns : UInt64 := 0
  /-- Batches that were committed, those of runs that failed later included. -/
  batches : UInt64 := 0
  rowsDeleted : UInt64 := 0
  durationMillis : UInt64 := 0
  deriving Repr, DecidableEq

namespace Metrics

/-- A table was trimmed by an ordered scan. -/
def countOrdered (m : Metrics) : Metrics := { m with orderedRuns := m.orderedRuns + 1 }

/-- A table was trimmed without a scan order. -/
def countFallback (m : Metrics) : Metrics := { m with fallbackRuns := m.fallbackRuns + 1 }

def countSkipped (m : Metrics) : Metrics := { m with skippedRuns := m.skippedRuns + 1 }

def countFailure (m : Metrics) : Metrics := { m with failedRuns := m.failedRuns + 1 }

/-- A batch was committed that deleted so many rows. -/
def countBatch (m : Metrics) (rows : Nat) : Metrics :=
  { m with batches := m.batches + 1, rowsDeleted := m.rowsDeleted + UInt64.ofNat rows }

/-- Time was spent on a table. -/
def addDuration (m : Metrics) (d : Duration) : Metrics :=
  { m with durationMillis := m.durationMillis + UInt64.ofNat d.millis }

def summary (m : Metrics) : String :=
  s!"Trim metrics: ordered_runs={m.orderedRuns.toNat}, fallback_runs={m.fallbackRuns.toNat}, " ++
  s!"skipped={m.skippedRuns.toNat}, failed={m.failedRuns.toNat}, batches={m.batches.toNat}, " ++
  s!"rows_deleted={m.rowsDeleted.toNat}, duration={m.durationMillis.toNat}ms"

end Metrics

end HistoryTrim
