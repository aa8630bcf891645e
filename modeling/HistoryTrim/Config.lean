import HistoryTrim.Duration
import HistoryTrim.Retention
import HistoryTrim.Table.Schema
import HistoryTrim.Text.Characters
import HistoryTrim.Text.Quoted

/-! # Options and configurations

What the program is told, how it is checked, and how it is shown.
-/

/-! ## Trim options

What a user can say about trimming, and the settings that follow from it when it is consistent.
The height whose versions are always kept has to be negative, so that it is no height of the
chain; a multiplier of zero would never let a table be due.
-/

namespace HistoryTrim

/-- What is configured about trimming. -/
structure TrimOptions where
  /-- Trim at all when running as a service. -/
  enabled : Bool := true
  /-- How many blocks may be rolled back. -/
  maxRollback : Height := 800
  /-- Rows per batch; zero stands for one batch without a limit. -/
  batchSize : Nat := 1000
  /-- The height whose versions are always kept. -/
  retainedHeight : Height := -1
  /-- Whether versions at the retained height are kept at all. -/
  retainedHeightEnabled : Bool := true
  /-- Multipliers of the tables that are not trimmed at every opportunity. -/
  frequency : Dictionary UInt32 := ∅
  /-- Time between opportunities when running as a service. -/
  tickInterval : Duration := ⟨10, 0⟩
  /-- The query that answers the current height. -/
  heightQuery : String := "SELECT MAX(height) FROM block"
  tables : List Table := []
  deriving Repr, DecidableEq

namespace TrimOptions

/-- The multiplier of a table, one unless it is given. -/
def frequencyFor (o : TrimOptions) (table : String) : UInt32 := (o.frequency.get? table).getD 1

/-- The height whose versions are always kept, if there is one. -/
def effectiveRetained (o : TrimOptions) : Option Height :=
  if o.retainedHeightEnabled then some o.retainedHeight else none

/-- Rows per batch, if there is a limit. -/
def batchLimit (o : TrimOptions) : Option Nat :=
  if 0 < o.batchSize then some o.batchSize else none

end TrimOptions

inductive OptionsError where
  | negativeRollback (depth : Height)
  /-- A table would never be due. -/
  | zeroFrequency (table : String)
  /-- The height to be kept could be one of the chain. -/
  | retainedHeightNotSentinel (height : Height)
  | invalidTable (table : String) (cause : DefinitionError)
  deriving Repr, DecidableEq

namespace OptionsError

def message : OptionsError → String
  | negativeRollback d => s!"Invalid max rollback {d}: must not be negative"
  | zeroFrequency t => s!"Invalid trim frequency for table '{t}': must be at least 1"
  | retainedHeightNotSentinel h =>
    s!"Invalid retained height {h}: must be negative so it never matches a chain height"
  | invalidTable t e => s!"Invalid definition for table '{t}': {e.message}"

end OptionsError

namespace TrimOptions

def checkTables : List Table → Except OptionsError Unit
  | [] => .ok ()
  | t :: ts =>
    match t.validate with
    | .error e => .error (.invalidTable t.name e)
    | .ok () => checkTables ts

/-- Check options: the depth, the multipliers, the retained height, then the tables. -/
def check (o : TrimOptions) : Except OptionsError Unit :=
  if o.maxRollback < 0 then .error (.negativeRollback o.maxRollback)
  else match o.frequency.entries.find? fun e => e.2 = 0 with
    | some e => .error (.zeroFrequency e.1)
    | none =>
      match o.effectiveRetained.filter fun h => 0 ≤ h with
      | some h => .error (.retainedHeightNotSentinel h)
      | none => checkTables o.tables

/-- The settings that follow from consistent options. -/
def settings (o : TrimOptions) : Except OptionsError TrimSettings :=
  match o.check with
  | .error e => .error e
  | .ok () => .ok
    { depth := o.maxRollback, batchSize := o.batchLimit, retained := o.effectiveRetained
      frequency := o.frequency }

end TrimOptions

end HistoryTrim

/-! ## Configurations

Where the database is, and what is to be trimmed there. Beside the checks on the trim options,
a configuration is checked for what a run of the program needs.
-/

namespace HistoryTrim

/-- What the program is told. -/
structure Config where
  dsn : String := "sqlite://.data/ledgerdb.db"
  trim : TrimOptions := {}
  deriving Repr, DecidableEq

inductive ConfigError where
  | emptyDsn
  | emptyHeightQuery
  | noKeyColumns (table : String)
  | repeatedTable (table : String)
  deriving Repr, DecidableEq

namespace ConfigError

def message : ConfigError → String
  | emptyDsn => "Database DSN cannot be empty"
  | emptyHeightQuery => "Trim height query cannot be empty"
  | noKeyColumns t => s!"Table {t} has no key columns"
  | repeatedTable t => s!"Table {t} is configured more than once"

end ConfigError

namespace Config

/-- Check that tables have keys and names of their own, in order. -/
def checkTables (seen : List String) : List Table → Except ConfigError Unit
  | [] => .ok ()
  | t :: ts =>
    if t.keys.isEmpty then .error (.noKeyColumns t.name)
    else if t.name ∈ seen then .error (.repeatedTable t.name)
    else checkTables (t.name :: seen) ts

/-- Check a configuration: the address, the height query, then the tables. -/
def check (c : Config) : Except ConfigError Unit :=
  if c.dsn.isEmpty then .error .emptyDsn
  else if Text.isAllBlank c.trim.heightQuery then .error .emptyHeightQuery
  else checkTables [] c.trim.tables

/-- Tables that have a multiplier but are not configured. -/
def unusedFrequencies (c : Config) : List String :=
  c.trim.frequency.names.filter fun name => name ∉ c.trim.tables.map Table.name

end Config

end HistoryTrim

/-! ## Shown configurations

A configuration is shown as a few lines, or as a JSON document that names all fields as they are
named in a file.
-/

namespace HistoryTrim.Config

def keyJson (k : KeyColumn) : Text.Json :=
  .object [("name", .text k.name), ("type", .text (Text.lowerAscii k.type.sqlName))]

def tableJson (t : Table) : Text.Json :=
  .object [("name", .text t.name), ("key_columns", .list (t.keys.map keyJson)),
    ("height_column", .text t.heightColumn), ("latest_column", .text t.latestColumn)]

def trimJson (o : TrimOptions) : Text.Json :=
  .object [("enabled", .truth o.enabled), ("max_rollback", .number o.maxRollback.toInt),
    ("batch_size", .number o.batchSize), ("retained_height", .number o.retainedHeight.toInt),
    ("retained_height_enabled", .truth o.retainedHeightEnabled),
    ("frequency", .object (o.frequency.entries.map fun e => (e.1, .number e.2.toNat))),
    ("tick_interval", .text o.tickInterval.written), ("height_query", .text o.heightQuery),
    ("tables", .list (o.tables.map tableJson))]

def toJson (c : Config) : Text.Json :=
  .object [("database", .object [("dsn", .text c.dsn)]), ("trim", trimJson c.trim)]

/-- A table on one line. -/
def tableLine (o : TrimOptions) (t : Table) : String :=
  let keys := ", ".intercalate t.keyNames
  s!"Table {t.name}: keys=({keys}), every {(o.frequencyFor t.name).toNat} opportunities"

/-- A configuration on several lines. -/
def summary (c : Config) : List String :=
  ["LedgerDB Configuration:",
    "=======================",
    s!"Database DSN: {c.dsn}",
    s!"Trim enabled: {c.trim.enabled}",
    s!"Max rollback: {c.trim.maxRollback}",
    match c.trim.effectiveRetained with
      | some h => s!"Retained height: {h}"
      | none => "Retained height: disabled",
    match c.trim.batchLimit with
      | some n => s!"Batch size: {n}"
      | none => "Batch size: unbounded",
    s!"Tick interval: {c.trim.tickInterval.compact}",
    s!"Height query: {c.trim.heightQuery}"] ++
  c.trim.tables.map (tableLine c.trim)

end HistoryTrim.Config
