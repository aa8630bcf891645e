import HistoryTrim.Config
import HistoryTrim.Config.Environment
import HistoryTrim.Config.Toml
import HistoryTrim.Config.Value
import HistoryTrim.Dictionary
import HistoryTrim.Duration
import HistoryTrim.Version

/-! # Reading configurations

The fields that values have to fit, the sections that are made of fields, and the layers that a
configuration is read from.
-/

/-! ## Fields

How the fields of a configuration are read from values. Nothing is converted: a number is not
accepted for a text, nor a text for a number. Groups of fields are tables; a sequence of the
fields in their order is accepted too. Fields that are not known are passed over.
-/

namespace HistoryTrim.Config.Value

/-- A text; a single character is one. -/
def asText : Value → Reading String
  | text s => .ok s
  | character c => .ok c.toString
  | v => .wrongType v .text

def asTruth : Value → Reading Bool
  | truth b => .ok b
  | v => .wrongType v .truth

def asInteger (expected : Expected) (low high : Int) (v : Value) : Reading Int :=
  let within (n : Int) : Reading Int :=
    if low ≤ n ∧ n ≤ high then .ok n else .wrongValue v expected
  match v with
  | unsigned n => within n
  | signed n => within n
  | _ => .wrongType v expected

def asHeight (v : Value) : Reading Height := do
  return Int64.ofInt (← v.asInteger .height Int64.minValue.toInt Int64.maxValue.toInt)

def asSize (v : Value) : Reading Nat := do
  return (← v.asInteger .size 0 (UInt64.size - 1)).toNat

def asMultiplier (v : Value) : Reading UInt32 := do
  return UInt32.ofNat (← v.asInteger .multiplier 0 (UInt32.size - 1)).toNat

/-- A duration that a text denotes. -/
def asDuration (v : Value) : Reading Duration :=
  let read (s : String) : Reading Duration :=
    match Duration.read? s with
    | some d => .ok d
    | none => .wrongValue (text s) .duration
  match v with
  | text s => read s
  | character c => read c.toString
  | _ => .wrongType v .duration

/-- The items of a sequence, each read in the same way. -/
def asList {α : Type} (item : Value → Reading α) : Value → Reading (List α)
  | sequence items =>
    items.zipIdx.mapM fun i => Reading.under (toString i.2) (item i.1)
  | v => .wrongType v .sequence

/-- The entries of a table, each read in the same way. -/
def asDictionary {α : Type} (item : Value → Reading α) : Value → Reading (Dictionary α)
  | table entries => do
    let pairs ← entries.mapM fun e => do return (e.1, ← Reading.under e.1 (item e.2))
    return Dictionary.ofPairs pairs
  | v => .wrongType v .table

/-- One of several names. A table stands for the first of its names, which has nothing beside it. -/
def asChoice {α : Type} (choice : String) (variants : List (String × α)) : Value → Reading α
  | text s => find s
  | table [] => .wrongType (table []) .variant
  | table ((name, v) :: _) => do
    let a ← find name
    match v with
    | nothing => return a
    | v => Reading.under name (.wrongType v .nothing)
  | v => .wrongType v (.choice choice)
where
  find (name : String) : Reading α :=
    match variants.lookup name with
    | some a => .ok a
    | none => .error { fault := .unknownVariant name (variants.map Prod.fst) }

end HistoryTrim.Config.Value

namespace HistoryTrim.Config

/-- A group of fields, with the way each of them is read onto a draft. -/
structure Group (δ : Type) where
  name : String
  fields : List String
  /-- Read a field onto a draft; a field that is not known leaves the draft as it is. -/
  read : δ → String → Value → Reading δ

namespace Group

variable {α δ : Type}

/-- Read the fields that a value gives onto a draft. -/
def draft (g : Group δ) (start : δ) : Value → Reading δ
  | .table entries =>
    entries.foldlM (fun d e => Reading.under e.1 (g.read d e.1 e.2)) start
  | .sequence items =>
    (g.fields.zip items).zipIdx.foldlM
      (fun d e => Reading.under (toString e.2) (g.read d e.1.1 e.1.2)) start
  | v => .wrongType v (.fields g.name)

/-- A field that has to be given. -/
def require (g : Group δ) (v : Value) (field : String) : Option α → Reading α
  | some a => .ok a
  | none =>
    match v with
    | .sequence _ =>
      .error { fault := .invalidLength (g.fields.idxOf field) g.name g.fields.length }
    | _ => .error { fault := .missingField field }

end Group

end HistoryTrim.Config

/-! ## Sections

The groups of fields that a configuration consists of: the database, the trim options, the tables
and their key columns.
-/

namespace HistoryTrim.Config

/-- Types that a key column can be given. -/
def keyTypes : List (String × ColumnType) :=
  [("integer", .integer), ("text", .text), ("blob", .blob)]

structure KeyDraft where
  name : Option String := none
  type : ColumnType := .integer

def keyGroup : Group KeyDraft where
  name := "KeyColumnConfig"
  fields := ["name", "type"]
  read d field v :=
    match field with
    | "name" => do return { d with name := some (← v.asText) }
    | "type" => do return { d with type := ← v.asChoice "KeyColumnType" keyTypes }
    | _ => return d

/-- A key column; its type is that of integers unless it is given. -/
def readKey (v : Value) : Reading KeyColumn := do
  let d ← keyGroup.draft {} v
  return { name := ← keyGroup.require v "name" d.name, type := d.type }

structure TableDraft where
  name : Option String := none
  keys : Option (List KeyColumn) := none
  heightColumn : String := "height"
  latestColumn : String := "latest"

def tableGroup : Group TableDraft where
  name := "TableConfig"
  fields := ["name", "key_columns", "height_column", "latest_column"]
  read d field v :=
    match field with
    | "name" => do return { d with name := some (← v.asText) }
    | "key_columns" => do return { d with keys := some (← v.asList readKey) }
    | "height_column" => do return { d with heightColumn := ← v.asText }
    | "latest_column" => do return { d with latestColumn := ← v.asText }
    | _ => return d

def readTable (v : Value) : Reading Table := do
  let d ← tableGroup.draft {} v
  let name ← tableGroup.require v "name" d.name
  let keys ← tableGroup.require v "key_columns" d.keys
  return { name, keys, heightColumn := d.heightColumn, latestColumn := d.latestColumn }

def trimGroup : Group TrimOptions where
  name := "TrimConfig"
  fields := ["enabled", "max_rollback", "batch_size", "retained_height",
    "retained_height_enabled", "frequency", "tick_interval", "height_query", "tables"]
  read o field v :=
    match field with
    | "enabled" => do return { o with enabled := ← v.asTruth }
    | "max_rollback" => do return { o with maxRollback := ← v.asHeight }
    | "batch_size" => do return { o with batchSize := ← v.asSize }
    | "retained_height" => do return { o with retainedHeight := ← v.asHeight }
    | "retained_height_enabled" => do return { o with retainedHeightEnabled := ← v.asTruth }
    | "frequency" => do return { o with frequency := ← v.asDictionary Value.asMultiplier }
    | "tick_interval" => do return { o with tickInterval := ← v.asDuration }
    | "height_query" => do return { o with heightQuery := ← v.asText }
    | "tables" => do return { o with tables := ← v.asList readTable }
    | _ => return o

/-- The trim options; what is not given has its default. -/
def readTrim (v : Value) : Reading TrimOptions := trimGroup.draft {} v

def databaseGroup : Group (Option String) where
  name := "DatabaseConfig"
  fields := ["dsn"]
  read d field v :=
    match field with
    | "dsn" => some <$> v.asText
    | _ => return d

def readDatabase (v : Value) : Reading String := do
  databaseGroup.require v "dsn" (← databaseGroup.draft none v)

structure Draft where
  dsn : Option String := none
  trim : Option TrimOptions := none

def sections : Group Draft where
  name := "Configuration"
  fields := ["database", "trim"]
  read d field v :=
    match field with
    | "database" => do return { d with dsn := some (← readDatabase v) }
    | "trim" => do return { d with trim := some (← readTrim v) }
    | _ => return d

def read (v : Value) : Reading Config := do
  let d ← sections.draft {} v
  let dsn ← sections.require v "database" d.dsn
  let trim ← sections.require v "trim" d.trim
  return { dsn, trim }

/-! ## Layers

A configuration is what the environment says, over what a file says, over the defaults.
-/

inductive LoadError where
  /-- The file is not in its format. -/
  | unreadable
  | misfit (cause : Misfit)
  deriving Repr

def defaultFile : String := "ledgerdb.toml"

/-- What holds where neither the file nor the environment says otherwise. The trim options have
    their defaults by themselves. -/
def baseline : Value :=
  .table [("database", .table [("dsn", .text ({} : Config).dsn)]), ("trim", .table [])]

def readFile : Option String → Except LoadError Value
  | none => .ok (.table [])
  | some text =>
    match Toml.read? text with
    | some v => .ok v
    | none => .error .unreadable

/-- The configuration by the text of a file, if there is one, and environment variables. -/
def load (file : Option String) (environment : List (String × String)) :
    Except LoadError Config := do
  let fromFile ← readFile file
  let value := (Environment.read environment).onto (some (fromFile.onto (some baseline)))
  (read value).mapError .misfit

end HistoryTrim.Config
