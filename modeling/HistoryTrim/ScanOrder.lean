import HistoryTrim.Store

/-! # Scan order

An ordered trim needs the rows of a table by key ascending and height descending, and must be able
to start at a leading value. Both come from one index, so a table is trimmed in order exactly when
the catalog shows a single index that fits; otherwise the first thing that does not fit is named.
-/

namespace HistoryTrim

/-- Why a table cannot be scanned in order. -/
inductive ScanOrderMismatch where
  | noKeyColumns
  /-- The catalog could not be read. -/
  | catalogUnavailable (cause : StoreError)
  | missingColumn (column : String)
  | leadingColumnNotInteger (column : String) (found : ColumnType)
  /-- No index starts with the leading column ascending. -/
  | noCandidateIndex (column : String)
  /-- Several indexes do. -/
  | ambiguousIndex (column : String) (indexes : List String)
  /-- An index has another column, or none, where a key column is expected. -/
  | keyColumnMismatch (index : String) (position : Nat) (expected : String)
      (found : Option String)
  | keyColumnDescending (index column : String)
  /-- The keys are not followed by the height. -/
  | missingHeightColumn (index column : String)
  | heightNotDescending (index column : String)
  deriving Repr, DecidableEq

namespace ScanOrderMismatch

def message : ScanOrderMismatch → String
  | noKeyColumns => "table has no key columns"
  | catalogUnavailable e => s!"index catalog could not be read: {e.message}"
  | missingColumn c => s!"column {c} does not exist"
  | leadingColumnNotInteger c found =>
    s!"leading key column {c} is {found.sqlName}, not a 64-bit integer"
  | noCandidateIndex c => s!"no index starts with {c} ascending"
  | ambiguousIndex c names =>
    s!"{names.length} indexes start with {c} ascending: " ++ ", ".intercalate names
  | keyColumnMismatch i position expected found =>
    s!"index {i} has {Text.quotedOption found} at position {position}, expected {expected}"
  | keyColumnDescending i c => s!"index {i} orders key column {c} descending"
  | missingHeightColumn i c => s!"index {i} is not followed by height column {c}"
  | heightNotDescending i c => s!"index {i} orders height column {c} ascending"

end ScanOrderMismatch

/-- How a table can be trimmed. -/
inductive ScanOrder where
  /-- In order, by this index. -/
  | available (index : String)
  /-- Only without an order. -/
  | unavailable (reason : ScanOrderMismatch)
  deriving Repr, DecidableEq

namespace ScanOrder

def isAvailable : ScanOrder → Bool
  | available _ => true
  | unavailable _ => false

end ScanOrder

namespace Index

def startsWith (i : Index) (column : String) : Bool :=
  match i.columns with
  | [] => false
  | c :: _ => c.name == column && !c.descending

/-- Walk the key columns after the leading one, then the height, along the columns of the index.
    Columns after the height do not matter. -/
def fits (index : String) (position : Nat) (height : String) :
    List String → List IndexColumn → Except ScanOrderMismatch Unit
  | [], [] => .error (.missingHeightColumn index height)
  | [], c :: _ =>
    if c.name ≠ height then .error (.missingHeightColumn index height)
    else if c.descending then .ok ()
    else .error (.heightNotDescending index height)
  | k :: _, [] => .error (.keyColumnMismatch index position k none)
  | k :: ks, c :: cs =>
    if c.name ≠ k then .error (.keyColumnMismatch index position k (some c.name))
    else if c.descending then .error (.keyColumnDescending index k)
    else fits index (position + 1) height ks cs

end Index

namespace Table

/-- The index that gives the scan order of a table, or the first thing that does not fit. -/
def checkScanOrder (t : Table) (catalog : Catalog) : Except ScanOrderMismatch String :=
  match t.keyNames with
  | [] => .error .noKeyColumns
  | leading :: further =>
    match catalog.columnType t.name leading with
    | .error e => .error (.catalogUnavailable e)
    | .ok none => .error (.missingColumn leading)
    | .ok (some type) =>
      if type ≠ .integer then .error (.leadingColumnNotInteger leading type)
      else match catalog.indexes t.name with
        | .error e => .error (.catalogUnavailable e)
        | .ok indexes =>
          match indexes.filter (·.startsWith leading) with
          | [] => .error (.noCandidateIndex leading)
          | [i] =>
            match Index.fits i.name 1 t.heightColumn further i.columns.tail with
            | .error m => .error m
            | .ok () => .ok i.name
          | several => .error (.ambiguousIndex leading (several.map Index.name))

def scanOrder (t : Table) (catalog : Catalog) : ScanOrder :=
  match t.checkScanOrder catalog with
  | .ok index => .available index
  | .error reason => .unavailable reason

end Table

end HistoryTrim
