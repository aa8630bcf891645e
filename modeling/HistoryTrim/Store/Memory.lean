import HistoryTrim.Dictionary
import HistoryTrim.Version
import HistoryTrim.Store
import HistoryTrim.Table.Schema

/-! # Stores in memory

Tables are histories, and names are exact. A failure can be arranged for a later batch, so that
interrupted trims can be studied.
-/

namespace HistoryTrim

/-- What a pass over all rows of a table finds out about its keys, in whatever order it meets them. -/
structure Tally where
  /-- The greatest height of a key, and whether the version there is latest. -/
  newest : Key → Option (Height × Bool)
  /-- The greatest height of a key among those that a trim could delete. -/
  boundary : Key → Option Height

namespace Tally

def empty : Tally := ⟨fun _ => none, fun _ => none⟩

def add (rule : RetentionRule) (tally : Tally) (v : Version) : Tally where
  newest key :=
    if key = v.key then
      match tally.newest key with
      | none => some (v.height, v.latest)
      | some top => if top.1 < v.height then some (v.height, v.latest) else some top
    else tally.newest key
  boundary key :=
    if key = v.key ∧ rule.spares v.height = false then
      match tally.boundary key with
      | none => some v.height
      | some best => some (max best v.height)
    else tally.boundary key

def ofRows (rule : RetentionRule) (rows : List Version) : Tally := rows.foldl (add rule) empty

/-- A version is to be deleted: it is within reach, and either its entity was gone before the
    window, or it is not the newest one within reach. -/
def dooms (rule : RetentionRule) (tally : Tally) (v : Version) : Bool :=
  !rule.spares v.height &&
    ((tally.newest v.key).any (fun top => decide (top.1 < rule.trimHeight) && !top.2) ||
      tally.boundary v.key != some v.height)

end Tally

structure MemoryTable where
  columnTypes : Dictionary ColumnType
  indexes : List Index
  history : History

/-- Tables in memory. -/
structure MemoryStore where
  tables : Dictionary MemoryTable := ∅
  /-- Batches that were begun, failed ones included. -/
  batchesStarted : Nat := 0
  /-- The batch that fails. -/
  failingBatch : Option Nat := none

namespace MemoryStore

/-- Types of the columns of a table: those of the keys, and integers for height and flag. -/
def columnTypes (t : Table) : Dictionary ColumnType :=
  Dictionary.ofPairs <|
    t.keys.map (fun c => (c.name, c.type)) ++
      [(t.heightColumn, .integer), (t.latestColumn, .integer)]

/-- Create an empty table with these indexes, in place of one of the same name. -/
def createTableWith (s : MemoryStore) (t : Table) (indexes : List Index) : MemoryStore :=
  let table : MemoryTable := { columnTypes := columnTypes t, indexes := indexes, history := ∅ }
  { s with tables := s.tables.put t.name table }

/-- Create an empty table with the index for the ordered scan. -/
def createTable (s : MemoryStore) (t : Table) : MemoryStore :=
  s.createTableWith t [t.scanIndexNamed t.scanIndexName]

/-- Replace the versions of a table. -/
def withHistory (s : MemoryStore) (name : String) (table : MemoryTable) (h : History) :
    MemoryStore :=
  { s with tables := s.tables.put name { table with history := h } }

/-- Record a version in a table. -/
def insert (s : MemoryStore) (name : String) (v : Version) : Except StoreError MemoryStore :=
  match s.tables.get? name with
  | none => .error (.unknownTable name)
  | some table => .ok (s.withHistory name table (table.history.insert v))

/-- The versions of a table in scan order. -/
def rows (s : MemoryStore) (name : String) : Except StoreError (List Version) :=
  match s.tables.get? name with
  | none => .error (.unknownTable name)
  | some table => .ok table.history.rows

/-- Let the `n`-th batch from now on fail. -/
def failOnBatch (s : MemoryStore) (n : Nat) : MemoryStore :=
  { s with failingBatch := some (s.batchesStarted + n) }

/-- Types and indexes of the tables; an unknown table has neither. -/
def catalog (s : MemoryStore) : Catalog where
  columnType table column :=
    .ok ((s.tables.get? table).bind fun t => t.columnTypes.get? column)
  indexes table :=
    .ok (((s.tables.get? table).map MemoryTable.indexes).getD [])

end MemoryStore

namespace History

/-- The versions whose leading key lies below the marker; a resumed scan passes them over. -/
def before (h : History) (marker : Int64) : List Version :=
  h.rows.takeWhile fun v => v.key.leading < marker

/-- The versions from the marker on. -/
def since (h : History) (marker : Int64) : List Version :=
  h.rows.dropWhile fun v => v.key.leading < marker

theorem before_append_since (h : History) (marker : Int64) :
    h.before marker ++ h.since marker = h.rows :=
  List.takeWhile_append_dropWhile

/-- Scan from the selector's marker on, up to a limit. -/
def sweep (h : History) (selector : RowSelector) (limit : Option Nat) : Sweep Version :=
  selector.sweep id limit (h.since selector.marker)

theorem sublist_sweep (h : History) (selector : RowSelector) (limit : Option Nat) :
    (h.before selector.marker ++ (h.sweep selector limit).spared).Sublist h.rows := by
  have := (List.Sublist.refl (h.before selector.marker)).append
    (RowSelector.spared_sublist id selector limit (h.since selector.marker))
  rwa [before_append_since] at this

/-- The history without the rows that a scan selects. -/
def afterSweep (h : History) (selector : RowSelector) (limit : Option Nat) : History :=
  h.restrict _ (h.sublist_sweep selector limit)

theorem size_afterSweep (h : History) (selector : RowSelector) (limit : Option Nat) :
    (h.afterSweep selector limit).size + (h.sweep selector limit).doomed.length = h.size := by
  have hsplit := congrArg List.length (h.before_append_since selector.marker)
  have hsweep := RowSelector.length_sweep id selector limit (h.since selector.marker)
  simp only [List.length_append] at hsplit
  simp only [afterSweep, size, restrict, List.length_append, sweep] at hsweep ⊢
  omega

end History

namespace MemoryStore

/-- One batch: it counts as begun, fails if that was arranged, and otherwise deletes what the
    selector picks. -/
def deleteBatch (s : MemoryStore) (t : Table) (selector : RowSelector) (limit : Option Nat) :
    Batch MemoryStore :=
  let s := { s with batchesStarted := s.batchesStarted + 1 }
  if s.failingBatch = some s.batchesStarted then
    { outcome := .error (.unavailable s!"injected failure on batch {s.batchesStarted}")
      selector, store := s }
  else match s.tables.get? t.name with
    | none => { outcome := .error (.unknownTable t.name), selector, store := s }
    | some table =>
      let sweep := table.history.sweep selector limit
      { outcome := .ok sweep.doomed.length
        selector := sweep.selector
        store := s.withHistory t.name table (table.history.afterSweep selector limit) }

theorem deleteBatch_eq {s : MemoryStore} {t : Table} {table : MemoryTable}
    (found : s.tables.get? t.name = some table)
    (notDue : s.failingBatch ≠ some (s.batchesStarted + 1)) (selector : RowSelector)
    (limit : Option Nat) :
    s.deleteBatch t selector limit =
      { outcome := .ok (table.history.sweep selector limit).doomed.length
        selector := (table.history.sweep selector limit).selector
        store := { s with batchesStarted := s.batchesStarted + 1 }.withHistory t.name table
          (table.history.afterSweep selector limit) } := by
  simp only [deleteBatch, if_neg notDue, found]

/-- The ways in which a batch ends. A refused one changes nothing but the count of batches. -/
inductive BatchEnds (s : MemoryStore) (t : Table) (selector : RowSelector) (limit : Option Nat) :
    Prop where
  | refused (e : StoreError)
      (reason : s.failingBatch = some (s.batchesStarted + 1) ∨ s.tables.get? t.name = none)
      (ends : s.deleteBatch t selector limit =
        ⟨.error e, selector, { s with batchesStarted := s.batchesStarted + 1 }⟩)
  | done (table : MemoryTable) (found : s.tables.get? t.name = some table)
      (notDue : s.failingBatch ≠ some (s.batchesStarted + 1))
      (ends : s.deleteBatch t selector limit =
        ⟨.ok (table.history.sweep selector limit).doomed.length,
          (table.history.sweep selector limit).selector,
          { s with batchesStarted := s.batchesStarted + 1 }.withHistory t.name table
            (table.history.afterSweep selector limit)⟩)

theorem batch_ends (s : MemoryStore) (t : Table) (selector : RowSelector) (limit : Option Nat) :
    s.BatchEnds t selector limit := by
  by_cases due : s.failingBatch = some (s.batchesStarted + 1)
  · exact .refused _ (.inl due) (if_pos due)
  · cases found : s.tables.get? t.name with
    | none =>
      refine .refused (.unknownTable t.name) (.inr found) ?_
      simp only [deleteBatch, if_neg due, found]
    | some table => exact .done table found due (deleteBatch_eq found due selector limit)

/-- Delete all versions at once that a pass over the table finds to be obsolete. -/
def trimUnordered (s : MemoryStore) (t : Table) (rule : RetentionRule) :
    Except StoreError Nat × MemoryStore :=
  match s.tables.get? t.name with
  | none => (.error (.unknownTable t.name), s)
  | some table =>
    let tally := Tally.ofRows rule table.history.rows
    let doomed := table.history.rows.filter (tally.dooms rule)
    let rest := table.history.filter fun v => !tally.dooms rule v
    (.ok doomed.length, s.withHistory t.name table rest)

def population (s : MemoryStore) (t : Table) : Nat :=
  ((s.tables.get? t.name).map fun table => table.history.size).getD 0

theorem population_deleteBatch (s : MemoryStore) (t : Table) (selector : RowSelector)
    (limit : Option Nat) (n : Nat) (h : (s.deleteBatch t selector limit).outcome = .ok n) :
    (s.deleteBatch t selector limit).store.population t + n ≤ s.population t := by
  cases s.batch_ends t selector limit with
  | refused e _ ends =>
    rw [ends] at h
    cases h
  | done table found _ ends =>
    have size := table.history.size_afterSweep selector limit
    rw [ends] at h ⊢
    cases h
    simp only [population, withHistory, Dictionary.get?_put, if_true, found, Option.map_some,
      Option.getD_some]
    omega

instance : VersionStore MemoryStore where
  catalog := catalog
  deleteBatch := deleteBatch
  trimUnordered := trimUnordered
  population := population
  population_deleteBatch := population_deleteBatch

end MemoryStore

end HistoryTrim
