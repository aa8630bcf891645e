import HistoryTrim.Database.Route
import HistoryTrim.Store

/-! # Ordered trims of relations

A batch reads the rows of a table from a leading value on, in scan order, and hands them to a
selector as versions. Cells may hold anything, so reading can fail; then nothing is deleted. The
selected rows are deleted by what the name `rowid` denotes, which is the number of the row unless
the table has a column of that name.
-/

namespace HistoryTrim.Database

/-- Read a cell of an answer as an integer; nothing counts as zero. -/
def readInteger (column : Nat) : Cell → Except DatabaseError Int64
  | .null => .ok 0
  | .integer n => .ok n
  | c => .error (.mismatch column .integer c.storageClass)

/-- Read a cell as a truth value; nothing counts as false. -/
def readTruth (column : Nat) : Cell → Except DatabaseError Bool
  | .null => .ok false
  | .integer n => .ok (n != 0)
  | c => .error (.mismatch column .truth c.storageClass)

/-- Read a cell as a text; nothing counts as the empty text. -/
def readText (column : Nat) : Cell → Except DatabaseError String
  | .null => .ok ""
  | .text s => .ok s
  | c => .error (.mismatch column .text c.storageClass)

/-- Read a cell as bytes; a text counts as the bytes of its encoding, nothing as no bytes. -/
def readBytes (column : Nat) : Cell → Except DatabaseError (List UInt8)
  | .null => .ok []
  | .blob bytes => .ok bytes
  | .text s => .ok s.toUTF8.toList
  | c => .error (.mismatch column .bytes c.storageClass)

/-- Read a cell as a key value, as the definition of its column says. -/
def readKeyValue (type : ColumnType) (column : Nat) (c : Cell) : Except DatabaseError KeyValue :=
  match type with
  | .integer => (readInteger column c).map .integer
  | .text => (readText column c).map .text
  | _ => (readBytes column c).map .blob

/-- Read cells as key values, numbering the columns of the answer. -/
def readKeyValues (column : Nat) :
    List (ColumnType × Cell) → Except DatabaseError (List KeyValue)
  | [] => .ok []
  | (type, c) :: rest => do
    let value ← readKeyValue type column c
    let values ← readKeyValues (column + 1) rest
    return value :: values

/-- Where the parts of a version are found in a relation. -/
structure VersionColumns where
  leading : Source
  further : List (ColumnType × Source)
  height : Source
  latest : Source

namespace VersionColumns

/-- Scan order: keys ascending, then the greatest height first. -/
def order (c : VersionColumns) : List (Source × Bool) :=
  (c.leading, false) :: c.further.map (fun f => (f.2, false)) ++ [(c.height, true)]

def asked (c : VersionColumns) : List Source :=
  c.leading :: c.further.map Prod.snd ++ [c.height, c.latest]

/-- Read a version out of a record. Column zero of the answer is the number of the row. -/
def read (c : VersionColumns) (r : Record) : Except DatabaseError Version := do
  let leading ← readInteger 1 (c.leading.cell r)
  let rest ← readKeyValues 2 (c.further.map fun f => (f.1, f.2.cell r))
  let height ← readInteger (c.further.length + 2) (c.height.cell r)
  let latest ← readTruth (c.further.length + 3) (c.latest.cell r)
  return { key := { leading, rest }, height, latest }

end VersionColumns

/-- Where a definition finds its columns in a relation; a definition without keys finds none. -/
def Relation.versionColumns? (rel : Relation) (t : Table) : Option VersionColumns :=
  match t.keys with
  | [] => none
  | leading :: further => some
    { leading := rel.quotedSource leading.name
      further := further.map fun k => (k.type, rel.quotedSource k.name)
      height := rel.quotedSource t.heightColumn
      latest := rel.quotedSource t.latestColumn }

theorem Relation.versionColumns?_eq_some {rel : Relation} {t : Table} {columns : VersionColumns}
    (found : rel.versionColumns? t = some columns) :
    ∃ leading further, t.keys = leading :: further ∧ columns =
      { leading := rel.quotedSource leading.name
        further := further.map fun k => (k.type, rel.quotedSource k.name)
        height := rel.quotedSource t.heightColumn
        latest := rel.quotedSource t.latestColumn } := by
  cases keys : t.keys with
  | nil =>
    rw [versionColumns?, keys] at found
    cases found
  | cons leading further =>
    rw [versionColumns?, keys] at found
    exact ⟨leading, further, rfl, (Option.some.inj found).symm⟩

/-- The records that can be read up to the first that cannot, with what was read, and the error. -/
def readable {α β : Type} (read : α → Except DatabaseError β) :
    List α → List (α × β) × Option DatabaseError
  | [] => ([], none)
  | r :: rs =>
    match read r with
    | .error e => ([], some e)
    | .ok v =>
      let (rest, fault) := readable read rs
      ((r, v) :: rest, fault)

/-- Read all values, or find the place and the error of the first that cannot be read. -/
def readAll {α β : Type} (read : α → Except DatabaseError β) (place : Nat) :
    List α → Except (Nat × DatabaseError) (List β)
  | [] => .ok []
  | r :: rs =>
    match read r with
    | .error e => .error (place, e)
    | .ok v => (readAll read (place + 1) rs).map (v :: ·)

/-- How selected rows are told apart when they are deleted. -/
inductive RowHandle where
  /-- By the number of the row. -/
  | number
  /-- By the value of a column that is named like the number. -/
  | column (source : Source)
  deriving Repr, DecidableEq

/-- What the name `rowid` denotes in a relation. -/
def Relation.rowHandle? (rel : Relation) : Except EngineError RowHandle :=
  match rel.source? "rowid" with
  | none => .error (.noSuchColumn "rowid")
  | some .rowid => .ok .number
  | some s => .ok (.column s)

/-- For every selected row the test by which it is deleted, or why the batch fails and after how many
    selected rows. -/
def RowHandle.tests (handle : RowHandle) (selected : List Record) :
    Except (Nat × DatabaseError) (List (Record → Bool)) :=
  match handle with
  | .number => .ok (selected.map fun s r => r.rowid == s.rowid)
  | .column s => do
    let values ← readAll (fun r => readInteger 0 (s.cell r)) 0 selected
    return values.map fun n r => s.holds (· == .eq) r n

/-- How many selected rows a statement deletes. -/
def deleteChunk : Nat := 500

/-- Delete the rows that pass one of some tests, chunk by chunk, and count them. -/
def Relation.deleteRows (rel : Relation) : List (Record → Bool) → Nat × Relation
  | [] => (0, rel)
  | test :: tests =>
    let chunk := test :: tests.take (deleteChunk - 1)
    let rest := rel.keep fun r => !chunk.any (· r)
    let (deleted, last) := rest.deleteRows (tests.drop (deleteChunk - 1))
    (rel.records.length - rest.records.length + deleted, last)
termination_by tests => tests.length
decreasing_by
  simp only [List.length_drop, List.length_cons]
  omega

structure ScanResult where
  /-- Tests for the rows to delete. -/
  doomed : Except DatabaseError (List (Record → Bool))
  selector : RowSelector

/-- The rows from the selector's marker on, in scan order; rows that are equal in it stay as they
    were visited. -/
def Relation.scan (rel : Relation) (columns : VersionColumns) (marker : Int64) : List Record :=
  let route := rel.route columns.order columns.asked
  Relation.sortBy columns.order
    (route.visit (rel.records.filter fun r => columns.leading.holds Ordering.isGE r marker))

/-- Scan a relation for a batch. A row that cannot be read ends the scan, unless the limit was
    reached before it. -/
def Relation.select (rel : Relation) (columns : VersionColumns) (handle : RowHandle)
    (selector : RowSelector) (limit : Option Nat) : ScanResult :=
  let (rows, fault) := readable columns.read (rel.scan columns selector.marker)
  let sweep := selector.sweep Prod.snd limit rows
  match handle.tests (sweep.doomed.map Prod.fst) with
  | .error (place, e) =>
    { doomed := .error e
      selector := (selector.sweep Prod.snd (some (place + 1)) rows).selector }
  | .ok tests =>
    match sweep.complete, fault with
    | true, some e => { doomed := .error e, selector := sweep.selector }
    | _, _ => { doomed := .ok tests, selector := sweep.selector }

theorem Relation.select_selector (rel : Relation) (columns : VersionColumns) (handle : RowHandle)
    (selector : RowSelector) (limit : Option Nat) :
    let rows := (readable columns.read (rel.scan columns selector.marker)).1
    ∃ upTo, (rel.select columns handle selector limit).selector =
      (selector.sweep Prod.snd upTo rows).selector := by
  simp only [select]
  split
  · exact ⟨_, rfl⟩
  · refine ⟨limit, ?_⟩
    split <;> rfl

/-- One batch of an ordered trim. -/
def deleteBatch (db : Database) (t : Table) (selector : RowSelector) (limit : Option Nat) :
    Except StoreError Nat × RowSelector × Database :=
  let fail (e : StoreError) := (Except.error e, selector, db)
  match t.validate with
  | .error e => fail (.invalidTable e)
  | .ok () =>
    match t.keys.head? with
    | none => fail (.invalidTable (.noKeyColumns t.name))
    | some leading =>
      if leading.type ≠ .integer then fail (.nonIntegerLeadingKey t.name leading.name)
      else match db.find? t.name with
        | none => fail (.database (.engine (.noSuchTable t.name)))
        | some rel =>
          match rel.rowHandle?, rel.versionColumns? t with
          | .error e, _ => fail (.database (.engine e))
          | .ok _, none => fail (.invalidTable (.noKeyColumns t.name))
          | .ok handle, some columns =>
            let scan := rel.select columns handle selector limit
            match scan.doomed with
            | .error e => (.error (.database e), scan.selector, db)
            | .ok tests =>
              let (deleted, rest) := rel.deleteRows tests
              if deleted ≠ 0 ∧ !db.writable then
                (.error (.database (.engine .readOnly)), scan.selector, db)
              else (.ok deleted, scan.selector, db.replace t.name rest)

/-- A batch, as the class of stores has it. -/
def batch (db : Database) (t : Table) (selector : RowSelector) (limit : Option Nat) :
    Batch Database :=
  let (outcome, selector, store) := db.deleteBatch t selector limit
  { outcome, selector, store }

/-- The definitions whose tables are trimmed in order. -/
structure Orderable (t : Table) : Prop where
  valid : t.validate = .ok ()
  integer : ∃ leading ∈ t.keys.head?, leading.type = .integer

theorem Orderable.of_keys {t : Table} {leading : KeyColumn} {further : List KeyColumn}
    (valid : t.validate = .ok ()) (keys : t.keys = leading :: further)
    (integer : leading.type = .integer) : Orderable t where
  valid := valid
  integer := ⟨leading, by rw [keys, List.head?_cons, Option.mem_some], integer⟩

/-- Why a batch is refused before it scans anything. -/
inductive Refused (db : Database) (t : Table) : StoreError → Prop where
  | invalid {e : DefinitionError} (invalid : t.validate = .error e) : Refused db t (.invalidTable e)
  | keyless (valid : t.validate = .ok ()) (keyless : t.keys.head? = none) :
      Refused db t (.invalidTable (.noKeyColumns t.name))
  | leading {k : KeyColumn} (valid : t.validate = .ok ()) (first : t.keys.head? = some k)
      (other : k.type ≠ .integer) : Refused db t (.nonIntegerLeadingKey t.name k.name)
  | missing (orderable : Orderable t) (missing : db.find? t.name = none) :
      Refused db t (.database (.engine (.noSuchTable t.name)))
  | unnumbered {rel : Relation} {e : EngineError} (orderable : Orderable t)
      (found : db.find? t.name = some rel) (unnumbered : rel.rowHandle? = .error e) :
      Refused db t (.database (.engine e))

theorem Relation.exists_versionColumns (rel : Relation) {t : Table} {leading : KeyColumn}
    (first : t.keys.head? = some leading) : ∃ columns, rel.versionColumns? t = some columns := by
  obtain ⟨further, keys⟩ := List.head?_eq_some_iff.1 first
  rw [Relation.versionColumns?, keys]
  exact ⟨_, rfl⟩

/-- What a batch scans, and how. -/
structure Scans (db : Database) (t : Table) (rel : Relation) (columns : VersionColumns)
    (handle : RowHandle) : Prop where
  orderable : Orderable t
  found : db.find? t.name = some rel
  handled : rel.rowHandle? = .ok handle
  columnsFound : rel.versionColumns? t = some columns

theorem refused_or_scans (db : Database) (t : Table) :
    (∃ e, db.Refused t e) ∨ ∃ rel columns handle, db.Scans t rel columns handle := by
  cases valid : t.validate with
  | error e => exact .inl ⟨_, .invalid valid⟩
  | ok =>
      cases first : t.keys.head? with
      | none => exact .inl ⟨_, .keyless valid first⟩
      | some leading =>
          by_cases integer : leading.type = .integer
          · have orderable : Orderable t := ⟨valid, leading, first, integer⟩
            cases found : db.find? t.name with
            | none => exact .inl ⟨_, .missing orderable found⟩
            | some rel =>
                cases handled : rel.rowHandle? with
                | error e => exact .inl ⟨_, .unnumbered orderable found handled⟩
                | ok handle =>
                    obtain ⟨columns, columnsFound⟩ := rel.exists_versionColumns first
                    exact .inr ⟨rel, columns, handle, orderable, found, handled, columnsFound⟩
          · exact .inl ⟨_, .leading valid first integer⟩

theorem Refused.batch_eq {db : Database} {t : Table} {e : StoreError} (refused : db.Refused t e)
    (selector : RowSelector) (limit : Option Nat) :
    db.batch t selector limit = ⟨.error e, selector, db⟩ := by
  cases refused with
  | invalid invalid => simp only [batch, deleteBatch, invalid]
  | keyless valid keyless => simp only [batch, deleteBatch, valid, keyless]
  | leading valid first other =>
      simp only [batch, deleteBatch, valid, first, ne_eq, other, not_false_eq_true, if_true]
  | missing orderable missing =>
      obtain ⟨valid, leading, first, integer⟩ := orderable
      rw [Option.mem_def] at first
      simp only [batch, deleteBatch, valid, first, ne_eq, integer, not_true_eq_false, if_false,
        missing]
  | unnumbered orderable found unnumbered =>
      obtain ⟨valid, leading, first, integer⟩ := orderable
      rw [Option.mem_def] at first
      simp only [batch, deleteBatch, valid, first, ne_eq, integer, not_true_eq_false, if_false,
        found, unnumbered]

namespace Scans

variable {db : Database} {t : Table} {rel : Relation} {columns : VersionColumns}
  {handle : RowHandle} {selector : RowSelector} {limit : Option Nat}
  {tests : List (Record → Bool)}

theorem deleteBatch_eq (scans : db.Scans t rel columns handle) (selector : RowSelector)
    (limit : Option Nat) :
    db.deleteBatch t selector limit =
      match (rel.select columns handle selector limit).doomed with
      | .error e =>
        (.error (.database e), (rel.select columns handle selector limit).selector, db)
      | .ok tests =>
        if (rel.deleteRows tests).1 ≠ 0 ∧ !db.writable then
          (.error (.database (.engine .readOnly)),
            (rel.select columns handle selector limit).selector, db)
        else
          (.ok (rel.deleteRows tests).1, (rel.select columns handle selector limit).selector,
            db.replace t.name (rel.deleteRows tests).2) := by
  obtain ⟨⟨valid, leading, first, integer⟩, found, handled, columnsFound⟩ := scans
  rw [Option.mem_def] at first
  simp only [deleteBatch, valid, first, ne_eq, integer, not_true_eq_false, if_false, found, handled,
    columnsFound]

theorem batch_unread (scans : db.Scans t rel columns handle) {e : DatabaseError}
    (fault : (rel.select columns handle selector limit).doomed = .error e) :
    db.batch t selector limit =
      ⟨.error (.database e), (rel.select columns handle selector limit).selector, db⟩ := by
  simp only [batch, scans.deleteBatch_eq, fault]

theorem batch_readOnly (scans : db.Scans t rel columns handle)
    (selects : (rel.select columns handle selector limit).doomed = .ok tests)
    (some : (rel.deleteRows tests).1 ≠ 0) (readOnly : db.writable = false) :
    db.batch t selector limit =
      ⟨.error (.database (.engine .readOnly)),
        (rel.select columns handle selector limit).selector, db⟩ := by
  have locked : (rel.deleteRows tests).1 ≠ 0 ∧ (!db.writable) = true := ⟨some, by rw [readOnly]; rfl⟩
  simp only [batch, scans.deleteBatch_eq, selects, if_pos locked]

theorem batch_done (scans : db.Scans t rel columns handle)
    (selects : (rel.select columns handle selector limit).doomed = .ok tests)
    (allowed : (rel.deleteRows tests).1 = 0 ∨ db.writable = true) :
    db.batch t selector limit =
      ⟨.ok (rel.deleteRows tests).1, (rel.select columns handle selector limit).selector,
        db.replace t.name (rel.deleteRows tests).2⟩ := by
  have free : ¬((rel.deleteRows tests).1 ≠ 0 ∧ (!db.writable) = true) := by
    rintro ⟨some, readOnly⟩
    rcases allowed with none | writable
    · exact some none
    · rw [writable] at readOnly
      cases readOnly
  simp only [batch, scans.deleteBatch_eq, selects, if_neg free]

end Scans

/-- The ways in which a batch ends. -/
inductive BatchEnds (db : Database) (t : Table) (selector : RowSelector) (limit : Option Nat)
    (b : Batch Database) : Prop where
  /-- It does not get to a scan. -/
  | refused {e : StoreError} (refused : db.Refused t e) (ends : b = ⟨.error e, selector, db⟩)
  /-- The scan meets a row that it cannot read. -/
  | unread {rel : Relation} {columns : VersionColumns} {handle : RowHandle} {e : DatabaseError}
      (scans : db.Scans t rel columns handle)
      (fault : (rel.select columns handle selector limit).doomed = .error e)
      (ends : b = ⟨.error (.database e), (rel.select columns handle selector limit).selector, db⟩)
  /-- There are rows to delete, and none may be. -/
  | readOnly {rel : Relation} {columns : VersionColumns} {handle : RowHandle}
      {tests : List (Record → Bool)} (scans : db.Scans t rel columns handle)
      (selects : (rel.select columns handle selector limit).doomed = .ok tests)
      (some : (rel.deleteRows tests).1 ≠ 0) (readOnly : db.writable = false)
      (ends : b = ⟨.error (.database (.engine .readOnly)),
        (rel.select columns handle selector limit).selector, db⟩)
  | done {rel : Relation} {columns : VersionColumns} {handle : RowHandle}
      {tests : List (Record → Bool)} (scans : db.Scans t rel columns handle)
      (selects : (rel.select columns handle selector limit).doomed = .ok tests)
      (allowed : (rel.deleteRows tests).1 = 0 ∨ db.writable = true)
      (ends : b = ⟨.ok (rel.deleteRows tests).1,
        (rel.select columns handle selector limit).selector,
        db.replace t.name (rel.deleteRows tests).2⟩)

theorem batch_ends (db : Database) (t : Table) (selector : RowSelector) (limit : Option Nat) :
    db.BatchEnds t selector limit (db.batch t selector limit) := by
  rcases db.refused_or_scans t with ⟨e, refused⟩ | ⟨rel, columns, handle, scans⟩
  · exact .refused refused (refused.batch_eq selector limit)
  · cases selects : (rel.select columns handle selector limit).doomed with
    | error e => exact .unread scans selects (scans.batch_unread selects)
    | ok tests =>
        by_cases none : (rel.deleteRows tests).1 = 0
        · exact .done scans selects (.inl none) (scans.batch_done selects (.inl none))
        · cases writable : db.writable with
          | false =>
            exact .readOnly scans selects none writable (scans.batch_readOnly selects none writable)
          | true => exact .done scans selects (.inr writable) (scans.batch_done selects (.inr writable))

end HistoryTrim.Database
