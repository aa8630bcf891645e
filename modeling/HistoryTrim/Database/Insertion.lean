import HistoryTrim.Database.Creation

/-! # Writing and listing rows

Rows are written all together or not at all. A row is refused when a required value is missing or
when it clashes with a stored row under a unique index.
-/

namespace HistoryTrim.Database

/-- A row as it is written: values for some of the columns. -/
abbrev WrittenRow := List Cell

namespace Relation

/-- Positions of the columns that a statement writes to, which calls the table by some name. -/
def positions (rel : Relation) (table : String) : List String → Except EngineError (List Nat)
  | [] => .ok []
  | name :: names =>
    match rel.position? name with
    | none => .error (.noColumnInTable table name)
    | some i => (rel.positions table names).map (i :: ·)

/-- The cells of a new row: each value as its column stores it, nothing elsewhere. -/
def newCells (rel : Relation) (positions : List Nat) (values : WrittenRow) : List Cell :=
  let written := positions.zip values
  rel.columns.zipIdx.map fun (c, i) =>
    match written.find? fun w => w.1 = i with
    | some w => store c.type w.2
    | none => .null

/-- The number after the greatest one in a column. -/
def nextNumber (rel : Relation) (column : Nat) : Int64 :=
  let used := rel.records.filterMap fun r =>
    match r.cell column with
    | .integer n => some n.toInt
    | _ => none
  Int64.ofInt ((used.max?.getD 0) + 1)

/-- The cells of a new row with its number in the column that shows it: the next one, unless an
    integer is given. -/
def withNumber (rel : Relation) (cells : List Cell) : Except EngineError (List Cell) :=
  match rel.numbering with
  | none => .ok cells
  | some i =>
    match cells.getD i .null with
    | .null => .ok (cells.set i (.integer (rel.nextNumber i)))
    | .integer _ => .ok cells
    | _ => .error .datatypeMismatch

/-- The number of a new row is taken. -/
def numberTaken (rel : Relation) (row : Record) : Option String := do
  let i ← rel.numbering
  let c ← rel.columns[i]?
  if rel.records.any fun r => r.cell i == row.cell i then some c.name else none

def insertCells (rel : Relation) (cells : List Cell) : Except EngineError Relation := do
  let cells ← rel.withNumber cells
  match (rel.columns.zip cells).find? fun p => p.1.notNull && p.2 == .null with
  | some p => throw (.notNull rel.name p.1.name)
  | none =>
    let row : Record := ⟨0, cells⟩
    match rel.numberTaken row with
    | some column => throw (.notUnique rel.name [column] true)
    | none =>
      match rel.indexes.find? fun i => rel.records.any (i.clash row) with
      | some i => throw (i.clashError rel)
      | none => return rel.append cells

theorem insertCells_ok {rel after : Relation} {given : List Cell}
    (done : rel.insertCells given = .ok after) :
    ∃ cells, rel.withNumber given = .ok cells ∧
      ((rel.columns.zip cells).find? fun p => p.1.notNull && p.2 == .null) = none ∧
      rel.numberTaken ⟨0, cells⟩ = none ∧
      (rel.indexes.find? fun i => rel.records.any (i.clash ⟨0, cells⟩)) = none ∧
      after = rel.append cells := by
  obtain ⟨cells, counted, done⟩ := bind_eq_ok.1 done
  refine ⟨cells, counted, ?_⟩
  cases whole : (rel.columns.zip cells).find? fun p => p.1.notNull && p.2 == .null with
  | some p =>
      rw [whole] at done
      cases done
  | none =>
      cases free : rel.numberTaken ⟨0, cells⟩ with
      | some column =>
          simp only [whole, free] at done
          cases done
      | none =>
          cases unique : rel.indexes.find? fun i => rel.records.any (i.clash ⟨0, cells⟩) with
          | some i =>
              simp only [whole, free, unique] at done
              cases done
          | none =>
              simp only [whole, free, unique] at done
              cases done
              exact ⟨rfl, rfl, rfl, rfl⟩

def insertRows (positions : List Nat) : List WrittenRow → Relation → Except EngineError Relation
  | [], rel => .ok rel
  | row :: rows, rel => do
    let rel ← rel.insertCells (rel.newCells positions row)
    insertRows positions rows rel

end Relation

/-- Write rows to columns of a table, all or none. -/
def insert (db : Database) (table : String) (columns : List String) (rows : List WrittenRow) :
    Except EngineError Database := do
  if rows.isEmpty then return db
  match db.find? table with
  | none => throw (.noSuchTable table)
  | some rel =>
    let positions ← rel.positions table columns
    if !db.writable then throw .readOnly
    let rel ← Relation.insertRows positions rows rel
    return db.replace table rel

theorem insert_ok {db after : Database} {table : String} {columns : List String}
    {rows : List WrittenRow} (done : db.insert table columns rows = .ok after) :
    rows = [] ∧ after = db ∨
      ∃ rel positions rest, db.find? table = some rel ∧
        rel.positions table columns = .ok positions ∧ db.writable = true ∧
        Relation.insertRows positions rows rel = .ok rest ∧ after = db.replace table rest := by
  unfold insert at done
  cases rows with
  | nil =>
      cases done
      exact .inl ⟨rfl, rfl⟩
  | cons row rows =>
      rw [List.isEmpty_cons, if_neg Bool.false_ne_true] at done
      cases found : db.find? table with
      | none =>
          rw [found] at done
          cases done
      | some rel =>
          simp only [found, guard_eq_ok, bind_eq_ok, pure_eq_ok, Bool.not_eq_true,
            Bool.not_eq_false'] at done
          obtain ⟨positions, there, writable, rest, written, rfl⟩ := done
          exact .inr ⟨rel, positions, rest, rfl, there, writable, written, rfl⟩

def insertVersions (db : Database) (t : Table) (rows : List WrittenRow) :
    Except EngineError Database :=
  db.insert t.name t.columnNames rows

/-- The key, height and flag of every row: by key, then the greatest height first, then the
    greatest flag. -/
def listing (db : Database) (t : Table) : Except EngineError (List (List Cell)) :=
  match db.find? t.name with
  | none => .error (.noSuchTable t.name)
  | some rel =>
    let keys := t.keyNames.map rel.quotedSource
    let height := rel.quotedSource t.heightColumn
    let latest := rel.quotedSource t.latestColumn
    let order := keys.map (·, false) ++ [(height, true), (latest, true)]
    .ok ((Relation.sortBy order rel.records).map fun r =>
      (keys ++ [height, latest]).map (·.cell r))

def count (db : Database) (table : String) : Except EngineError Nat :=
  match db.find? table with
  | none => .error (.noSuchTable table)
  | some rel => .ok rel.records.length

end HistoryTrim.Database
