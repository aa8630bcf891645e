import HistoryTrim.Database.Relation
import HistoryTrim.Table.Schema

/-! # Definitions of tables and indexes

What a table or an index is going to be, which rows a unique index lets stand beside each other,
and the checks under which either is created.
-/

/-! ## Plans

What a table or an index is going to be, before it is created: columns by the names that were
written, keys, and the terms that an index gets on the columns of a table. The keys of a table get
indexes of their own, named after the table.
-/

namespace HistoryTrim.Database

/-- A name as it is written. A quoted one that denotes nothing is a text. -/
structure WrittenName where
  text : String
  quoted : Bool
  deriving Repr, DecidableEq

/-- A column of an index that is to be created. -/
inductive IndexPart where
  /-- A column by its name, in quotes. -/
  | column (name : String) (descending : Bool)
  /-- Something computed; nothing stands for what is not read. -/
  | expression (sum : Option (List (Summand WrittenName))) (descending : Bool)
  deriving Repr, DecidableEq

/-- A comparison that says which rows an index covers, as it is written. -/
structure WrittenCondition where
  column : WrittenName
  test : Ordering → Bool
  value : Int64

/-- An index that is to be created. -/
structure IndexPlan where
  name : String
  parts : List IndexPart
  unique : Bool := false
  /-- Rows that are covered: all of them, or those for which a comparison holds, if it is read. -/
  condition : Option (Option WrittenCondition) := none

/-- A key that no two rows of a table may share. -/
structure KeyPlan where
  primary : Bool
  columns : List (WrittenName × Bool)
  deriving Repr, DecidableEq

structure TablePlan where
  name : String
  columns : List Column
  keys : List KeyPlan := []
  /-- Rows have numbers, unless the table is ordered by its primary key. -/
  numbered : Bool := true
  deriving Repr, DecidableEq

/-- How many columns a table may have. -/
def columnLimit : Nat := 2000

namespace TablePlan

/-- Check columns one after the other: their number, then whether a name is taken. -/
def checkColumns (table : String) (taken : List String) :
    List Column → Except EngineError Unit
  | [] => .ok ()
  | c :: cs =>
    if columnLimit ≤ taken.length then .error (.tooManyColumns table)
    else if taken.any (Text.sameName c.name) then .error (.duplicateColumn c.name)
    else checkColumns table (c.name :: taken) cs

/-- Check the keys one after the other: one of them is primary at most, and they have columns of
    the table only. -/
def checkKeys (table : String) (columns : List Column) (primary : Bool) :
    List KeyPlan → Except EngineError Unit
  | [] => .ok ()
  | k :: ks =>
    let known (n : WrittenName) : Bool := columns.any fun c => Text.sameName n.text c.name
    if primary && k.primary then .error (.primaryKeyRepeated table)
    else match k.columns.find? fun c => !known c.1 with
      | some (n, _) => .error (if n.quoted then .computedKey else .noSuchColumn n.text)
      | none => checkKeys table columns (primary || k.primary) ks

/-- The position of a name among columns. -/
def positionOf? (columns : List Column) (name : String) : Option Nat :=
  columns.findIdx? fun c => Text.sameName name c.name

/-- A sum of columns by their positions. A text in a sum counts as zero. -/
def resolveSum (columns : List Column) :
    List (Summand WrittenName) → Except EngineError (List (Summand Nat))
  | [] => .ok []
  | .number n :: rest => (resolveSum columns rest).map (.number n :: ·)
  | .column subtracted name :: rest =>
    match positionOf? columns name.text with
    | some i => (resolveSum columns rest).map (.column subtracted i :: ·)
    | none =>
      if name.quoted then (resolveSum columns rest).map (.number 0 :: ·)
      else .error (.noSuchColumn name.text)

/-- The term of an index on these columns. A quoted name that denotes none is the same text in every
    row, so any constant stands for it. -/
def termFor (columns : List Column) : IndexPart → Except EngineError IndexTerm
  | .expression none descending => .ok (.expression none descending)
  | .expression (some sum) descending =>
    (resolveSum columns sum).map fun s => .expression (some s) descending
  | .column name descending =>
    match positionOf? columns name with
    | some i => .ok (.column i descending)
    | none => .ok (.expression (some []) descending)

/-- The column that shows the numbers of the rows: an integer that is the whole primary key. -/
def numbering (p : TablePlan) : Option Nat := do
  let k ← p.keys.find? KeyPlan.primary
  match k.columns with
  | [(name, _)] =>
    let i ← positionOf? p.columns name.text
    let c ← p.columns[i]?
    if p.numbered && Text.sameName c.declared "integer" then some i else none
  | _ => none

/-- Columns of a term, without the direction. -/
def termColumn : IndexTerm → Option Nat
  | .column i _ => some i
  | .expression .. => none

/-- Add the index of a key to those of the keys before it, unless one of these has the same
    columns. -/
def addKeyIndex (p : TablePlan) (indexes : List RelationIndex) (k : KeyPlan) :
    List RelationIndex :=
  let terms := k.columns.filterMap fun c =>
    (positionOf? p.columns c.1.text).map fun i => IndexTerm.column i c.2
  let repeats (i : RelationIndex) : Bool := i.terms.map termColumn == terms.map termColumn
  if indexes.any repeats then
    indexes.map fun i => if repeats i then { i with primary := i.primary || k.primary } else i
  else
    { name := s!"sqlite_autoindex_{p.name}_{indexes.length + 1}"
      terms
      unique := true
      primary := k.primary } :: indexes

/-- The indexes of the keys of a table, the most recent one first. Numbers of rows need none. -/
def keyIndexes (p : TablePlan) : List RelationIndex :=
  let keys := if p.numbering.isSome then p.keys.filter (!·.primary) else p.keys
  keys.foldl p.addKeyIndex []

/-- The empty table of a plan. Columns of the key that orders a table must have a value. -/
def relation (p : TablePlan) : Relation :=
  let ordering := (p.keys.filter KeyPlan.primary).flatMap fun k => k.columns.map fun c => c.1.text
  let required (c : Column) : Bool :=
    c.notNull || (!p.numbered && ordering.any (Text.sameName c.name))
  { name := p.name
    columns := p.columns.map fun c => { c with notNull := required c }
    indexes := p.keyIndexes
    numbered := p.numbered
    numbering := p.numbering
    records := []
    ascending := .nil }

end TablePlan

end HistoryTrim.Database

namespace HistoryTrim.Table

open Database

/-- The plan of a versioned table with an opaque payload. -/
def plan (t : Table) : TablePlan where
  name := t.name
  columns :=
    t.keys.map (fun c => { name := c.name, declared := c.type.sqlName, notNull := true }) ++
      [{ name := t.heightColumn, declared := "INTEGER", notNull := true },
       { name := t.latestColumn, declared := "BOOLEAN", notNull := true },
       { name := payloadColumn, declared := "BLOB" }]

/-- The plan of the index for the ordered scan. -/
def scanIndexPlan (t : Table) : IndexPlan where
  name := t.scanIndexName
  parts := t.keyNames.map (IndexPart.column · false) ++ [.column t.heightColumn true]

end HistoryTrim.Table

/-! ## Uniqueness

No two rows of a table agree in all terms of a unique index, where the index covers them both and
nothing is missing.
-/

namespace HistoryTrim.Database

namespace RelationIndex

/-- A sum over a record; nothing if one of its parts is no integer or if it does not fit. -/
def sumOf (r : Record) (sum : List (Summand Nat)) : Cell :=
  let parts := sum.mapM fun
    | .number n => some n
    | .column subtracted i =>
      match r.cell i with
      | .integer n => some (if subtracted then -n.toInt else n.toInt)
      | _ => none
  match parts with
  | none => .null
  | some ns => ((int64? (ns.foldl (· + ·) 0)).map Cell.integer).getD .null

/-- Cells of a record under the terms of an index. -/
def keyOf (i : RelationIndex) (r : Record) : List Cell :=
  i.terms.map fun
    | .column position _ => r.cell position
    | .expression none _ => .null
    | .expression (some sum) _ => sumOf r sum

def covers (i : RelationIndex) (r : Record) : Bool :=
  match i.coverage with
  | .everyRow => true
  | .onlyWhere none => false
  | .onlyWhere (some c) => (r.cell c.position).holds c.test (.integer c.value)

/-- Two records clash under an index: both are covered, and all their cells under it are there and
    the same. -/
def clash (i : RelationIndex) (a b : Record) : Bool :=
  i.unique && i.covers a && i.covers b &&
    ((i.keyOf a).zip (i.keyOf b)).all fun p => p.1.holds (· == .eq) p.2

/-- The error that a clash under an index of a table leads to. -/
def clashError (rel : Relation) (i : RelationIndex) : EngineError :=
  let names := i.terms.mapM fun
    | .column position _ => rel.columns[position]?.map Column.name
    | .expression .. => none
  match names with
  | some names => .notUnique rel.name names i.primary
  | none => .notUniqueUnder i.name

/-- No two records of a list clash. -/
def admits (i : RelationIndex) : List Record → Bool
  | [] => true
  | r :: rs => !rs.any (i.clash r) && i.admits rs

end RelationIndex

/-! ## Creating tables and indexes

Tables and indexes share one space of names, in which the case of letters does not matter. A table
is checked column by column, then key by key; an index is checked against the rows that are there.
-/

/-- Names that start so are kept for the database. -/
def isReserved (name : String) : Bool := "sqlite_".toList.isPrefixOf (Text.lowerAscii name).toList

/-- Some table has an index of this name. -/
def hasIndex (db : Database) (name : String) : Bool :=
  db.relations.any fun r => r.indexes.any fun i => Text.sameName name i.name

def createTable (db : Database) (ifNotExists : Bool) (p : TablePlan) :
    Except EngineError Database := do
  if isReserved p.name then throw (.reservedName p.name)
  if (db.find? p.name).isSome then
    if ifNotExists then return db else throw (.tableExists p.name)
  if db.hasIndex p.name then throw (.nameOfIndex p.name)
  TablePlan.checkColumns p.name [] p.columns
  TablePlan.checkKeys p.name p.columns false p.keys
  if !p.numbered && !p.keys.any KeyPlan.primary then throw (.primaryKeyMissing p.name)
  if !db.writable then throw .readOnly
  return { db with relations := db.relations ++ [p.relation] }

namespace IndexPlan

/-- Which rows an index covers by a written condition. A quoted name that denotes no column is a
    text, which equals no number. -/
def coverageFor (rel : Relation) : Option (Option WrittenCondition) → Except EngineError Coverage
  | none => .ok .everyRow
  | some none => .ok (.onlyWhere none)
  | some (some w) =>
    match rel.position? w.column.text with
    | some position => .ok (.onlyWhere (some { position, test := w.test, value := w.value }))
    | none =>
      if w.column.quoted then .ok (.onlyWhere none) else .error (.noSuchColumn w.column.text)

/-- The index of a plan on a table. -/
def index (p : IndexPlan) (rel : Relation) : Except EngineError RelationIndex := do
  let coverage ← coverageFor rel p.condition
  let terms ← p.parts.mapM (TablePlan.termFor rel.columns)
  return { name := p.name, terms, unique := p.unique, coverage }

end IndexPlan

def createIndex (db : Database) (ifNotExists : Bool) (table : String) (p : IndexPlan) :
    Except EngineError Database := do
  match db.find? table with
  | none => throw (.noSuchTable s!"main.{table}")
  | some rel =>
    if isReserved p.name then throw (.reservedName p.name)
    if (db.find? p.name).isSome then throw (.nameOfTable p.name)
    if db.hasIndex p.name then
      if ifNotExists then return db else throw (.indexExists p.name)
    let i ← p.index rel
    if !i.admits rel.records then throw (i.clashError rel)
    if !db.writable then throw .readOnly
    return db.replace table { rel with indexes := i :: rel.indexes }

/-- Create a versioned table and its scan index, unless they exist. The table stays if the index
    cannot be created. -/
def createVersioned (db : Database) (t : Table) : Except EngineError Unit × Database :=
  match db.createTable true t.plan with
  | .error e => (.error e, db)
  | .ok db =>
    match db.createIndex true t.name t.scanIndexPlan with
    | .error e => (.error e, db)
    | .ok db => (.ok (), db)

/-- The ways in which creating a table succeeds. -/
inductive TableCreated (db : Database) (ifNotExists : Bool) (p : TablePlan) : Database → Prop where
  | there {rel : Relation} (plain : isReserved p.name = false)
      (found : db.find? p.name = some rel) (lenient : ifNotExists = true) :
      TableCreated db ifNotExists p db
  | new (plain : isReserved p.name = false) (free : db.find? p.name = none)
      (unindexed : db.hasIndex p.name = false)
      (columns : TablePlan.checkColumns p.name [] p.columns = .ok ())
      (keys : TablePlan.checkKeys p.name p.columns false p.keys = .ok ())
      (primary : (!p.numbered && !p.keys.any KeyPlan.primary) = false)
      (writable : db.writable = true) :
      TableCreated db ifNotExists p { db with relations := db.relations ++ [p.relation] }

theorem createTable_ok {db after : Database} {ifNotExists : Bool} {p : TablePlan}
    (done : db.createTable ifNotExists p = .ok after) : db.TableCreated ifNotExists p after := by
  simp only [createTable, guard_eq_ok, Bool.not_eq_true] at done
  obtain ⟨plain, done⟩ := done
  cases found : db.find? p.name with
  | some rel =>
      rw [found, Option.isSome_some, if_pos rfl] at done
      cases ifNotExists with
      | true =>
          cases done
          exact .there plain found rfl
      | false => cases done
  | none =>
      rw [found, Option.isSome_none, if_neg Bool.false_ne_true] at done
      simp only [guard_eq_ok, bind_eq_ok, pure_eq_ok, Bool.not_eq_true, Bool.not_eq_false'] at done
      obtain ⟨unindexed, _, columns, _, keys, primary, writable, rfl⟩ := done
      exact .new plain found unindexed columns keys primary writable

/-- The ways in which creating an index succeeds. -/
inductive IndexCreated (db : Database) (ifNotExists : Bool) (table : String) (p : IndexPlan) :
    Database → Prop where
  | there {rel : Relation} (found : db.find? table = some rel) (plain : isReserved p.name = false)
      (free : db.find? p.name = none) (known : db.hasIndex p.name = true)
      (lenient : ifNotExists = true) : IndexCreated db ifNotExists table p db
  | new {rel : Relation} {i : RelationIndex} (found : db.find? table = some rel)
      (plain : isReserved p.name = false) (free : db.find? p.name = none)
      (unknown : db.hasIndex p.name = false) (planned : p.index rel = .ok i)
      (admits : i.admits rel.records = true) (writable : db.writable = true) :
      IndexCreated db ifNotExists table p
        (db.replace table { rel with indexes := i :: rel.indexes })

theorem IndexCreated.plain {db after : Database} {ifNotExists : Bool} {table : String}
    {p : IndexPlan} (created : db.IndexCreated ifNotExists table p after) :
    isReserved p.name = false := by
  cases created with
  | there _ plain | new _ plain => exact plain

theorem createIndex_ok {db after : Database} {ifNotExists : Bool} {table : String} {p : IndexPlan}
    (done : db.createIndex ifNotExists table p = .ok after) :
    db.IndexCreated ifNotExists table p after := by
  unfold createIndex at done
  cases found : db.find? table with
  | none =>
      rw [found] at done
      cases done
  | some rel =>
      simp only [found, guard_eq_ok, Bool.not_eq_true, Option.isSome_eq_false_iff,
        Option.isNone_iff_eq_none] at done
      obtain ⟨plain, free, done⟩ := done
      cases known : db.hasIndex p.name with
      | true =>
          rw [known, if_pos rfl] at done
          cases ifNotExists with
          | true =>
              cases done
              exact .there found plain free known rfl
          | false => cases done
      | false =>
          rw [known, if_neg Bool.false_ne_true] at done
          simp only [guard_eq_ok, bind_eq_ok, pure_eq_ok, Bool.not_eq_true,
            Bool.not_eq_false'] at done
          obtain ⟨i, planned, admits, writable, rfl⟩ := done
          exact .new found plain free known planned admits writable

theorem createVersioned_ok {db : Database} {t : Table} (done : (db.createVersioned t).1 = .ok ()) :
    ∃ middle, db.createTable true t.plan = .ok middle ∧
      middle.createIndex true t.name t.scanIndexPlan = .ok (db.createVersioned t).2 := by
  unfold createVersioned at done ⊢
  cases first : db.createTable true t.plan with
  | error e =>
      rw [first] at done
      cases done
  | ok middle =>
      cases second : middle.createIndex true t.name t.scanIndexPlan with
      | error e =>
          simp only [first, second] at done
          cases done
      | ok last => exact ⟨middle, rfl, by simp only [second]⟩

end HistoryTrim.Database
