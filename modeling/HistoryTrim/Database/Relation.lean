import HistoryTrim.Database.Cell
import HistoryTrim.Database.Error

/-! # Relations

A table of the database: its columns, its indexes and its records. Records are kept in the order
of their row numbers, which only grow; that order is part of the type.

Of what a table of the engine may have besides, the following is left out: triggers, what foreign keys
do when a row goes, checks of rows, generated columns, and collations other than the one that compares
texts by code point. Nothing in the program creates any of these. What is said of every table is said
of those without them.
-/

namespace HistoryTrim.Database

structure Column where
  name : String
  /-- The type as it was declared. -/
  declared : String
  notNull : Bool := false
  deriving Repr, DecidableEq

/-- The type a column prefers. -/
def Column.type (c : Column) : ColumnType := ColumnType.ofDeclared c.declared

/-- A part of a sum: a number, or a column that is added or subtracted. -/
inductive Summand (α : Type) where
  | number (value : Int)
  | column (subtracted : Bool) (column : α)
  deriving Repr, DecidableEq

/-- What an index orders by. -/
inductive IndexTerm where
  | column (position : Nat) (descending : Bool)
  /-- Something computed, which has no name; a sum, if its value is needed. -/
  | expression (sum : Option (List (Summand Nat))) (descending : Bool)
  deriving Repr, DecidableEq

/-- A comparison of a column with a number. -/
structure RowCondition where
  position : Nat
  test : Ordering → Bool
  value : Int64

/-- Which records an index covers. -/
inductive Coverage where
  | everyRow
  /-- Only the records for which the condition holds; nothing stands for one that is not read. -/
  | onlyWhere (condition : Option RowCondition)

structure RelationIndex where
  name : String
  terms : List IndexTerm
  unique : Bool := false
  primary : Bool := false
  coverage : Coverage := .everyRow

structure Record where
  rowid : Nat
  cells : List Cell
  deriving Repr, DecidableEq

namespace Record

/-- The cell at a position; nothing beyond the end. -/
def cell (r : Record) (position : Nat) : Cell := r.cells.getD position .null

end Record

/-- A table of the database. -/
structure Relation where
  name : String
  columns : List Column
  /-- Indexes, the most recent one first. -/
  indexes : List RelationIndex
  /-- Rows have numbers, unless the table is ordered by its primary key. -/
  numbered : Bool := true
  /-- The column that shows the numbers of the rows, if the primary key is such a column. -/
  numbering : Option Nat := none
  records : List Record
  ascending : records.Pairwise fun a b => a.rowid < b.rowid

namespace Relation

/-- The column a name denotes, whatever the case of its letters. -/
def position? (rel : Relation) (name : String) : Option Nat :=
  rel.columns.findIdx? fun c => Text.sameName name c.name

/-- Names under which the number of a row can be read. -/
def isRowidName (name : String) : Bool :=
  ["rowid", "oid", "_rowid_"].any (Text.sameName name)

/-- The greatest row number in use, zero if there is none. -/
def topRowid (records : List Record) : Nat := records.foldr (fun r n => max r.rowid n) 0

theorem le_topRowid {r : Record} {records : List Record} (h : r ∈ records) :
    r.rowid ≤ topRowid records := by
  induction records with
  | nil => simp at h
  | cons x xs ih =>
    simp only [topRowid, List.foldr_cons]
    rcases List.mem_cons.1 h with rfl | h
    · exact Nat.le_max_left ..
    · exact Nat.le_trans (ih h) (Nat.le_max_right ..)

/-- Add a row under the next number. -/
def append (rel : Relation) (cells : List Cell) : Relation :=
  { rel with
    records := rel.records ++ [⟨topRowid rel.records + 1, cells⟩]
    ascending := by
      refine List.pairwise_append.2 ⟨rel.ascending, List.pairwise_singleton .., ?_⟩
      intro a ha b hb
      rw [List.mem_singleton.1 hb]
      exact Nat.lt_succ_of_le (le_topRowid ha) }

def keep (rel : Relation) (test : Record → Bool) : Relation :=
  { rel with
    records := rel.records.filter test
    ascending := rel.ascending.sublist List.filter_sublist }

@[simp] theorem records_keep (rel : Relation) (test : Record → Bool) :
    (rel.keep test).records = rel.records.filter test := rfl

theorem keep_all (rel : Relation) : (rel.keep fun _ => true) = rel := by
  have hall : rel.records.filter (fun _ => true) = rel.records :=
    List.filter_eq_self.2 fun _ _ => rfl
  simp only [keep, hall]

theorem keep_keep (rel : Relation) (p q : Record → Bool) :
    (rel.keep p).keep q = rel.keep fun r => q r && p r := by
  simp only [keep, List.filter_filter]

@[simp] theorem name_keep (rel : Relation) (test : Record → Bool) :
    (rel.keep test).name = rel.name := rfl

end Relation

/-- What a name in a query stands for. -/
inductive Source where
  | column (position : Nat) (type : ColumnType)
  | rowid
  /-- A text: a quoted name that denotes nothing else. -/
  | literal (text : String)
  deriving Repr, DecidableEq

namespace Source

def cell (s : Source) (r : Record) : Cell :=
  match s with
  | column i _ => r.cell i
  | rowid => .integer (Int64.ofNat r.rowid)
  | literal s => .text s

/-- A value as it is compared with the source. -/
def comparand (s : Source) (c : Cell) : Cell :=
  match s with
  | column _ type => Database.comparand type c
  | rowid => Database.comparand .integer c
  | literal _ => c

/-- A comparison of the source with a number. -/
def holds (s : Source) (test : Ordering → Bool) (r : Record) (n : Int64) : Bool :=
  (s.cell r).holds test (s.comparand (.integer n))

end Source

namespace Relation

/-- What a name denotes by the columns of a relation and its row numbers. -/
def source? (rel : Relation) (name : String) : Option Source :=
  match rel.position? name with
  | some i => some (.column i ((rel.columns[i]?.map Column.type).getD .blob))
  | none =>
    if rel.numbered && isRowidName name then
      some ((rel.numbering.map fun i => .column i .integer).getD .rowid)
    else none

/-- What a quoted name denotes; as a last resort it is a text. -/
def quotedSource (rel : Relation) (name : String) : Source :=
  (rel.source? name).getD (.literal name)

/-- Compare two records by sources one after the other, each ascending or descending. -/
def compareBy (sources : List (Source × Bool)) (a b : Record) : Ordering :=
  match sources with
  | [] => .eq
  | (s, descending) :: rest =>
    let o := if descending then compare (s.cell b) (s.cell a) else compare (s.cell a) (s.cell b)
    o.then (compareBy rest a b)

/-- Records in order of sources; those that compare equal keep the order of their numbers. -/
def sortBy (sources : List (Source × Bool)) (records : List Record) : List Record :=
  records.mergeSort fun a b => (compareBy sources a b).isLE

end Relation

end HistoryTrim.Database

namespace HistoryTrim

open Database in
/-- A relational database. -/
structure Database where
  /-- Tables in the order of their creation. -/
  relations : List Relation := []
  /-- Statements that write are refused otherwise. -/
  writable : Bool := true

namespace Database

/-- The table of a name, whatever the case of its letters. -/
def find? (db : Database) (name : String) : Option Relation :=
  db.relations.find? fun r => Text.sameName name r.name

/-- Put a relation in the place of the one of a name. -/
def replaceIn (name : String) (new : Relation) : List Relation → List Relation
  | [] => []
  | r :: rs => if Text.sameName name r.name then new :: rs else r :: replaceIn name new rs

theorem find?_replaceIn {name : String} {new : Relation} (h : Text.sameName name new.name = true)
    (rs : List Relation) :
    (replaceIn name new rs).find? (fun r => Text.sameName name r.name) =
      (rs.find? fun r => Text.sameName name r.name).map fun _ => new := by
  induction rs with
  | nil => rfl
  | cons r rs ih => by_cases hr : Text.sameName name r.name <;> simp [replaceIn, hr, h, ih]

/-- The database with a relation in the place of the one of a name. -/
def replace (db : Database) (name : String) (new : Relation) : Database :=
  { db with relations := replaceIn name new db.relations }

theorem find?_replace {name : String} {new : Relation} (h : Text.sameName name new.name = true)
    (db : Database) : (db.replace name new).find? name = (db.find? name).map fun _ => new :=
  find?_replaceIn h db.relations

end Database

end HistoryTrim
