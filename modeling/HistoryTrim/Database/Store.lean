import HistoryTrim.Database.Creation
import HistoryTrim.Database.OrderedTrim
import HistoryTrim.Database.UnorderedTrim
import HistoryTrim.Store

/-! # Databases as version stores

The catalog shows the columns and the indexes that cover every row. Tables are found whatever the
case of their names; columns are shown, and asked for, as they are spelled.
-/

namespace HistoryTrim.Database

/-- A term of an index as the catalog shows it; what is computed has no name. -/
def IndexTerm.shown (rel : Relation) : IndexTerm → IndexColumn
  | .column position descending =>
    ⟨((rel.columns[position]?).map Column.name).getD "", descending⟩
  | .expression _ descending => ⟨"", descending⟩

/-- The indexes of a relation that cover every row, the most recent one first. -/
def Relation.shownIndexes (rel : Relation) : List Index :=
  rel.indexes.filterMap fun i =>
    match i.coverage with
    | .onlyWhere _ => none
    | .everyRow => some ⟨i.name, i.terms.map (·.shown rel)⟩

/-- The functions by which the catalog is asked: for the columns of a table, for its indexes, and for
    the terms of an index. -/
def columnFunction : String := "pragma_table_info"

def indexFunction : String := "pragma_index_list"

def termFunction : String := "pragma_index_xinfo"

/-- A function can be asked, unless a table has its name, whatever the case of letters. -/
def checkFunction (db : Database) (function : String) : Except StoreError Unit :=
  if (db.find? function).isSome then .error (.database (.engine (.noFunction function))) else .ok ()

/-- Columns and indexes of the tables; an unknown table has neither. -/
def catalog (db : Database) : Catalog where
  columnType table column := do
    db.checkFunction columnFunction
    return do
      let rel ← db.find? table
      let c ← rel.columns.find? fun c => c.name = column
      return c.type
  indexes table := do
    db.checkFunction indexFunction
    let indexes := ((db.find? table).map Relation.shownIndexes).getD []
    if !indexes.isEmpty then db.checkFunction termFunction
    return indexes

/-- Number of rows of a table, zero if there is no such table. -/
def population (db : Database) (t : Table) : Nat :=
  ((db.find? t.name).map fun rel => rel.records.length).getD 0

theorem sameName_of_find? {db : Database} {name : String} {rel : Relation}
    (h : db.find? name = some rel) : Text.sameName name rel.name = true := by
  unfold find? at h
  exact (List.find?_eq_some_iff_append.1 h).1

theorem length_deleteRows (rel : Relation) (tests : List (Record → Bool)) :
    (rel.deleteRows tests).2.records.length + (rel.deleteRows tests).1 = rel.records.length := by
  fun_induction Relation.deleteRows rel tests with
  | case1 => rfl
  | case2 rel test tests chunk rest deleted last _ ih =>
    have hle : rest.records.length ≤ rel.records.length := List.length_filter_le ..
    simp_all only
    omega

/-- However the tests are cut into chunks, the rows that pass none of them stay. -/
theorem deleteRows_eq_keep (rel : Relation) (tests : List (Record → Bool)) :
    (rel.deleteRows tests).2 = rel.keep fun r => !tests.any (· r) := by
  fun_induction Relation.deleteRows rel tests with
  | case1 rel => exact rel.keep_all.symm
  | case2 rel test tests chunk rest deleted last hrest ih =>
    rw [hrest] at ih
    refine ih.trans ?_
    rw [Relation.keep_keep]
    congr 1
    funext r
    have hsplit : tests.any (· r) =
        ((tests.take (deleteChunk - 1)).any (· r) || (tests.drop (deleteChunk - 1)).any (· r)) := by
      rw [← List.any_append, List.take_append_drop]
    rw [List.any_cons, List.any_cons, hsplit]
    cases test r <;> cases (tests.take (deleteChunk - 1)).any (· r) <;> simp

theorem population_replace {db : Database} {t : Table} {rel new : Relation}
    (h : db.find? t.name = some rel) (hname : new.name = rel.name) :
    (db.replace t.name new).population t = new.records.length := by
  have hsame : Text.sameName t.name new.name = true := by
    rw [hname]
    exact sameName_of_find? h
  simp [population, find?_replace hsame, h]

theorem population_batch (db : Database) (t : Table) (selector : RowSelector)
    (limit : Option Nat) (n : Nat) (h : (db.batch t selector limit).outcome = .ok n) :
    (db.batch t selector limit).store.population t + n ≤ db.population t := by
  cases db.batch_ends t selector limit with
  | refused _ ends | unread _ _ ends | readOnly _ _ _ _ ends =>
      rw [ends] at h
      cases h
  | @done rel _ _ tests scans _ _ ends =>
      rw [ends] at h ⊢
      cases h
      have name : (rel.deleteRows tests).2.name = rel.name := by
        rw [deleteRows_eq_keep, Relation.name_keep]
      have before : db.population t = rel.records.length := by
        rw [population, scans.found, Option.map_some, Option.getD_some]
      rw [before, population_replace scans.found name]
      exact Nat.le_of_eq (length_deleteRows rel tests)

instance : VersionStore Database where
  catalog := catalog
  deleteBatch := batch
  trimUnordered := trimUnordered
  population := population
  population_deleteBatch := population_batch

end HistoryTrim.Database
