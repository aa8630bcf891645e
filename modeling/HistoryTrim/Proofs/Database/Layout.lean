import HistoryTrim.Database.Store
import HistoryTrim.Proofs.Definitions

/-! # The layout of created tables

A table that was created for a definition has a column for every name of the definition and one for
the payload, no two of which are called the same. So a quoted name finds the column that was created
for it, and the name `rowid` is left for the numbers of the rows.
-/

namespace HistoryTrim

namespace Database

theorem ofDeclared_sqlName (type : ColumnType) : ColumnType.ofDeclared type.sqlName = type := by
  cases type <;> decide +kernel

theorem ofDeclared_boolean : ColumnType.ofDeclared "BOOLEAN" = .numeric := by decide +kernel

theorem distinct_of_checkColumns {table : String} {taken : List String} {columns : List Column}
    (ok : TablePlan.checkColumns table taken columns = .ok ()) :
    (columns.Pairwise fun a b => Text.sameName a.name b.name = false) ∧
      ∀ c ∈ columns, ∀ name ∈ taken, Text.sameName c.name name = false := by
  induction columns generalizing taken with
  | nil => simp
  | cons c cs ih =>
      simp only [TablePlan.checkColumns] at ok
      split at ok
      · cases ok
      · split at ok
        · cases ok
        · rename_i fresh
          obtain ⟨rest, others⟩ := ih ok
          have own : ∀ name ∈ taken, Text.sameName c.name name = false := by simpa using fresh
          refine ⟨List.pairwise_cons.2 ⟨fun d hd => ?_, rest⟩, fun d hd name known => ?_⟩
          · rw [Text.sameName_comm]
            exact others d hd c.name List.mem_cons_self
          · rcases List.mem_cons.1 hd with rfl | later
            · exact own name known
            · exact others d later name (List.mem_cons_of_mem _ known)

theorem checkColumns_of_distinct {table : String} {taken : List String} {columns : List Column}
    (few : taken.length + columns.length ≤ columnLimit)
    (distinct : columns.Pairwise fun a b => Text.sameName a.name b.name = false)
    (fresh : ∀ c ∈ columns, ∀ name ∈ taken, Text.sameName c.name name = false) :
    TablePlan.checkColumns table taken columns = .ok () := by
  induction columns generalizing taken with
  | nil => rfl
  | cons c cs ih =>
      obtain ⟨first, rest⟩ := List.pairwise_cons.1 distinct
      rw [List.length_cons] at few
      have room : ¬ columnLimit ≤ taken.length := by omega
      have own : taken.any (Text.sameName c.name) = false := by
        rw [List.any_eq_false]
        intro name known
        rw [fresh c List.mem_cons_self name known]
        exact Bool.false_ne_true
      rw [TablePlan.checkColumns, if_neg room, own, if_neg Bool.false_ne_true]
      refine ih (by rw [List.length_cons]; omega) rest fun d hd name known => ?_
      rcases List.mem_cons.1 known with rfl | earlier
      · rw [Text.sameName_comm]
        exact first d hd
      · exact fresh d (List.mem_cons_of_mem _ hd) name earlier

theorem createTable_new {db after : Database} {p : TablePlan} {ifNotExists : Bool}
    (new : db.find? p.name = none) (done : db.createTable ifNotExists p = .ok after) :
    TablePlan.checkColumns p.name [] p.columns = .ok () ∧ db.writable = true ∧
      after = { db with relations := db.relations ++ [p.relation] } := by
  cases createTable_ok done with
  | there _ found _ => cases new.symm.trans found
  | new _ _ _ columns _ _ writable => exact ⟨columns, writable, rfl⟩

theorem createIndex_columns {db after : Database} {ifNotExists : Bool} {table : String}
    {p : IndexPlan} {rel : Relation} (found : db.find? table = some rel)
    (done : db.createIndex ifNotExists table p = .ok after) :
    after.writable = db.writable ∧ ∃ new, after.find? table = some new ∧
      new.columns = rel.columns ∧ new.numbered = rel.numbered ∧ new.numbering = rel.numbering := by
  cases createIndex_ok done with
  | there => exact ⟨rfl, rel, found, rfl, rfl, rfl⟩
  | @new _ index found' =>
      cases found.symm.trans found'
      have same : Text.sameName table rel.name = true := sameName_of_find? found
      have replaced := @find?_replace table { rel with indexes := index :: rel.indexes } same db
      rw [found] at replaced
      exact ⟨rfl, _, replaced, rfl, rfl, rfl⟩

/-- A database has the table that was created for a definition. Since then only its indexes and its
    rows may have changed, and other tables. -/
def HasCreated (db : Database) (t : Table) (rel : Relation) : Prop :=
  db.find? t.name = some rel ∧
    ∃ (before after : Database) (fresh : Relation),
      before.find? t.name = none ∧ before.createVersioned t = (.ok (), after) ∧
        after.find? t.name = some fresh ∧ db.writable = after.writable ∧
        rel.columns = fresh.columns ∧ rel.numbered = fresh.numbered ∧
        rel.numbering = fresh.numbering

/-- A table with the columns that its creation gave it. -/
structure LaidOut (db : Database) (t : Table) (rel : Relation) : Prop where
  found : db.find? t.name = some rel
  writable : db.writable = true
  columns : rel.columns = t.plan.relation.columns
  distinct : rel.columns.Pairwise fun a b => Text.sameName a.name b.name = false
  numbered : rel.numbered = true
  numbering : rel.numbering = none

/-- The same of a table whose scan index was never asked for. -/
def HasTable (db : Database) (t : Table) (rel : Relation) : Prop :=
  db.find? t.name = some rel ∧
    ∃ (before after : Database) (fresh : Relation),
      before.find? t.name = none ∧ before.createTable true t.plan = .ok after ∧
        after.find? t.name = some fresh ∧ db.writable = after.writable ∧
        rel.columns = fresh.columns ∧ rel.numbered = fresh.numbered ∧
        rel.numbering = fresh.numbering

theorem createTable_plan {t : Table} (plain : isReserved t.name = false)
    (few : t.plan.columns.length ≤ columnLimit)
    (distinct : t.plan.columns.Pairwise fun a b => Text.sameName a.name b.name = false) :
    ({} : Database).createTable true t.plan = .ok { relations := [t.plan.relation] } := by
  have columns : TablePlan.checkColumns t.plan.name [] t.plan.columns = .ok () :=
    checkColumns_of_distinct (by simpa using few) distinct (by simp)
  have plain' : isReserved t.plan.name = false := plain
  simp only [createTable, plain', columns, bind, Except.bind, Bool.false_eq_true, if_false]
  rfl

/-- The table of a definition with some rows. -/
def Relation.filled (t : Table) (records : List Record)
    (ascending : records.Pairwise fun a b => a.rowid < b.rowid) : Relation :=
  { t.plan.relation with records, ascending }

theorem hasTable_filled {t : Table} (plain : isReserved t.name = false)
    (few : t.plan.columns.length ≤ columnLimit)
    (distinct : t.plan.columns.Pairwise fun a b => Text.sameName a.name b.name = false)
    (records : List Record) (ascending : records.Pairwise fun a b => a.rowid < b.rowid) :
    ({ relations := [.filled t records ascending] } : Database).HasTable t
      (.filled t records ascending) := by
  have own : Text.sameName t.name t.plan.relation.name = true := Text.sameName_self t.name
  refine ⟨?_, {}, { relations := [t.plan.relation] }, t.plan.relation, rfl,
    createTable_plan plain few distinct, ?_, rfl, rfl, rfl, rfl⟩
  · exact List.find?_cons_of_pos own
  · exact List.find?_cons_of_pos own

theorem find?_append_plan {before : Database} {t : Table} (new : before.find? t.name = none) :
    ({ before with relations := before.relations ++ [t.plan.relation] } : Database).find? t.name =
      some t.plan.relation := by
  unfold find? at new ⊢
  simp only [List.find?_append, new, Option.none_or]
  simp [TablePlan.relation, Table.plan]

theorem HasCreated.hasTable {db : Database} {t : Table} {rel : Relation}
    (created : db.HasCreated t rel) : db.HasTable t rel := by
  obtain ⟨found, before, after, fresh, new, done, foundFresh, writable, columns, numbered,
    numbering⟩ := created
  obtain ⟨middle, tableDone, indexDone⟩ := createVersioned_ok (congrArg Prod.fst done)
  rw [done] at indexDone
  obtain ⟨-, -, rfl⟩ := createTable_new (p := t.plan) new tableDone
  have there := find?_append_plan new
  obtain ⟨writable', made, foundMade, columns', numbered', numbering'⟩ :=
    createIndex_columns there indexDone
  cases foundFresh.symm.trans foundMade
  exact ⟨found, before, _, t.plan.relation, new, tableDone, there, writable.trans writable',
    columns.trans columns', numbered.trans numbered', numbering.trans numbering'⟩

theorem HasTable.laidOut {db : Database} {t : Table} {rel : Relation}
    (made : db.HasTable t rel) : db.LaidOut t rel := by
  obtain ⟨found, before, after, fresh, new, done, foundFresh, writable, columns, numbered,
    numbering⟩ := made
  obtain ⟨checked, mayWrite, rfl⟩ := createTable_new (p := t.plan) new done
  cases foundFresh.symm.trans (find?_append_plan new)
  refine ⟨found, writable.trans mayWrite, columns, ?_, numbered, numbering⟩
  rw [columns, TablePlan.relation, List.pairwise_map]
  exact (distinct_of_checkColumns checked).1

theorem HasCreated.laidOut {db : Database} {t : Table} {rel : Relation}
    (created : db.HasCreated t rel) : db.LaidOut t rel :=
  created.hasTable.laidOut

theorem hasCreated_filled {t : Table} (succeeds : (createVersioned {} t).1.isOk = true)
    (there : ((createVersioned {} t).2.find? t.name).isSome = true) (records : List Record)
    (ascending : records.Pairwise fun a b => a.rowid < b.rowid) :
    ({ relations := [.filled t records ascending] } : Database).HasCreated t
      (.filled t records ascending) := by
  have done : (createVersioned {} t).1 = .ok () := by
    cases outcome : (createVersioned {} t).1 with
    | ok => rfl
    | error e =>
        rw [outcome] at succeeds
        cases succeeds
  obtain ⟨fresh, found⟩ := Option.isSome_iff_exists.1 there
  have created : (createVersioned {} t).2.HasCreated t fresh :=
    ⟨found, {}, _, fresh, rfl, Prod.ext done rfl, found, rfl, rfl, rfl, rfl⟩
  have layout := created.laidOut
  have own : Text.sameName t.name t.plan.relation.name = true := Text.sameName_self t.name
  exact ⟨List.find?_cons_of_pos own, {}, _, fresh, rfl, Prod.ext done rfl, found,
    layout.writable.symm, layout.columns.symm, layout.numbered.symm, layout.numbering.symm⟩

namespace Relation

variable {rel : Relation}

theorem source?_column
    (distinct : rel.columns.Pairwise fun a b => Text.sameName a.name b.name = false) {i : Nat}
    {c : Column} (column : rel.columns[i]? = some c) :
    rel.source? c.name = some (.column i c.type) := by
  obtain ⟨bound, own⟩ := List.getElem?_eq_some_iff.1 column
  have position : rel.position? c.name = some i := by
    refine List.findIdx?_eq_some_iff_getElem.2 ⟨bound, ?_, fun j earlier => ?_⟩
    · rw [own]
      exact Text.sameName_self _
    · have differ := List.pairwise_iff_getElem.1 distinct j i (Nat.lt_trans earlier bound) bound
        earlier
      rw [← own, Text.sameName_comm, differ]
      exact Bool.false_ne_true
  simp only [source?, position, column, Option.map_some, Option.getD_some]

theorem quotedSource_column
    (distinct : rel.columns.Pairwise fun a b => Text.sameName a.name b.name = false) {i : Nat}
    {c : Column} (column : rel.columns[i]? = some c) : rel.quotedSource c.name = .column i c.type := by
  rw [quotedSource, source?_column distinct column, Option.getD_some]

theorem isRowidName_rowid : isRowidName "rowid" = true := by
  simp [isRowidName]

theorem source?_rowid (unnamed : ∀ c ∈ rel.columns, Text.sameName "rowid" c.name = false) :
    rel.source? "rowid" =
      if rel.numbered then some ((rel.numbering.map fun i => .column i .integer).getD .rowid)
      else none := by
  have free : rel.position? "rowid" = none := by
    refine List.findIdx?_eq_none_iff.2 fun c hc => ?_
    rw [unnamed c hc]
  simp only [source?, free, isRowidName_rowid, Bool.and_true]

theorem rowHandle?_eq_number
    (unnamed : ∀ c ∈ rel.columns, Text.sameName "rowid" c.name = false)
    (numbered : rel.numbered = true) (unshown : rel.numbering = none) :
    rel.rowHandle? = .ok .number := by
  simp only [rowHandle?, source?_rowid unnamed, numbered, unshown, if_true, Option.map_none,
    Option.getD_none]

end Relation

namespace LaidOut

variable {db : Database} {t : Table} {rel : Relation}

theorem source?_eq (layout : db.LaidOut t rel) {i : Nat} {c : Column}
    (planned : t.plan.columns[i]? = some c) :
    rel.source? c.name = some (.column i (ColumnType.ofDeclared c.declared)) := by
  obtain ⟨made, column, name, declared⟩ : ∃ made, rel.columns[i]? = some made ∧
      made.name = c.name ∧ made.declared = c.declared := by
    rw [layout.columns, TablePlan.relation, List.getElem?_map, planned]
    exact ⟨_, rfl, rfl, rfl⟩
  rw [← name, Relation.source?_column layout.distinct column, Column.type, declared]

theorem key_source? (layout : db.LaidOut t rel) {i : Nat} {k : KeyColumn}
    (key : t.keys[i]? = some k) : rel.source? k.name = some (.column i k.type) := by
  obtain ⟨bound, -⟩ := List.getElem?_eq_some_iff.1 key
  have planned : t.plan.columns[i]? =
      some { name := k.name, declared := k.type.sqlName, notNull := true } := by
    rw [Table.plan, List.getElem?_append_left (by simpa using bound), List.getElem?_map, key]
    rfl
  rw [layout.source?_eq planned, ofDeclared_sqlName]

theorem height_source? (layout : db.LaidOut t rel) :
    rel.source? t.heightColumn = some (.column t.keys.length .integer) := by
  have planned : t.plan.columns[t.keys.length]? =
      some { name := t.heightColumn, declared := "INTEGER", notNull := true } := by
    simp [Table.plan]
  rw [layout.source?_eq planned]
  exact congrArg (fun type => some (Source.column _ type)) (ofDeclared_sqlName .integer)

theorem latest_source? (layout : db.LaidOut t rel) :
    rel.source? t.latestColumn = some (.column (t.keys.length + 1) .numeric) := by
  have planned : t.plan.columns[t.keys.length + 1]? =
      some { name := t.latestColumn, declared := "BOOLEAN", notNull := true } := by
    simp [Table.plan]
  rw [layout.source?_eq planned, ofDeclared_boolean]

theorem key_source (layout : db.LaidOut t rel) {i : Nat} {k : KeyColumn}
    (key : t.keys[i]? = some k) : rel.quotedSource k.name = .column i k.type := by
  rw [Relation.quotedSource, layout.key_source? key, Option.getD_some]

theorem height_source (layout : db.LaidOut t rel) :
    rel.quotedSource t.heightColumn = .column t.keys.length .integer := by
  rw [Relation.quotedSource, layout.height_source?, Option.getD_some]

theorem latest_source (layout : db.LaidOut t rel) :
    rel.quotedSource t.latestColumn = .column (t.keys.length + 1) .numeric := by
  rw [Relation.quotedSource, layout.latest_source?, Option.getD_some]

/-- Rows are deleted by their numbers, unless a column takes the name. -/
theorem rowHandle?_eq (layout : db.LaidOut t rel)
    (free : ∀ name ∈ t.columnNames, Text.sameName "rowid" name = false) :
    rel.rowHandle? = .ok .number := by
  have payload : Text.sameName "rowid" Table.payloadColumn = false := by
    rw [Text.sameName_eq_beq]
    decide
  have unnamed : ∀ c ∈ rel.columns, Text.sameName "rowid" c.name = false := by
    intro c hc
    rw [layout.columns, TablePlan.relation, List.mem_map] at hc
    obtain ⟨planned, hp, rfl⟩ := hc
    simp only [Table.plan, List.mem_append, List.mem_map, List.mem_cons, List.not_mem_nil,
      or_false] at hp
    rcases hp with ⟨k, hk, rfl⟩ | rfl | rfl | rfl
    · exact free k.name (List.mem_append_left _ (List.mem_map_of_mem hk))
    · exact free t.heightColumn (by simp [Table.columnNames])
    · exact free t.latestColumn (by simp [Table.columnNames])
    · exact payload
  exact Relation.rowHandle?_eq_number unnamed layout.numbered layout.numbering

theorem replace (layout : db.LaidOut t rel) {rest : Relation} (name : rest.name = rel.name)
    (columns : rest.columns = rel.columns) (numbered : rest.numbered = rel.numbered)
    (numbering : rest.numbering = rel.numbering) : (db.replace t.name rest).LaidOut t rest where
  found := by
    have same : Text.sameName t.name rest.name = true := by
      rw [name]
      exact sameName_of_find? layout.found
    rw [find?_replace same, layout.found, Option.map_some]
  writable := layout.writable
  columns := columns.trans layout.columns
  distinct := by
    rw [columns]
    exact layout.distinct
  numbered := numbered.trans layout.numbered
  numbering := numbering.trans layout.numbering

end LaidOut

end Database

end HistoryTrim
