import HistoryTrim.Database.Insertion
import HistoryTrim.Proofs.Database.Layout

/-! # Numbered rows

The primary key of a table may be a column that shows the numbers of its rows. Whatever statements are
run, such a column has an integer in every row, and no two rows have the same one.
-/

namespace HistoryTrim.Database

namespace Relation

/-- A column that shows the numbers of the rows tells them apart. -/
structure WellNumbered (rel : Relation) : Prop where
  column : ∀ i, rel.numbering = some i → i < rel.columns.length
  integer : ∀ i, rel.numbering = some i → ∀ r ∈ rel.records, ∃ n, r.cell i = .integer n
  distinct : ∀ i, rel.numbering = some i → rel.records.Pairwise fun a b => a.cell i ≠ b.cell i

theorem wellNumbered_of_hidden {rel : Relation} (hidden : rel.numbering = none) :
    rel.WellNumbered where
  column i shows := by cases hidden.symm.trans shows
  integer i shows := by cases hidden.symm.trans shows
  distinct i shows := by cases hidden.symm.trans shows

theorem WellNumbered.keep {rel : Relation} (numbered : rel.WellNumbered) (test : Record → Bool) :
    (rel.keep test).WellNumbered where
  column := numbered.column
  integer i shows r hr := numbered.integer i shows r (List.mem_filter.1 hr).1
  distinct i shows := (numbered.distinct i shows).sublist List.filter_sublist

theorem WellNumbered.append {rel : Relation} (numbered : rel.WellNumbered) {cells : List Cell}
    (integer : ∀ i, rel.numbering = some i → ∃ n, cells.getD i .null = .integer n)
    (new : ∀ i, rel.numbering = some i → ∀ r ∈ rel.records, r.cell i ≠ cells.getD i .null) :
    (rel.append cells).WellNumbered where
  column := numbered.column
  integer i shows := by
    refine List.forall_mem_append.2 ⟨numbered.integer i shows, fun r hr => ?_⟩
    rw [List.mem_singleton.1 hr]
    exact integer i shows
  distinct i shows := by
    refine List.pairwise_append.2 ⟨numbered.distinct i shows, List.pairwise_singleton .., ?_⟩
    intro r hr added here
    rw [List.mem_singleton.1 here]
    exact new i shows r hr

theorem wellNumbered_plan (p : TablePlan) : p.relation.WellNumbered where
  column i shows := by
    have shows' : p.numbering = some i := shows
    have bound : i < p.columns.length := by
      simp only [TablePlan.numbering, bind, Option.bind_eq_some_iff] at shows'
      obtain ⟨key, -, single⟩ := shows'
      split at single
      · simp only [Option.bind_eq_some_iff] at single
        obtain ⟨j, -, c, here, integer⟩ := single
        split at integer
        · cases integer
          exact (List.getElem?_eq_some_iff.1 here).1
        · cases integer
      · cases single
    simpa [TablePlan.relation] using bound
  integer _ _ _ hr := by cases hr
  distinct _ _ := .nil

theorem withNumber_ok {rel : Relation} (numbered : rel.WellNumbered) {given cells : List Cell}
    (whole : given.length = rel.columns.length) (done : rel.withNumber given = .ok cells) :
    ∀ i, rel.numbering = some i → ∃ n, cells.getD i .null = .integer n := by
  intro i shows
  have bound := numbered.column i shows
  rw [← whole] at bound
  simp only [withNumber, shows] at done
  split at done
  · cases done
    exact ⟨rel.nextNumber i, by simp [bound]⟩
  next n given =>
    cases done
    exact ⟨n, given⟩
  · cases done

theorem numberTaken_eq_none {rel : Relation} (numbered : rel.WellNumbered) {row : Record}
    (free : rel.numberTaken row = none) :
    ∀ i, rel.numbering = some i → ∀ r ∈ rel.records, r.cell i ≠ row.cell i := by
  intro i shows r hr same
  have bound := numbered.column i shows
  simp only [numberTaken, shows, bind, Option.bind, List.getElem?_eq_getElem bound] at free
  split at free
  · cases free
  next others => exact others (List.any_eq_true.2 ⟨r, hr, beq_iff_eq.2 same⟩)

theorem WellNumbered.insertCells {rel after : Relation} (numbered : rel.WellNumbered)
    {given : List Cell} (whole : given.length = rel.columns.length)
    (done : rel.insertCells given = .ok after) : after.WellNumbered := by
  obtain ⟨cells, counted, -, free, -, rfl⟩ := insertCells_ok done
  exact numbered.append (withNumber_ok numbered whole counted) (numberTaken_eq_none numbered free)

theorem WellNumbered.insertRows {positions : List Nat} {rows : List WrittenRow}
    {rel after : Relation} (numbered : rel.WellNumbered)
    (done : Relation.insertRows positions rows rel = .ok after) : after.WellNumbered := by
  induction rows generalizing rel with
  | nil =>
      cases done
      exact numbered
  | cons row rows ih =>
      obtain ⟨next, first, done⟩ := bind_eq_ok.1 done
      exact ih (numbered.insertCells (by simp [newCells]) first) done

end Relation

/-- The columns of a database that show the numbers of rows tell them apart. -/
def WellNumbered (db : Database) : Prop := ∀ rel ∈ db.relations, rel.WellNumbered

namespace WellNumbered

variable {db after : Database} {table : String} {rel : Relation}

theorem of_find? (numbered : db.WellNumbered) (found : db.find? table = some rel) :
    rel.WellNumbered :=
  numbered rel (List.mem_of_find?_eq_some found)

theorem replace (numbered : db.WellNumbered) (new : rel.WellNumbered) (table : String) :
    (db.replace table rel).WellNumbered := by
  have general : ∀ rs : List Relation, (∀ r ∈ rs, r.WellNumbered) →
      ∀ r ∈ replaceIn table rel rs, r.WellNumbered := by
    intro rs each
    induction rs with
    | nil => exact each
    | cons r rs ih =>
        obtain ⟨first, rest⟩ := List.forall_mem_cons.1 each
        simp only [replaceIn]
        split
        · exact List.forall_mem_cons.2 ⟨new, rest⟩
        · exact List.forall_mem_cons.2 ⟨first, ih rest⟩
  exact general db.relations numbered

theorem createTable (numbered : db.WellNumbered) {ifNotExists : Bool} {p : TablePlan}
    (done : db.createTable ifNotExists p = .ok after) : after.WellNumbered := by
  cases createTable_ok done with
  | there => exact numbered
  | new =>
      exact List.forall_mem_append.2
        ⟨numbered, List.forall_mem_singleton.2 (Relation.wellNumbered_plan p)⟩

theorem createIndex (numbered : db.WellNumbered) {ifNotExists : Bool} {p : IndexPlan}
    (done : db.createIndex ifNotExists table p = .ok after) : after.WellNumbered := by
  cases createIndex_ok done with
  | there => exact numbered
  | new found =>
      have own := numbered.of_find? found
      refine numbered.replace ?_ table
      exact ⟨own.column, own.integer, own.distinct⟩

theorem insert (numbered : db.WellNumbered) {columns : List String} {rows : List WrittenRow}
    (done : db.insert table columns rows = .ok after) : after.WellNumbered := by
  obtain ⟨-, rfl⟩ | ⟨rel, positions, rest, found, -, -, written, rfl⟩ := insert_ok done
  · exact numbered
  · exact numbered.replace ((numbered.of_find? found).insertRows written) table

theorem batch (numbered : db.WellNumbered) (t : Table) (selector : RowSelector)
    (limit : Option Nat) : (db.batch t selector limit).store.WellNumbered := by
  cases db.batch_ends t selector limit with
  | refused _ ends | unread _ _ ends | readOnly _ _ _ _ ends =>
      rw [ends]
      exact numbered
  | done scans _ _ ends =>
      rw [ends, deleteRows_eq_keep]
      exact numbered.replace ((numbered.of_find? scans.found).keep _) t.name

theorem trimUnordered (numbered : db.WellNumbered) (t : Table) (rule : RetentionRule) :
    (db.trimUnordered t rule).2.WellNumbered := by
  rcases db.trimUnordered_cases t rule with ⟨e, refused⟩ | ⟨rel, columns, found, -, -, done⟩
  · rw [refused]
    exact numbered
  · rw [done]
    exact numbered.replace ((numbered.of_find? found).keep _) t.name

end WellNumbered

/-- The databases that statements lead to. -/
inductive Arises : Database → Prop where
  | empty : Arises {}
  /-- It is opened for reading or for writing. -/
  | opened {db : Database} (writable : Bool) : Arises db → Arises { db with writable }
  | createTable {db after : Database} {ifNotExists : Bool} {p : TablePlan} : Arises db →
      db.createTable ifNotExists p = .ok after → Arises after
  | createIndex {db after : Database} {ifNotExists : Bool} {table : String} {p : IndexPlan} :
      Arises db → db.createIndex ifNotExists table p = .ok after → Arises after
  | insert {db after : Database} {table : String} {columns : List String}
      {rows : List WrittenRow} :
      Arises db → db.insert table columns rows = .ok after → Arises after
  | batch {db : Database} (t : Table) (selector : RowSelector) (limit : Option Nat) :
      Arises db → Arises (db.batch t selector limit).store
  | trimUnordered {db : Database} (t : Table) (rule : RetentionRule) :
      Arises db → Arises (db.trimUnordered t rule).2

/-- Whatever statements are run, the numbers that a column shows tell the rows apart. -/
theorem Arises.wellNumbered {db : Database} (arises : db.Arises) : db.WellNumbered := by
  induction arises with
  | empty => exact List.forall_mem_nil _
  | opened writable _ ih => exact ih
  | createTable _ done ih => exact ih.createTable done
  | createIndex _ done ih => exact ih.createIndex done
  | insert _ done ih => exact ih.insert done
  | batch t selector limit _ ih => exact ih.batch t selector limit
  | trimUnordered t rule _ ih => exact ih.trimUnordered t rule

end HistoryTrim.Database
