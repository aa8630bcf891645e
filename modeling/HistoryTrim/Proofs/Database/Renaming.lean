import HistoryTrim.Proofs.Database.BothTrims

/-! # Renamed tables

A created table shows what the statement of an unordered trim asks for at fixed positions, whatever
its columns are called. So two tables that differ in names alone are trimmed alike, except where one
of them has the name by which the statement calls the other rows of the table: in that table no row is
told from another.
-/

namespace HistoryTrim.Database

/-- Two definitions that differ in the names of the table and of its columns. -/
def Renames (t t' : Table) : Prop :=
  t.keys.map KeyColumn.type = t'.keys.map KeyColumn.type

/-- What a source shows of a row depends on its cells, not on its number. -/
def Source.ReadsCells (s : Source) : Prop := ∀ a b : Record, a.cells = b.cells → s.cell a = s.cell b

theorem Source.readsCells_column (i : Nat) (type : ColumnType) :
    (Source.column i type).ReadsCells := by
  intro a b same
  simp only [cell, Record.cell, same]

theorem Source.ReadsCells.holds_congr {s : Source} (reads : s.ReadsCells) {a b : Record}
    (same : a.cells = b.cells) (test : Ordering → Bool) (n : Int64) :
    s.holds test a n = s.holds test b n := by
  simp only [holds, reads a b same]

structure TrimColumns.ReadsCells (c : TrimColumns) : Prop where
  keys : ∀ s ∈ c.keys, s.ReadsCells
  height : c.height.ReadsCells
  latest : c.latest.ReadsCells

theorem TrimColumns.readsCells_created (t : Table) : (TrimColumns.created t).ReadsCells where
  keys s hs := by
    simp only [created, List.mem_mapIdx] at hs
    obtain ⟨i, bound, rfl⟩ := hs
    exact Source.readsCells_column _ _
  height := Source.readsCells_column _ _
  latest := Source.readsCells_column _ _

theorem Renames.length_eq {t t' : Table} (renames : Renames t t') :
    t.keys.length = t'.keys.length := by
  have lengths := congrArg List.length renames
  rwa [List.length_map, List.length_map] at lengths

theorem Renames.created_eq {t t' : Table} (renames : Renames t t') :
    TrimColumns.created t = TrimColumns.created t' := by
  have length := renames.length_eq
  have keys : (TrimColumns.created t).keys = (TrimColumns.created t').keys := by
    refine List.ext_getElem (by simp [TrimColumns.created, length]) fun i here there => ?_
    have types : (t.keys.map KeyColumn.type)[i]? = (t'.keys.map KeyColumn.type)[i]? :=
      congrArg (·[i]?) renames
    simp only [TrimColumns.created, List.length_mapIdx] at here there
    simp only [List.getElem?_map, List.getElem?_eq_getElem here, List.getElem?_eq_getElem there,
      Option.map_some, Option.some.injEq] at types
    simp only [TrimColumns.created, List.getElem_mapIdx, types]
  simp only [TrimColumns.created] at keys ⊢
  rw [keys, length]

namespace TrimView

variable {view : TrimView} {a b c d : Record}

theorem below_congr (reads : view.columns.ReadsCells) (same : a.cells = b.cells) :
    view.below a = view.below b := reads.height.holds_congr same _ _

theorem apart_congr (reads : view.columns.ReadsCells) (same : a.cells = b.cells) :
    view.apart a = view.apart b := by
  simp only [apart, reads.height.holds_congr same]

theorem alive_congr (reads : view.columns.ReadsCells) (same : a.cells = b.cells) :
    view.alive a = view.alive b := by
  simp only [alive, reads.height.holds_congr same, reads.latest.holds_congr same]

theorem sameKey_congr (reads : view.columns.ReadsCells) (same : a.cells = b.cells)
    (same' : c.cells = d.cells) : view.sameKey a c = view.sameKey b d := by
  have cells : (view.columns.keys.all fun s => (s.cell a).same (s.cell c)) =
      view.columns.keys.all fun s => (s.cell b).same (s.cell d) := by
    rw [Bool.eq_iff_iff, List.all_eq_true, List.all_eq_true]
    refine forall₂_congr fun s hs => ?_
    rw [reads.keys s hs a b same, reads.keys s hs c d same']
  rw [sameKey, sameKey, cells]

theorem supersedes_congr (reads : view.columns.ReadsCells) (same : a.cells = b.cells)
    (same' : c.cells = d.cells) : view.supersedes a c = view.supersedes b d := by
  have other : view.columns.height.cell (if view.captured then a else c) =
      view.columns.height.cell (if view.captured then b else d) := by
    split
    · exact reads.height a b same
    · exact reads.height c d same'
  simp only [supersedes, below_congr reads same, apart_congr reads same, reads.height a b same, other]

end TrimView

theorem any_congr_cells {as bs : List Record}
    (rows : (as.map Record.cells).Perm (bs.map Record.cells)) {p q : Record → Bool}
    (same : ∀ a b : Record, a.cells = b.cells → p a = q b) : as.any p = bs.any q := by
  rw [Bool.eq_iff_iff, List.any_eq_true, List.any_eq_true]
  constructor
  · rintro ⟨a, ha, holds⟩
    obtain ⟨b, hb, cells⟩ := List.mem_map.1 (rows.subset (List.mem_map_of_mem ha))
    exact ⟨b, hb, same a b cells.symm ▸ holds⟩
  · rintro ⟨b, hb, holds⟩
    obtain ⟨a, ha, cells⟩ := List.mem_map.1 (rows.symm.subset (List.mem_map_of_mem hb))
    exact ⟨a, ha, (same a b cells).symm ▸ holds⟩

theorem filter_congr_cells {as bs : List Record}
    (rows : (as.map Record.cells).Perm (bs.map Record.cells)) {p q : Record → Bool}
    (same : ∀ a b : Record, a.cells = b.cells → p a = q b) :
    ((as.filter p).map Record.cells).Perm ((bs.filter q).map Record.cells) := by
  let asked (cells : List Cell) : Bool := q ⟨0, cells⟩
  have left : as.filter p = as.filter (asked ∘ Record.cells) :=
    List.filter_congr fun a _ => same a _ rfl
  have right : bs.filter q = bs.filter (asked ∘ Record.cells) :=
    List.filter_congr fun b _ => (same ⟨0, b.cells⟩ b rfl).symm.trans (same _ _ rfl)
  rw [left, right, ← List.filter_map, ← List.filter_map]
  exact rows.filter asked

namespace TrimView

variable {view : TrimView}

theorem isDoomed_congr (reads : view.columns.ReadsCells) {as bs : List Record}
    (rows : (as.map Record.cells).Perm (bs.map Record.cells)) {a b : Record}
    (same : a.cells = b.cells) : view.isDoomed as a = view.isDoomed bs b := by
  have anyAlive : (as.any fun c => view.sameKey c a && view.alive c) =
      bs.any fun c => view.sameKey c b && view.alive c := by
    refine any_congr_cells rows fun c d cells => ?_
    rw [sameKey_congr reads cells same, alive_congr reads cells]
  have anyNewer : (as.any fun c => view.sameKey c a && view.supersedes c a) =
      bs.any fun c => view.sameKey c b && view.supersedes c b := by
    refine any_congr_cells rows fun c d cells => ?_
    rw [sameKey_congr reads cells same, supersedes_congr reads cells same]
  rw [isDoomed, isDoomed, anyAlive, anyNewer, below_congr reads same, apart_congr reads same,
    reads.latest.holds_congr same]

end TrimView

/-- Tables that differ in names alone, and hold the same rows, are trimmed alike: the same is counted,
    or both trims are refused, and of rows with the same cells both go or both stay. Only a table
    called like the other rows of the statement has to be compared with one called so too. -/
theorem trimUnordered_renamed {t t' : Table} {db db' : Database} {rel rel' : Relation}
    (renames : Renames t t') (valid : t.validate = .ok ()) (valid' : t'.validate = .ok ())
    (captured : Text.sameName t.name otherRowsName = Text.sameName t'.name otherRowsName)
    (made : db.HasTable t rel) (made' : db'.HasTable t' rel')
    (rows : (rel.records.map Record.cells).Perm (rel'.records.map Record.cells))
    (rule : RetentionRule) :
    (db.trimUnordered t rule).1 = (db'.trimUnordered t' rule).1 ∧
      ∃ rest rest', (db.trimUnordered t rule).2.find? t.name = some rest ∧
        (db'.trimUnordered t' rule).2.find? t'.name = some rest' ∧
        (rest.records.map Record.cells).Perm (rest'.records.map Record.cells) ∧
        ∀ r ∈ rel.records, ∀ r' ∈ rel'.records, r.cells = r'.cells →
          (r ∈ rest.records ↔ r' ∈ rest'.records) := by
  have layout := made.laidOut
  have layout' := made'.laidOut
  have view : TrimView.created t rule = TrimView.created t' rule := by
    rw [TrimView.created, TrimView.created, renames.created_eq, captured]
  rcases Nat.lt_or_ge (mostKeys rule.retained.isSome) t.keys.length with many | few
  · rw [layout.trimUnordered_refused valid many,
      layout'.trimUnordered_refused valid' (renames.length_eq ▸ many)]
    exact ⟨rfl, rel, rel', layout.found, layout'.found, rows, fun r hr r' hr' _ => by simp [hr, hr']⟩
  · let doomed (r : Record) : Bool := (TrimView.created t rule).isDoomed rel.records r
    let doomed' (r : Record) : Bool := (TrimView.created t rule).isDoomed rel'.records r
    have same : ∀ r r' : Record, r.cells = r'.cells → doomed r = doomed' r' := fun r r' cells =>
      TrimView.isDoomed_congr (TrimColumns.readsCells_created t) rows cells
    rw [layout.trimUnordered_done valid few,
      layout'.trimUnordered_done valid' (renames.length_eq ▸ few), ← view]
    have left : (db.replace t.name (rel.keep fun r => !doomed r)).LaidOut t _ :=
      layout.replace rfl rfl rfl rfl
    have left' : (db'.replace t'.name (rel'.keep fun r => !doomed' r)).LaidOut t' _ :=
      layout'.replace rfl rfl rfl rfl
    refine ⟨?_, _, _, left.found, left'.found, ?_, fun r hr r' hr' cells => ?_⟩
    · have gone := (filter_congr_cells rows same).length_eq
      rw [List.length_map, List.length_map] at gone
      rw [List.countP_eq_length_filter, List.countP_eq_length_filter]
      exact congrArg Except.ok gone
    · exact filter_congr_cells rows fun r r' cells => congrArg not (same r r' cells)
    · rw [Relation.records_keep, Relation.records_keep, List.mem_filter, List.mem_filter,
        same r r' cells]
      simp [hr, hr']

/-- Holdings under other names, and in another order. -/
def positions : Table where
  name := "position"
  keys := [⟨"owner", .integer⟩, ⟨"coin", .text⟩]
  heightColumn := "block"
  latestColumn := "current"

def positionRelation : Relation :=
  .filled positions
    [⟨2, [.integer 1, .text "eur", .integer 7, .integer 1, .null]⟩,
      ⟨4, [.integer 1, .text "usd", .integer 3, .integer 0, .null]⟩,
      ⟨5, [.integer 1, .text "eur", .integer 4, .integer 0, .blob [7]]⟩,
      ⟨9, [.integer 1, .text "eur", .integer 2, .integer 0, .null]⟩] (by decide)

def positionDatabase : Database where
  relations := [positionRelation]

theorem trimUnordered_renamed_holdings :
    Renames holdings positions ∧ holdings.validate = .ok () ∧ positions.validate = .ok () ∧
      Text.sameName holdings.name otherRowsName = Text.sameName positions.name otherRowsName ∧
      holdingDatabase.HasTable holdings holdingRelation ∧
      positionDatabase.HasTable positions positionRelation ∧
      (holdingRelation.records.map Record.cells).Perm (positionRelation.records.map Record.cells) ∧
      (holdingDatabase.trimUnordered holdings ⟨6, some (-1)⟩).1 =
        (positionDatabase.trimUnordered positions ⟨6, some (-1)⟩).1 := by
  have renames : Renames holdings positions := rfl
  have valid : holdings.validate = .ok () := by decide +kernel
  have valid' : positions.validate = .ok () := by decide +kernel
  have captured : Text.sameName holdings.name otherRowsName =
      Text.sameName positions.name otherRowsName := by decide +kernel
  have made : holdingDatabase.HasTable holdings holdingRelation :=
    hasTable_filled (by decide +kernel) (by decide +kernel) (by decide +kernel) _ _
  have made' : positionDatabase.HasTable positions positionRelation :=
    hasTable_filled (by decide +kernel) (by decide +kernel) (by decide +kernel) _ _
  have rows : (holdingRelation.records.map Record.cells).Perm
      (positionRelation.records.map Record.cells) := by decide +kernel
  exact ⟨renames, valid, valid', captured, made, made', rows,
    (trimUnordered_renamed renames valid valid' captured made made' rows _).1⟩

/-- Accounts under the name by which the statement calls the other rows of the table. -/
def shortAccounts : Table := { MemoryStore.accounts with name := otherRowsName }

def shortRecords : List Record :=
  [⟨1, [.integer 1, .integer 10, .integer 1, .null]⟩,
    ⟨2, [.integer 1, .integer 5, .integer 0, .null]⟩,
    ⟨3, [.integer 1, .integer 3, .integer 0, .null]⟩]

/-- The statement deletes the last row of the one table, and none of the other. -/
theorem trimUnordered_captured :
    let rel : Relation := .filled MemoryStore.accounts shortRecords (by decide)
    let rel' : Relation := .filled shortAccounts shortRecords (by decide)
    Renames MemoryStore.accounts shortAccounts ∧ MemoryStore.accounts.validate = .ok () ∧
      shortAccounts.validate = .ok () ∧
      ({ relations := [rel] } : Database).HasTable MemoryStore.accounts rel ∧
      ({ relations := [rel'] } : Database).HasTable shortAccounts rel' ∧
      (({ relations := [rel] } : Database).trimUnordered MemoryStore.accounts ⟨6, some (-1)⟩).1 =
        .ok 1 ∧
      (({ relations := [rel'] } : Database).trimUnordered shortAccounts ⟨6, some (-1)⟩).1 =
        .ok 0 := by
  intro rel rel'
  refine ⟨rfl, by decide +kernel, by decide +kernel, ?_, ?_, by decide +kernel, by decide +kernel⟩
  · exact hasTable_filled (by decide +kernel) (by decide +kernel) (by decide +kernel) _ _
  · exact hasTable_filled (by decide +kernel) (by decide +kernel) (by decide +kernel) _ _

end HistoryTrim.Database
