import HistoryTrim.Proofs.Database.LatestRows
import HistoryTrim.Proofs.Decisions

/-! # Selected and deleted rows

A batch first selects rows, one decision after the other, and then deletes by the name `rowid` what it
has selected. That name denotes the number of a row, which no two rows share, unless the table has a
column called so: then all rows that show the value of a selected one go with it.
-/

namespace HistoryTrim

namespace Database

/-- Two rows that the name by which rows are deleted does not tell apart. -/
def RowHandle.same (handle : RowHandle) (s r : Record) : Bool :=
  match handle with
  | .number => r.rowid == s.rowid
  | .column source => source.cell r == source.cell s

theorem Relation.source?_congr (rel : Relation) {a b : String} (same : Text.sameName a b = true) :
    rel.source? a = rel.source? b := by
  have alike (name : String) : Text.sameName a name = Text.sameName b name := by
    rw [Text.sameName_iff] at same
    simp only [Text.sameName, same]
  have position : rel.position? a = rel.position? b := by simp only [position?, alike]
  have number : isRowidName a = isRowidName b := by
    simp only [isRowidName, List.any_cons, List.any_nil, alike]
  rw [source?, source?, position, number]

theorem eq_integer_of_hasType {type : ColumnType} {n : Int64}
    (typed : KeyValue.HasType type (.integer n)) : type = .integer := by
  cases type <;> first | rfl | cases typed

theorem Cell.holds_ofKeyValue (test : Ordering → Bool) (a b : KeyValue) :
    Cell.holds test (.ofKeyValue a) (.ofKeyValue b) = test (compare a b) := by
  cases a <;> cases b <;> rfl

/-- A source shows a key value in a row; if it is an integer, others are compared with it as they
    are. -/
def ShowsAsStored (source : Source) (r : Record) : Prop :=
  ∃ value, source.cell r = .ofKeyValue value ∧
    ∀ n m, value = .integer n → source.comparand (.integer m) = .integer m

namespace LaidOut

variable {db : Database} {t : Table} {rel : Relation} {leading : KeyColumn}
  {further : List KeyColumn} {source : Source} {r : Record} {v : Version} {name : String}

theorem column_shows (layout : db.LaidOut t rel) (keys : t.keys = leading :: further)
    (integer : leading.type = .integer) (named : name ∈ t.columnNames)
    (found : rel.source? name = some source) (stores : r.Stores t v) : ShowsAsStored source r := by
  obtain ⟨columns, foundColumns, first, shows⟩ := layout.versionColumns?_eq keys integer
  have shown := shows r v stores
  have quoted : rel.quotedSource name = source := by
    rw [Relation.quotedSource, found]
    rfl
  simp only [Relation.versionColumns?, keys, Option.some.injEq] at foundColumns
  subst foundColumns
  simp only [Table.columnNames, Table.keyNames, keys, List.map_cons, List.cons_append,
    List.mem_cons, List.mem_append, List.mem_map, List.not_mem_nil, or_false] at named
  rcases named with rfl | ⟨k, hk, rfl⟩ | rfl | rfl
  · have column : source = .column 0 .integer := quoted.symm.trans first
    refine ⟨.integer v.key.leading, ?_, fun n m _ => ?_⟩
    · rw [← quoted]
      exact shown.leading
    · rw [column]
      rfl
  · obtain ⟨i, here, rfl⟩ := List.getElem_of_mem hk
    have furtherShown := List.forall₂_map_left_iff.1 shown.further
    obtain ⟨typed, cell⟩ := furtherShown.get here (furtherShown.length_eq ▸ here)
    refine ⟨_, quoted ▸ cell, fun n m value => ?_⟩
    have key : t.keys[i + 1]? = some further[i] := by simp [keys]
    have number : further[i].type = .integer := by
      rw [value] at typed
      exact eq_integer_of_hasType typed
    rw [← quoted, layout.key_source key, number]
    rfl
  · refine ⟨.integer v.height, ?_, fun n m _ => ?_⟩
    · rw [← quoted]
      exact shown.height
    · rw [← quoted, layout.height_source]
      rfl
  · refine ⟨.integer (if v.latest then 1 else 0), ?_, fun n m _ => ?_⟩
    · rw [← quoted]
      exact shown.latest
    · rw [← quoted, layout.latest_source]
      rfl

theorem rowHandle_shows (layout : db.LaidOut t rel) (keys : t.keys = leading :: further)
    (integer : leading.type = .integer) (handled : rel.rowHandle? = .ok (.column source))
    (stores : r.Stores t v) : ShowsAsStored source r := by
  obtain ⟨name, named, same⟩ : ∃ name ∈ t.columnNames, Text.sameName "rowid" name = true := by
    refine Classical.byContradiction fun none => ?_
    have free : ∀ name ∈ t.columnNames, Text.sameName "rowid" name = false := fun name named =>
      Bool.eq_false_iff.2 fun same => none ⟨name, named, same⟩
    rw [layout.rowHandle?_eq free] at handled
    cases handled
  have found : rel.source? "rowid" = some source := by
    unfold Relation.rowHandle? at handled
    split at handled
    · cases handled
    · cases handled
    next found =>
      cases handled
      exact found
  rw [rel.source?_congr same] at found
  exact layout.column_shows keys integer named found stores

end LaidOut

theorem readAll_ok {α β : Type} {read : α → Except DatabaseError β} {place : Nat} {rows : List α}
    {values : List β} (done : readAll read place rows = .ok values) :
    List.Forall₂ (fun r value => read r = .ok value) rows values := by
  induction rows generalizing place values with
  | nil =>
      cases done
      exact .nil
  | cons r rows ih =>
      simp only [readAll] at done
      split at done
      · cases done
      next first =>
        cases rest : readAll read (place + 1) rows with
        | error e =>
            rw [rest] at done
            cases done
        | ok others =>
            rw [rest] at done
            cases done
            exact .cons first (ih rest)

theorem holds_iff_same {source : Source} {s r : Record} {n : Int64} (shownS : ShowsAsStored source s)
    (shownR : ShowsAsStored source r) (read : readInteger 0 (source.cell s) = .ok n) :
    source.holds (· == .eq) r n = (source.cell r == source.cell s) := by
  obtain ⟨value, cell, asIs⟩ := shownS
  obtain ⟨other, cell', -⟩ := shownR
  rw [cell] at read ⊢
  cases value with
  | text | blob => cases read
  | integer m =>
      cases read
      rw [Source.holds, asIs n n rfl, cell']
      have equal : Cell.holds (· == .eq) (.ofKeyValue other) (.ofKeyValue (.integer n)) =
          (compare other (.integer n) == .eq) := Cell.holds_ofKeyValue ..
      refine equal.trans ?_
      rw [Bool.eq_iff_iff, beq_iff_eq, beq_iff_eq, Cell.ofKeyValue_injective.eq_iff]
      exact Std.LawfulEqOrd.compare_eq_iff_eq

/-- A batch deletes the rows that are not told apart from a selected one. -/
theorem RowHandle.tests_any {handle : RowHandle} {rel : Relation} {selected : List Record}
    (shows : ∀ source, handle = .column source → ∀ r ∈ rel.records, ShowsAsStored source r)
    (stored : ∀ s ∈ selected, s ∈ rel.records) {tests : List (Record → Bool)}
    (told : handle.tests selected = .ok tests) {r : Record} (hr : r ∈ rel.records) :
    tests.any (· r) = selected.any fun s => handle.same s r := by
  cases handle with
  | number =>
      cases told
      rw [List.any_map]
      rfl
  | column source =>
      obtain ⟨values, read, tested⟩ := bind_eq_ok.1 told
      cases tested
      have shown := shows source rfl
      rw [List.any_map]
      have each := readAll_ok read
      clear read told
      induction each with
      | nil => rfl
      | cons first rest ih =>
          obtain ⟨here, others⟩ := List.forall_mem_cons.1 stored
          rw [List.any_cons, List.any_cons, ih others]
          exact congrArg (· || _) (holds_iff_same (shown _ here) (shown r hr) first)

section Batch

variable {db : Database} {t : Table} {rel : Relation} {leading : KeyColumn}
  {further : List KeyColumn} {version : Record → Version} {columns : VersionColumns}

theorem shows_stored (layout : db.LaidOut t rel) (keys : t.keys = leading :: further)
    (integer : leading.type = .integer) (foundColumns : rel.versionColumns? t = some columns)
    (stores : ∀ r ∈ rel.records, r.Stores t (version r)) :
    ∀ r ∈ rel.records, columns.Show r (version r) := by
  obtain ⟨columns', found, -, shows⟩ := layout.versionColumns?_eq keys integer
  cases foundColumns.symm.trans found
  exact fun r hr => shows r _ (stores r hr)

/-- Once there are tests for the selected rows, a batch deletes, and counts, the rows that are not told
    apart from a selected one. -/
theorem batch_told (layout : db.LaidOut t rel) (valid : t.validate = .ok ())
    (keys : t.keys = leading :: further) (integer : leading.type = .integer)
    (foundColumns : rel.versionColumns? t = some columns)
    (stores : ∀ r ∈ rel.records, r.Stores t (version r)) (selector : RowSelector)
    (limit : Option Nat) {handle : RowHandle} (handled : rel.rowHandle? = .ok handle)
    {tests : List (Record → Bool)} :
    let selected := (selector.sweep version limit (rel.scan columns selector.marker)).doomed
    let gone (r : Record) : Bool := selected.any fun s => handle.same s r
    handle.tests selected = .ok tests →
      (db.batch t selector limit).outcome = .ok (rel.records.countP gone) ∧
        (db.batch t selector limit).store.find? t.name = some (rel.keep fun r => !gone r) := by
  intro selected gone told
  have shown := shows_stored layout keys integer foundColumns stores
  have stored : ∀ s ∈ selected, s ∈ rel.records := fun s hs =>
    Relation.mem_of_mem_scan ((RowSelector.doomed_sublist ..).subset hs)
  have shows : ∀ source, handle = .column source → ∀ r ∈ rel.records, ShowsAsStored source r := by
    rintro source rfl r hr
    exact layout.rowHandle_shows keys integer handled (stores r hr)
  have batch := (batch_select layout valid keys integer handled foundColumns selector limit).1 _ _
    ((Relation.select_tests shown handle selector limit).1 tests told)
  have left : (rel.deleteRows tests).2 = rel.keep fun r => !gone r := by
    rw [deleteRows_eq_keep]
    refine Relation.keep_congr fun r hr => ?_
    rw [RowHandle.tests_any shows stored told hr]
  have kept : (db.replace t.name (rel.keep fun r => !gone r)).LaidOut t (rel.keep fun r => !gone r) :=
    layout.replace rfl rfl rfl rfl
  have deleted : (rel.deleteRows tests).1 = rel.records.countP gone := by
    have counted := length_deleteRows rel tests
    have parts := rel.length_keep_not gone
    rw [left] at counted
    omega
  rw [batch, left, deleted]
  exact ⟨rfl, kept.found⟩

theorem exists_tests_of_batch (layout : db.LaidOut t rel) (keys : t.keys = leading :: further)
    (integer : leading.type = .integer) (foundColumns : rel.versionColumns? t = some columns)
    (stores : ∀ r ∈ rel.records, r.Stores t (version r)) (selector : RowSelector)
    (limit : Option Nat) {deleted : Nat} (done : (db.batch t selector limit).outcome = .ok deleted) :
    ∃ handle tests, rel.rowHandle? = .ok handle ∧
      handle.tests (selector.sweep version limit (rel.scan columns selector.marker)).doomed =
        .ok tests := by
  have shown := shows_stored layout keys integer foundColumns stores
  cases db.batch_ends t selector limit with
  | refused _ ends | unread _ _ ends | readOnly _ _ _ _ ends =>
      rw [ends] at done
      cases done
  | @done _ _ handle _ scans selects _ _ =>
      cases layout.found.symm.trans scans.found
      cases foundColumns.symm.trans scans.columnsFound
      have refuses := (Relation.select_tests shown handle selector limit).2
      cases told : handle.tests
          (selector.sweep version limit (rel.scan columns selector.marker)).doomed with
      | error fault => cases (refuses fault.1 fault.2 told).symm.trans selects
      | ok tests => exact ⟨handle, tests, scans.handled, told⟩

/-- A batch selects, of the rows from the selector's marker on and in scan order, those on which its
    selector decides so, up to the limit and none that is spared. If no column of the definition is
    called `rowid`, it succeeds, deletes just these rows and counts them. Whatever the columns are
    called, a batch that succeeds deletes and counts the rows that the name does not tell apart from a
    selected one. -/
theorem batch_deletes_selected (created : db.HasCreated t rel) (valid : t.validate = .ok ())
    (keys : t.keys = leading :: further) (integer : leading.type = .integer)
    (stores : ∀ r ∈ rel.records, r.Stores t (version r)) (selector : RowSelector)
    (limit : Option Nat) :
    ∃ scanned : List Record,
      scanned.Perm (rel.records.filter fun r => selector.marker ≤ (version r).key.leading) ∧
      (scanned.Pairwise fun q r => ((version q).scanCompare (version r)).isLE = true) ∧
      let selected := RowSelector.atMost limit (selector.chosen version scanned)
      (∀ n, limit = some n → selected.length ≤ max n 1) ∧
      (∀ r ∈ selected, r ∈ rel.records ∧ selector.rule.Reaches (version r)) ∧
      ((∀ name ∈ t.columnNames, Text.sameName "rowid" name = false) →
        (db.batch t selector limit).outcome = .ok selected.length ∧
        (db.batch t selector limit).store.find? t.name =
          some (rel.keep fun r => decide (r ∉ selected))) ∧
      ∀ deleted, (db.batch t selector limit).outcome = .ok deleted →
        ∃ handle, rel.rowHandle? = .ok handle ∧
          let gone (r : Record) : Bool := selected.any fun s => handle.same s r
          deleted = rel.records.countP gone ∧
            (db.batch t selector limit).store.find? t.name = some (rel.keep fun r => !gone r) := by
  have layout := created.laidOut
  obtain ⟨columns, foundColumns, first, shows⟩ := layout.versionColumns?_eq keys integer
  have shown : ∀ r ∈ rel.records, columns.Show r (version r) := fun r hr =>
    shows r _ (stores r hr)
  refine ⟨rel.scan columns selector.marker, ?_, ?_, ?_⟩
  · have reached : ∀ r ∈ rel.records, columns.leading.holds Ordering.isGE r selector.marker =
        decide (selector.marker ≤ (version r).key.leading) := fun r hr =>
      (shown r hr).holds_eq first selector.marker
    rw [← List.filter_congr reached]
    exact rel.scan_perm columns selector.marker
  · exact (Relation.ordered_scan shown selector.marker).imp fun both => both.2
  · rw [← RowSelector.doomed_eq_atMost]
    refine ⟨?_, fun r hr => ⟨?_, ?_⟩, fun free => ?_, fun deleted done => ?_⟩
    · rintro n rfl
      exact RowSelector.length_doomed_le ..
    · exact Relation.mem_of_mem_scan ((RowSelector.doomed_sublist ..).subset hr)
    · rw [RowSelector.doomed_eq_atMost] at hr
      exact RowSelector.reaches_of_mem_chosen (RowSelector.mem_of_mem_atMost hr)
    · obtain ⟨columns', found, -, -, batch, left⟩ :=
        batch_scan layout valid keys integer free stores selector limit
      cases foundColumns.symm.trans found
      rw [batch]
      exact ⟨rfl, left.found⟩
    · obtain ⟨handle, tests, handled, told⟩ :=
        exists_tests_of_batch layout keys integer foundColumns stores selector limit done
      obtain ⟨counted, left⟩ :=
        batch_told layout valid keys integer foundColumns stores selector limit handled told
      exact ⟨handle, handled, Except.ok.inj (done.symm.trans counted), left⟩

end Batch

theorem batch_deletes_selected_holdings :
    holdingDatabase.HasCreated holdings holdingRelation ∧ holdings.validate = .ok () ∧
      (∀ r ∈ holdingRelation.records, r.Stores holdings (holdingVersion r)) ∧
      (∀ name ∈ holdings.columnNames, Text.sameName "rowid" name = false) ∧
      ∃ selected : List Record, selected.length ≤ 2 ∧
        (∀ r ∈ selected, (holdingVersion r).height < 6) ∧
        (holdingDatabase.batch holdings (.start ⟨6, none⟩) (some 2)).outcome =
          .ok selected.length ∧
        (holdingDatabase.batch holdings (.start ⟨6, none⟩) (some 2)).store.find? holdings.name =
          some (holdingRelation.keep fun r => decide (r ∉ selected)) := by
  have created : holdingDatabase.HasCreated holdings holdingRelation :=
    hasCreated_filled (by decide +kernel) (by decide +kernel) _ _
  have valid : holdings.validate = .ok () := by decide +kernel
  have free : ∀ name ∈ holdings.columnNames, Text.sameName "rowid" name = false := by
    decide +kernel
  obtain ⟨scanned, -, -, few, selected, batch, -⟩ := batch_deletes_selected created valid rfl rfl
    stores_holdings (.start ⟨6, none⟩) (some 2)
  obtain ⟨counted, left⟩ := batch free
  exact ⟨created, valid, stores_holdings, free, _, few 2 rfl, fun r hr => (selected r hr).2.1,
    counted, left⟩

/-- A definition whose key column takes the name by which rows are deleted. -/
def shadowed : Table := { name := "account", keys := [⟨"rowid", .integer⟩] }

def shadowedRelation : Relation :=
  .filled shadowed
    [⟨1, [.integer 1, .integer 10, .integer 1, .null]⟩,
      ⟨2, [.integer 1, .integer 5, .integer 0, .null]⟩,
      ⟨3, [.integer 1, .integer 3, .integer 0, .null]⟩] (by decide)

def shadowedDatabase : Database where
  relations := [shadowedRelation]

def shadowedVersion (r : Record) : Version :=
  match r.rowid with
  | 1 => ⟨⟨1, []⟩, 10, true⟩
  | 2 => ⟨⟨1, []⟩, 5, false⟩
  | _ => ⟨⟨1, []⟩, 3, false⟩

theorem stores_shadowed : ∀ r ∈ shadowedRelation.records, r.Stores shadowed (shadowedVersion r) := by
  intro r hr
  simp only [shadowedRelation, Relation.filled, List.mem_cons, List.not_mem_nil, or_false] at hr
  rcases hr with rfl | rfl | rfl
  all_goals exact ⟨⟨_, rfl⟩, .nil⟩

def shadowedColumns : VersionColumns where
  leading := .column 0 .integer
  further := []
  height := .column 1 .integer
  latest := .column 2 .numeric

theorem scan_shadowed (rule : RetentionRule) :
    shadowedRelation.scan shadowedColumns (RowSelector.start rule).marker =
      shadowedRelation.records := by
  have asked : ∀ r ∈ shadowedRelation.records,
      shadowedColumns.leading.holds Ordering.isGE r Int64.minValue = true := by
    decide
  exact Relation.scan_inOrder asked (by decide +kernel) (by decide)

/-- One row is selected, and all three of its key are deleted: the one that readers see at the trim
    height, and the one above it. -/
theorem batch_deletes_unselected :
    shadowed.validate = .ok () ∧ shadowedDatabase.HasCreated shadowed shadowedRelation ∧
      (∀ r ∈ shadowedRelation.records, r.Stores shadowed (shadowedVersion r)) ∧
      (shadowedDatabase.batch shadowed (.start ⟨6, some (-1)⟩) (some 1)).outcome = .ok 3 ∧
      ((shadowedDatabase.batch shadowed (.start ⟨6, some (-1)⟩) (some 1)).store.find?
        shadowed.name).map Relation.records = some [] := by
  have valid : shadowed.validate = .ok () := by decide +kernel
  have created : shadowedDatabase.HasCreated shadowed shadowedRelation :=
    hasCreated_filled (by decide +kernel) (by decide +kernel) _ _
  have handled : shadowedRelation.rowHandle? = .ok (.column (.column 0 .integer)) := by
    decide +kernel
  have layout := created.laidOut
  have foundColumns : shadowedRelation.versionColumns? shadowed = some shadowedColumns := by
    have leading : shadowedRelation.quotedSource "rowid" = .column 0 .integer :=
      layout.key_source (i := 0) (k := ⟨"rowid", .integer⟩) rfl
    simp only [Relation.versionColumns?, show shadowed.keys = [⟨"rowid", .integer⟩] from rfl,
      List.map_nil, leading, layout.height_source, layout.latest_source]
    rfl
  obtain ⟨tests, told⟩ : ∃ tests, (RowHandle.column (.column 0 .integer)).tests
      ((RowSelector.start ⟨6, some (-1)⟩).sweep shadowedVersion (some 1)
        (shadowedRelation.scan shadowedColumns
          (RowSelector.start ⟨6, some (-1)⟩).marker)).doomed = .ok tests := by
    rw [scan_shadowed]
    exact ⟨_, rfl⟩
  obtain ⟨counted, left⟩ := batch_told layout valid rfl rfl foundColumns stores_shadowed
    (.start ⟨6, some (-1)⟩) (some 1) handled told
  rw [scan_shadowed] at counted left
  refine ⟨valid, created, stores_shadowed, ?_, ?_⟩
  · rw [counted]
    decide +kernel
  · rw [left]
    decide +kernel

end Database

end HistoryTrim
