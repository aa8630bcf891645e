import HistoryTrim.Proofs.Database.NumberedRows
import HistoryTrim.Proofs.Database.SelectedRows
import HistoryTrim.Proofs.Runs

/-! # Rows with any cells

A table may hold any cells, so a row may not be readable. A batch that comes to such a row deletes
nothing, and one that does not come to one deletes just the rows that it has selected. A missing height
is readable: it counts as zero.
-/

namespace HistoryTrim.Database

section Reading

variable {α β : Type} {read : α → Except DatabaseError β} {rows : List α}

theorem readable_sublist (read : α → Except DatabaseError β) (rows : List α) :
    ((readable read rows).1.map Prod.fst).Sublist rows := by
  induction rows with
  | nil => exact .slnil
  | cons r rows ih =>
      simp only [readable]
      split
      · exact List.nil_sublist _
      · exact ih.cons_cons r

theorem read_of_mem_readable {p : α × β} (hp : p ∈ (readable read rows).1) :
    read p.1 = .ok p.2 := by
  induction rows with
  | nil => cases hp
  | cons r rows ih =>
      simp only [readable] at hp
      split at hp
      · cases hp
      next first =>
        rcases List.mem_cons.1 hp with rfl | later
        · exact first
        · exact ih later

end Reading

/-- What is read as a height is an integer that is stored there, or zero where nothing is. -/
theorem VersionColumns.height_of_read {columns : VersionColumns} {r : Record} {v : Version}
    (read : columns.read r = .ok v) :
    columns.height.cell r = .integer v.height ∨
      columns.height.cell r = .null ∧ v.height = 0 := by
  obtain ⟨leading, -, read⟩ := bind_eq_ok.1 read
  obtain ⟨rest, -, read⟩ := bind_eq_ok.1 read
  obtain ⟨height, here, read⟩ := bind_eq_ok.1 read
  obtain ⟨latest, -, read⟩ := bind_eq_ok.1 read
  cases read
  cases cell : columns.height.cell r with
  | null =>
      rw [cell] at here
      cases here
      exact .inr ⟨rfl, rfl⟩
  | integer n =>
      rw [cell] at here
      cases here
      exact .inl rfl
  | real | text | blob =>
      rw [cell] at here
      cases here

theorem height_versionColumns? {rel : Relation} {t : Table} {columns : VersionColumns}
    (found : rel.versionColumns? t = some columns) :
    columns.height = rel.quotedSource t.heightColumn := by
  obtain ⟨leading, further, -, rfl⟩ := Relation.versionColumns?_eq_some found
  rfl

section Handle

variable {rel : Relation} {handle : RowHandle}

/-- Unless a column takes the name, rows are told apart by their numbers, be they shown or not. -/
theorem rowHandle_cases (unnamed : ∀ c ∈ rel.columns, Text.sameName "rowid" c.name = false)
    (handled : rel.rowHandle? = .ok handle) :
    handle = .number ∨ ∃ i, rel.numbering = some i ∧ handle = .column (.column i .integer) := by
  cases kept : rel.numbered with
  | false =>
      simp only [Relation.rowHandle?, Relation.source?_rowid unnamed, kept] at handled
      cases handled
  | true =>
      cases shows : rel.numbering with
      | none =>
          rw [Relation.rowHandle?_eq_number unnamed kept shows] at handled
          cases handled
          exact .inl rfl
      | some i =>
          simp only [Relation.rowHandle?, Relation.source?_rowid unnamed, kept, shows] at handled
          cases handled
          exact .inr ⟨i, rfl, rfl⟩

theorem eq_of_same (numbered : rel.WellNumbered)
    (told : handle = .number ∨ ∃ i, rel.numbering = some i ∧ handle = .column (.column i .integer))
    {s r : Record} (hs : s ∈ rel.records) (hr : r ∈ rel.records)
    (same : handle.same s r = true) : s = r := by
  rcases told with rfl | ⟨i, shows, rfl⟩
  · exact Relation.eq_of_rowid hs hr (beq_iff_eq.1 same).symm
  · by_contra differ
    have symmetric : Std.Symm fun a b : Record => a.cell i ≠ b.cell i := ⟨fun _ _ => Ne.symm⟩
    exact (numbered.distinct i shows).forall hs hr differ (beq_iff_eq.1 same).symm

theorem showsAsStored_number (numbered : rel.WellNumbered) {i : Nat}
    (shows : rel.numbering = some i) {r : Record} (hr : r ∈ rel.records) :
    ShowsAsStored (.column i .integer) r := by
  obtain ⟨n, cell⟩ := numbered.integer i shows r hr
  exact ⟨.integer n, cell, fun _ _ _ => rfl⟩

theorem deleteRows_selected (numbered : rel.WellNumbered)
    (told : handle = .number ∨ ∃ i, rel.numbering = some i ∧ handle = .column (.column i .integer))
    {selected : List Record} (stored : ∀ s ∈ selected, s ∈ rel.records) (distinct : selected.Nodup)
    {tests : List (Record → Bool)} (tested : handle.tests selected = .ok tests) :
    rel.deleteRows tests = (selected.length, rel.keep fun r => decide (r ∉ selected)) := by
  have shows : ∀ source, handle = .column source → ∀ r ∈ rel.records, ShowsAsStored source r := by
    rintro source rfl r hr
    rcases told with number | ⟨i, shows, column⟩
    · cases number
    · cases column
      exact showsAsStored_number numbered shows hr
  have left : (rel.deleteRows tests).2 = rel.keep fun r => decide (r ∉ selected) := by
    rw [deleteRows_eq_keep]
    refine Relation.keep_congr fun r hr => ?_
    rw [RowHandle.tests_any shows stored tested hr, Bool.eq_iff_iff, Bool.not_eq_true',
      ← Bool.not_eq_true, decide_eq_true_iff, not_iff_not, List.any_eq_true]
    constructor
    · rintro ⟨s, hs, same⟩
      exact eq_of_same numbered told (stored s hs) hr same ▸ hs
    · intro taken
      refine ⟨r, taken, ?_⟩
      cases handle <;> exact beq_self_eq_true _
  have counted := length_deleteRows rel tests
  have parts := rel.length_keep_not_mem distinct stored
  rw [left] at counted
  exact Prod.ext (by simp only; omega) left

end Handle

section Batch

variable {db : Database} {t : Table} {rel : Relation} {selector : RowSelector}
  {limit : Option Nat}

theorem store_batch_error {e : StoreError} (failed : (db.batch t selector limit).outcome = .error e) :
    (db.batch t selector limit).store = db := by
  cases db.batch_ends t selector limit with
  | refused _ ends | unread _ _ ends | readOnly _ _ _ _ ends => rw [ends]
  | done _ _ _ ends =>
      rw [ends] at failed
      cases failed

theorem exists_select_of_batch {deleted : Nat}
    (done : (db.batch t selector limit).outcome = .ok deleted) :
    ∃ rel columns handle tests, db.Scans t rel columns handle ∧
      (rel.select columns handle selector limit).doomed = .ok tests ∧
      deleted = (rel.deleteRows tests).1 ∧
      (db.batch t selector limit).store = db.replace t.name (rel.deleteRows tests).2 := by
  cases db.batch_ends t selector limit with
  | refused _ ends | unread _ _ ends | readOnly _ _ _ _ ends =>
      rw [ends] at done
      cases done
  | done scans selects _ ends =>
      rw [ends] at done ⊢
      cases done
      exact ⟨_, _, _, _, scans, selects, rfl, rfl⟩

theorem tests_of_select {handle : RowHandle} {columns : VersionColumns}
    {tests : List (Record → Bool)}
    (selects : (rel.select columns handle selector limit).doomed = .ok tests) :
    let rows := (readable columns.read (rel.scan columns selector.marker)).1
    handle.tests ((selector.sweep Prod.snd limit rows).doomed.map Prod.fst) = .ok tests := by
  simp only [Relation.select] at selects
  split at selects
  · cases selects
  next tested =>
    split at selects
    · cases selects
    · cases selects
      exact tested

theorem allOrNothing (t : Table) : VersionStore.AllOrNothing Database t where
  fails _ _ _ _ failed := store_batch_error failed
  counts db selector limit deleted done := by
    obtain ⟨rel, columns, handle, tests, scans, -, rfl, store⟩ := exists_select_of_batch done
    have name : (rel.deleteRows tests).2.name = rel.name := by
      rw [deleteRows_eq_keep, Relation.name_keep]
    have before : db.population t = rel.records.length := by
      rw [population, scans.found, Option.map_some, Option.getD_some]
    have after : (db.batch t selector limit).store.population t =
        (rel.deleteRows tests).2.records.length := by
      rw [store, population_replace scans.found name]
    exact (congrArg (· + _) after).trans ((length_deleteRows rel tests).trans before.symm)

/-- The height of a row lies within reach of a trim. A missing one counts as zero. -/
def Relation.HeightReached (rel : Relation) (t : Table) (rule : RetentionRule) (r : Record) : Prop :=
  ∃ h : Height, h < rule.trimHeight ∧ rule.retained ≠ some h ∧
    ((rel.quotedSource t.heightColumn).cell r = .integer h ∨
      (rel.quotedSource t.heightColumn).cell r = .null ∧ h = 0)

/-- The rows from a marker on that a scan can read, with what it reads. -/
def Relation.readRows (rel : Relation) (columns : VersionColumns) (marker : Int64) :
    List (Record × Version) :=
  (readable columns.read (rel.scan columns marker)).1

theorem nodup_readRows (rel : Relation) (columns : VersionColumns) (marker : Int64) :
    ((rel.readRows columns marker).map Prod.fst).Nodup :=
  (rel.nodup_scan columns marker).sublist (readable_sublist ..)

theorem mem_of_mem_readRows {columns : VersionColumns} {marker : Int64} {p : Record × Version}
    (hp : p ∈ rel.readRows columns marker) : p.1 ∈ rel.records ∧ columns.read p.1 = .ok p.2 := by
  have scanned := (readable_sublist columns.read _).subset (List.mem_map_of_mem hp)
  exact ⟨Relation.mem_of_mem_scan scanned, read_of_mem_readable hp⟩

/-- A batch that succeeds has removed the rows that its selector takes of those it can read. -/
theorem exists_taken_of_batch (found : db.find? t.name = some rel)
    (unnamed : ∀ c ∈ rel.columns, Text.sameName "rowid" c.name = false)
    (numbered : rel.WellNumbered) {deleted : Nat}
    (done : (db.batch t selector limit).outcome = .ok deleted) :
    ∃ columns, rel.versionColumns? t = some columns ∧
      let rows := rel.readRows columns selector.marker
      let taken := (selector.sweep Prod.snd limit rows).doomed.map Prod.fst
      deleted = taken.length ∧
        (db.batch t selector limit).store =
          db.replace t.name (rel.keep fun r => decide (r ∉ taken)) := by
  obtain ⟨rel', columns, handle, tests, scans, selects, rfl, store⟩ := exists_select_of_batch done
  cases found.symm.trans scans.found
  refine ⟨columns, scans.columnsFound, ?_⟩
  intro rows taken
  have inRows : (selector.sweep Prod.snd limit rows).doomed.Sublist rows :=
    RowSelector.doomed_sublist ..
  have distinct : taken.Nodup := (nodup_readRows rel _ _).sublist (inRows.map Prod.fst)
  have stored : ∀ r ∈ taken, r ∈ rel.records := by
    intro r hr
    obtain ⟨p, hp, rfl⟩ := List.mem_map.1 hr
    exact (mem_of_mem_readRows (inRows.subset hp)).1
  have deleted := deleteRows_selected numbered (rowHandle_cases unnamed scans.handled) stored distinct
    (tests_of_select selects)
  refine ⟨congrArg Prod.fst deleted, ?_⟩
  rw [store, deleted]

theorem exists_removed_of_batch (found : db.find? t.name = some rel)
    (unnamed : ∀ c ∈ rel.columns, Text.sameName "rowid" c.name = false)
    (numbered : rel.WellNumbered) {deleted : Nat}
    (done : (db.batch t selector limit).outcome = .ok deleted) :
    ∃ removed : List Record, deleted = removed.length ∧
      (db.batch t selector limit).store =
        db.replace t.name (rel.keep fun r => decide (r ∉ removed)) ∧
      removed.Nodup ∧ (∀ n, limit = some n → removed.length ≤ max n 1) ∧
      ∀ r ∈ removed, r ∈ rel.records ∧ rel.HeightReached t selector.rule r := by
  obtain ⟨columns, columnsFound, counted, store⟩ :=
    exists_taken_of_batch found unnamed numbered done
  let rows := rel.readRows columns selector.marker
  have inRows : (selector.sweep Prod.snd limit rows).doomed.Sublist rows :=
    RowSelector.doomed_sublist ..
  refine ⟨_, counted, store, (nodup_readRows rel _ _).sublist (inRows.map Prod.fst), ?_, ?_⟩
  · rintro n rfl
    rw [List.length_map]
    exact RowSelector.length_doomed_le ..
  · intro r hr
    obtain ⟨p, hp, rfl⟩ := List.mem_map.1 hr
    obtain ⟨stored, read⟩ := mem_of_mem_readRows (inRows.subset hp)
    rw [RowSelector.doomed_eq_atMost] at hp
    obtain ⟨below, differ⟩ := RowSelector.reaches_of_mem_chosen (RowSelector.mem_of_mem_atMost hp)
    have height := VersionColumns.height_of_read read
    rw [height_versionColumns? columnsFound] at height
    exact ⟨stored, p.2.height, below, differ, height⟩

/-- A batch fails and changes nothing, or it removes and counts rows within reach of the trim, as many
    as it may; a missing height counts as zero. So a run that fails ends where the last of its batches
    that succeeded left the database, and these batches and the rows that are gone are what metrics
    grow by. That numbers tell rows apart is no restriction: `Arises.wellNumbered`. A `Relation` has no
    triggers, no foreign keys with actions, no generated columns and no collations, with which a delete
    could do more than it counts or names could show other values. -/
theorem batches_all_or_nothing (found : db.find? t.name = some rel)
    (unnamed : ∀ c ∈ rel.columns, Text.sameName "rowid" c.name = false)
    (numbered : rel.WellNumbered) :
    (∀ (selector : RowSelector) (limit : Option Nat),
      let batch := db.batch t selector limit
      (∃ e, batch.outcome = .error e ∧ batch.store = db) ∨
        ∃ removed : List Record, batch.outcome = .ok removed.length ∧
          batch.store = db.replace t.name (rel.keep fun r => decide (r ∉ removed)) ∧
          removed.Nodup ∧ (∀ n, limit = some n → removed.length ≤ max n 1) ∧
          ∀ r ∈ removed, r ∈ rel.records ∧ rel.HeightReached t selector.rule r) ∧
    ∀ (size : Option BatchSize) (rule : RetentionRule) (e : StoreError),
      let run := VersionStore.trimOrdered db t size rule
      let reached (count : Nat) := VersionStore.afterBatches t size count db (.start rule)
      let batch (count : Nat) :=
        (reached count).1.batch t (reached count).2.restartGroup (size.map BatchSize.rows)
      run.failure = some e →
        (∀ count (earlier : count < run.batches.length),
          (batch count).outcome = .ok run.batches[count].deleted) ∧
        (batch run.batches.length).outcome = .error e ∧
        run.store = (reached run.batches.length).1 ∧
        ∀ m : Metrics, m.countCommitted run.committed =
          { m with
            batches := m.batches + UInt64.ofNat run.batches.length
            rowsDeleted :=
              m.rowsDeleted + UInt64.ofNat (db.population t - run.store.population t) } := by
  refine ⟨fun selector limit => ?_, fun size rule e => ?_⟩
  · intro batch
    cases outcome : batch.outcome with
    | error e => exact .inl ⟨e, rfl, store_batch_error outcome⟩
    | ok deleted =>
        obtain ⟨removed, rfl, removes⟩ := exists_removed_of_batch found unnamed numbered outcome
        exact .inr ⟨removed, rfl, removes⟩
  · intro run reached batch failed
    obtain ⟨store, next⟩ := (allOrNothing t).runBatches_failure failed
    refine ⟨fun count earlier => VersionStore.outcome_afterBatches earlier, next, store, fun m => ?_⟩
    have accounted : total run.committed + run.store.population t = db.population t :=
      (allOrNothing t).total_committed
    have rows : total run.committed = db.population t - run.store.population t := by omega
    have batches : run.committed.length = run.batches.length := List.length_map _
    rw [Metrics.countCommitted_eq, rows, batches]

end Batch

section Mixed

open MemoryStore (accounts validate_accounts)

/-- Accounts whose heights may be missing, or be no integers. -/
def mixedRelation : Relation where
  name := "account"
  columns := [⟨"id", "INTEGER", false⟩, ⟨"height", "INTEGER", false⟩, ⟨"latest", "BOOLEAN", false⟩]
  indexes := []
  records :=
    [⟨1, [.integer 1, .integer 10, .integer 1]⟩, ⟨2, [.integer 1, .integer 5, .integer 0]⟩,
      ⟨3, [.integer 1, .null, .integer 0]⟩, ⟨4, [.integer 2, .text "high", .integer 0]⟩]
  ascending := by decide

def mixedDatabase : Database where
  relations := [mixedRelation]

def heightless : Record := ⟨3, [.integer 1, .null, .integer 0]⟩

/-- The accounts without the row whose height is missing. -/
def heightedRelation : Relation := mixedRelation.keep fun r => decide (r ∉ [heightless])

def heightedDatabase : Database where
  relations := [heightedRelation]

def mixedColumns : VersionColumns where
  leading := .column 0 .integer
  further := []
  height := .column 1 .integer
  latest := .column 2 .numeric

theorem distinct_mixed :
    mixedRelation.columns.Pairwise fun a b => Text.sameName a.name b.name = false := by
  simp only [Text.sameName_eq_beq]
  decide

theorem unnamed_mixed : ∀ c ∈ mixedRelation.columns, Text.sameName "rowid" c.name = false := by
  simp only [Text.sameName_eq_beq]
  decide

theorem height_mixed : mixedRelation.quotedSource "height" = .column 1 .integer := by
  have column : mixedRelation.columns[1]? = some ⟨"height", "INTEGER", false⟩ := rfl
  exact (Relation.quotedSource_column distinct_mixed column).trans
    (congrArg (Source.column 1) (ofDeclared_sqlName .integer))

theorem columns_mixed : mixedRelation.versionColumns? accounts = some mixedColumns := by
  have first : mixedRelation.columns[0]? = some ⟨"id", "INTEGER", false⟩ := rfl
  have leading : mixedRelation.quotedSource "id" = .column 0 .integer :=
    (Relation.quotedSource_column distinct_mixed first).trans
      (congrArg (Source.column 0) (ofDeclared_sqlName .integer))
  have last : mixedRelation.columns[2]? = some ⟨"latest", "BOOLEAN", false⟩ := rfl
  have latest : mixedRelation.quotedSource "latest" = .column 2 .numeric :=
    (Relation.quotedSource_column distinct_mixed last).trans
      (congrArg (Source.column 2) ofDeclared_boolean)
  simp only [Relation.versionColumns?, accounts, List.map_nil, leading, height_mixed, latest]
  rfl

theorem scan_mixed : mixedRelation.scan mixedColumns Int64.minValue = mixedRelation.records :=
  Relation.scan_inOrder (by decide) (Relation.route_unindexed rfl rfl _ _) (by decide)

theorem scan_heighted : heightedRelation.scan mixedColumns 1 = heightedRelation.records :=
  Relation.scan_inOrder (by decide) (Relation.route_unindexed rfl rfl _ _) (by decide)

theorem find?_mixed : mixedDatabase.find? accounts.name = some mixedRelation :=
  List.find?_cons_of_pos (Text.sameName_self _)

theorem find?_heighted : heightedDatabase.find? accounts.name = some heightedRelation :=
  List.find?_cons_of_pos (Text.sameName_self _)

theorem wellNumbered_mixed : mixedRelation.WellNumbered := Relation.wellNumbered_of_hidden rfl

theorem batch_mixed : ∃ selector : RowSelector,
    selector.restartGroup = { rule := ⟨6, some (-1)⟩, marker := 1 } ∧
      mixedDatabase.batch accounts (.start ⟨6, some (-1)⟩) (some 1) =
        ⟨.ok 1, selector, heightedDatabase⟩ := by
  have handled : mixedRelation.rowHandle? = .ok .number :=
    Relation.rowHandle?_eq_number unnamed_mixed rfl rfl
  let tests : List (Record → Bool) := [fun r => r.rowid == 3]
  obtain ⟨selector, again, selects⟩ : ∃ selector : RowSelector,
      selector.restartGroup = { rule := ⟨6, some (-1)⟩, marker := 1 } ∧
        mixedRelation.select mixedColumns .number (.start ⟨6, some (-1)⟩) (some 1) =
          ⟨.ok tests, selector⟩ := by
    unfold Relation.select
    rw [show (RowSelector.start ⟨6, some (-1)⟩).marker = Int64.minValue from rfl, scan_mixed]
    exact ⟨_, rfl, rfl⟩
  have tested : RowHandle.number.tests [heightless] = .ok tests := rfl
  have deleted : mixedRelation.deleteRows tests = (1, heightedRelation) :=
    deleteRows_selected wellNumbered_mixed (.inl rfl) (by decide) (List.nodup_singleton _) tested
  have left : mixedDatabase.replace accounts.name heightedRelation = heightedDatabase := by
    have own : Text.sameName accounts.name mixedRelation.name = true := Text.sameName_self _
    simp only [replace, replaceIn, mixedDatabase, own, if_true, heightedDatabase]
  have batch := (batch_of_select find?_mixed rfl validate_accounts rfl rfl handled columns_mixed
    (.start ⟨6, some (-1)⟩) (some 1)).1 _ _ selects
  rw [deleted, left] at batch
  exact ⟨selector, again, batch⟩

theorem batch_heighted :
    (heightedDatabase.batch accounts { rule := ⟨6, some (-1)⟩, marker := 1 } (some 1)).outcome =
      .error (.database (.mismatch 2 .integer .text)) := by
  have handled : heightedRelation.rowHandle? = .ok .number :=
    Relation.rowHandle?_eq_number unnamed_mixed rfl rfl
  refine (batch_of_select find?_heighted rfl validate_accounts rfl rfl handled columns_mixed _ _).2 _ ?_
  unfold Relation.select
  rw [scan_heighted]
  rfl

theorem run_mixed :
    let run := VersionStore.trimOrdered mixedDatabase accounts (some ⟨1, Nat.one_pos⟩) ⟨6, some (-1)⟩
    run.failure = some (.database (.mismatch 2 .integer .text)) ∧ run.batches.length = 1 ∧
      run.store = heightedDatabase := by
  intro run
  let size : BatchSize := ⟨1, Nat.one_pos⟩
  obtain ⟨selector, again, first⟩ := batch_mixed
  have done : VersionStore.deleteBatch mixedDatabase accounts
      (RowSelector.start ⟨6, some (-1)⟩).restartGroup (some 1) =
        ⟨.ok 1, selector, heightedDatabase⟩ := first
  have failed : (VersionStore.deleteBatch heightedDatabase accounts selector.restartGroup
      ((some size).map BatchSize.rows)).outcome = .error (.database (.mismatch 2 .integer .text)) := by
    rw [again]
    exact batch_heighted
  have whole := VersionStore.runBatches_full (n := size) (congrArg Batch.outcome done)
    (Nat.le_refl 1)
  rw [done, VersionStore.runBatches_failed failed] at whole
  have here : run = _ := whole
  rw [here]
  exact ⟨rfl, rfl, store_batch_error failed⟩

theorem batches_all_or_nothing_mixed :
    mixedDatabase.find? accounts.name = some mixedRelation ∧
      (∀ c ∈ mixedRelation.columns, Text.sameName "rowid" c.name = false) ∧
      mixedRelation.WellNumbered ∧
      let run :=
        VersionStore.trimOrdered mixedDatabase accounts (some ⟨1, Nat.one_pos⟩) ⟨6, some (-1)⟩
      run.failure = some (.database (.mismatch 2 .integer .text)) ∧ run.store = heightedDatabase ∧
        ∀ m : Metrics, m.countCommitted run.committed =
          { m with batches := m.batches + 1, rowsDeleted := m.rowsDeleted + 1 } := by
  obtain ⟨failed, one, left⟩ := run_mixed
  obtain ⟨-, -, -, counted⟩ := (batches_all_or_nothing find?_mixed unnamed_mixed wellNumbered_mixed).2
    (some ⟨1, Nat.one_pos⟩) ⟨6, some (-1)⟩ _ failed
  refine ⟨find?_mixed, unnamed_mixed, wellNumbered_mixed, failed, left, fun m => ?_⟩
  have gone : mixedDatabase.population accounts - heightedDatabase.population accounts = 1 := by
    simp only [population, find?_mixed, find?_heighted]
    decide
  rw [counted, one, left, gone]
  rfl

/-- A row without a height is deleted, which no unordered trim deletes. -/
theorem batch_removes_heightless :
    heightless ∈ mixedRelation.records ∧
      (mixedRelation.quotedSource accounts.heightColumn).cell heightless = .null ∧
      (mixedDatabase.batch accounts (.start ⟨6, some (-1)⟩) (some 1)).outcome = .ok 1 ∧
      ((mixedDatabase.batch accounts (.start ⟨6, some (-1)⟩) (some 1)).store.find?
        accounts.name).map Relation.records =
          some (mixedRelation.records.filter (· ≠ heightless)) ∧
      (mixedDatabase.trimUnordered accounts ⟨6, some (-1)⟩).1 = .ok 0 := by
  obtain ⟨selector, -, batch⟩ := batch_mixed
  have left : (heightedDatabase.find? accounts.name).map Relation.records =
      some (mixedRelation.records.filter (· ≠ heightless)) := by
    rw [find?_heighted]
    decide
  rw [batch]
  exact ⟨by decide, congrArg (·.cell heightless) height_mixed, rfl, left, by decide +kernel⟩

end Mixed

end HistoryTrim.Database
