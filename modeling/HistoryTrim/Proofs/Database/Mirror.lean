import HistoryTrim.Proofs.Batch
import HistoryTrim.Proofs.Database.StoredVersions
import HistoryTrim.Proofs.Runs

/-! # Tables that mirror histories

A created table and a history in memory hold the same rows. A batch sorts the rows that it asks for
and finds the versions that a scan of the history meets, so both batches decide alike, and the rows
that are deleted by their numbers are those that store the versions that go. Along which index the
rows are visited, in how many statements they are deleted and what else they carry plays no part.
-/

namespace HistoryTrim.Database

/-- The rows of a table store the versions of a history, in whatever order. -/
def Relation.Mirrors (rel : Relation) (t : Table) (h : History) : Prop :=
  ∃ version : Record → Version,
    (∀ r ∈ rel.records, r.Stores t (version r)) ∧ (rel.records.map version).Perm h.rows

namespace Relation

variable {rel : Relation} {h : History} {columns : VersionColumns} {version : Record → Version}

theorem eq_of_rowid {a b : Record} (ha : a ∈ rel.records) (hb : b ∈ rel.records)
    (same : a.rowid = b.rowid) : a = b := by
  have general : a = b ∨ a.rowid < b.rowid ∨ b.rowid < a.rowid := by
    refine List.Pairwise.forall_of_forall_of_flip
      (R := fun x y => x = y ∨ x.rowid < y.rowid ∨ y.rowid < x.rowid) (fun _ _ => .inl rfl) ?_ ?_
      ha hb
    · exact rel.ascending.imp fun before => .inr (.inl before)
    · exact rel.ascending.imp fun before => .inr (.inr before)
  rcases general with equal | before | after
  · exact equal
  · omega
  · omega

theorem nodup_records (rel : Relation) : rel.records.Nodup := by
  refine rel.ascending.imp fun {a b} before same => ?_
  rw [same] at before
  exact Nat.lt_irrefl _ before

theorem scan_perm (rel : Relation) (columns : VersionColumns) (marker : Int64) :
    (rel.scan columns marker).Perm
      (rel.records.filter fun r => columns.leading.holds Ordering.isGE r marker) :=
  (List.mergeSort_perm _ _).trans (Route.visit_perm _ _)

theorem map_scan (shown : ∀ r ∈ rel.records, columns.Show r (version r)) (marker : Int64) :
    (rel.scan columns marker).map version =
      (((rel.route columns.order columns.asked).visit
        (rel.records.filter fun r => columns.leading.holds Ordering.isGE r marker)).map
          version).mergeSort fun v w => (v.scanCompare w).isLE := by
  have stored : ∀ r ∈ (rel.route columns.order columns.asked).visit
      (rel.records.filter fun r => columns.leading.holds Ordering.isGE r marker),
      r ∈ rel.records := fun r hr =>
    List.mem_of_mem_filter ((Route.visit_perm _ _).mem_iff.1 hr)
  refine List.map_mergeSort fun a ha b hb => ?_
  rw [(shown a (stored a ha)).compareBy_eq (shown b (stored b hb))]

theorem scan_eq_since (shown : ∀ r ∈ rel.records, columns.Show r (version r))
    (leading : columns.leading = .column 0 .integer) (perm : (rel.records.map version).Perm h.rows)
    (marker : Int64) : (rel.scan columns marker).map version = h.since marker := by
  let asked := rel.records.filter fun r => columns.leading.holds Ordering.isGE r marker
  let visited := (rel.route columns.order columns.asked).visit asked
  have visitedOnce : visited.Perm asked := Route.visit_perm _ asked
  have found : (visited.map version).Perm (h.since marker) := by
    have kept : asked.map version =
        (rel.records.map version).filter fun v => marker ≤ v.key.leading := by
      rw [List.filter_map]
      refine congrArg _ (List.filter_congr fun r hr => ?_)
      exact (shown r hr).holds_eq leading marker
    rw [h.since_eq_filter]
    refine (visitedOnce.map version).trans ?_
    rw [kept]
    exact perm.filter _
  rw [map_scan shown]
  exact @History.mergeSort_eq_rows _ (h.restrict _ (List.dropWhile_sublist _)) found

theorem mem_of_mem_scan {marker : Int64} {r : Record} (hr : r ∈ rel.scan columns marker) :
    r ∈ rel.records :=
  List.mem_of_mem_filter ((rel.scan_perm columns marker).mem_iff.1 hr)

theorem nodup_scan (rel : Relation) (columns : VersionColumns) (marker : Int64) :
    (rel.scan columns marker).Nodup :=
  (rel.scan_perm columns marker).nodup_iff.2 (rel.nodup_records.filter _)

theorem route_unindexed (bare : rel.indexes = []) (unshown : rel.numbering = none)
    (order : List (Source × Bool)) (asked : List Source) : rel.route order asked = .byNumber := by
  have followed : rel.candidates order asked = [] := by
    rw [candidates, bare, List.filterMap_nil]
  have own : rel.ownRoute = .byNumber := by
    simp only [ownRoute, unshown, bare, Option.map_none, Option.toList_none, List.find?_nil]
    exact ite_self _
  simp only [route, followed, List.filter_nil, Candidate.cheapest?, List.mergeSort_nil,
    List.head?_nil, own]

theorem scan_inOrder {marker : Int64}
    (asked : ∀ r ∈ rel.records, columns.leading.holds Ordering.isGE r marker = true)
    (route : rel.route columns.order columns.asked = .byNumber)
    (ordered : rel.records.Pairwise fun a b => (compareBy columns.order a b).isLE = true) :
    rel.scan columns marker = rel.records := by
  have visited : Route.byNumber.visit rel.records = rel.records :=
    List.mergeSort_of_pairwise (List.pairwise_of_forall fun _ _ => rfl)
  rw [scan, List.filter_eq_self.2 asked, route, visited]
  exact List.mergeSort_of_pairwise ordered

theorem readable_eq (rows : List Record) (shown : ∀ r ∈ rows, columns.Show r (version r)) :
    readable columns.read rows = (rows.map fun r => (r, version r), none) := by
  induction rows with
  | nil => rfl
  | cons r rs ih =>
      obtain ⟨first, rest⟩ := List.forall_mem_cons.1 shown
      simp only [readable, first.read_eq, ih rest, List.map_cons]

/-- Of rows that store versions a batch selects those that the selector picks. How rows are told apart
    decides by which tests they are deleted, and whether the batch fails. -/
theorem select_tests (shown : ∀ r ∈ rel.records, columns.Show r (version r)) (handle : RowHandle)
    (selector : RowSelector) (limit : Option Nat) :
    let sweep := selector.sweep version limit (rel.scan columns selector.marker)
    (∀ tests, handle.tests sweep.doomed = .ok tests →
      rel.select columns handle selector limit =
        { doomed := .ok tests, selector := sweep.selector }) ∧
    ∀ place e, handle.tests sweep.doomed = .error (place, e) →
      (rel.select columns handle selector limit).doomed = .error e := by
  intro sweep
  let rows := rel.scan columns selector.marker
  have read := readable_eq rows fun r hr => shown r (mem_of_mem_scan hr)
  obtain ⟨pairs, same⟩ :=
    RowSelector.sweep_map Prod.snd (fun r => (r, version r)) selector limit rows
  have records : (selector.sweep Prod.snd limit (rows.map fun r => (r, version r))).doomed.map
      Prod.fst = sweep.doomed := by
    rw [pairs, List.map_map]
    exact List.map_id _
  have last : (selector.sweep Prod.snd limit (rows.map fun r => (r, version r))).selector =
      sweep.selector := same
  unfold select
  rw [read]
  simp only [records, last]
  constructor
  · intro tests told
    rw [told]
    simp only
    split
    next unreadable => cases unreadable
    next => rfl
  · intro place e failed
    rw [failed]

theorem select_shown (shown : ∀ r ∈ rel.records, columns.Show r (version r))
    (selector : RowSelector) (limit : Option Nat) :
    let sweep := selector.sweep version limit (rel.scan columns selector.marker)
    rel.select columns .number selector limit =
      { doomed := .ok (sweep.doomed.map fun s r => r.rowid == s.rowid)
        selector := sweep.selector } :=
  (select_tests shown .number selector limit).1 _ rfl

/-- A scan of the table selects the rows whose versions a scan of the history selects. -/
theorem sweep_scan_eq (shown : ∀ r ∈ rel.records, columns.Show r (version r))
    (leading : columns.leading = .column 0 .integer) (perm : (rel.records.map version).Perm h.rows)
    (selector : RowSelector) (limit : Option Nat) :
    let sweep := selector.sweep version limit (rel.scan columns selector.marker)
    sweep.doomed.map version = (h.sweep selector limit).doomed ∧
      sweep.selector = (h.sweep selector limit).selector := by
  obtain ⟨versions, same⟩ :=
    RowSelector.sweep_map id version selector limit (rel.scan columns selector.marker)
  rw [scan_eq_since shown leading perm] at versions same
  exact ⟨versions.symm, same.symm⟩

theorem deleteRows_eq_keep_not_mem {selected : List Record}
    (stored : ∀ r ∈ selected, r ∈ rel.records) :
    (rel.deleteRows (selected.map fun s r => r.rowid == s.rowid)).2 =
      rel.keep fun r => decide (r ∉ selected) := by
  rw [deleteRows_eq_keep]
  have same : ∀ r ∈ rel.records,
      (!(selected.map fun s r => r.rowid == s.rowid).any (· r)) = decide (r ∉ selected) := by
    intro r hr
    rw [Bool.eq_iff_iff, Bool.not_eq_true', ← Bool.not_eq_true, decide_eq_true_iff, not_iff_not]
    simp only [List.any_map, List.any_eq_true, Function.comp, beq_iff_eq]
    constructor
    · rintro ⟨s, hs, same⟩
      rwa [eq_of_rowid hr (stored s hs) same]
    · intro hr'
      exact ⟨r, hr', rfl⟩
  have records : rel.records.filter (fun r =>
      !(selected.map fun s r => r.rowid == s.rowid).any (· r)) =
      rel.records.filter fun r => decide (r ∉ selected) := List.filter_congr same
  simp only [keep, records]

theorem length_keep_not_mem {selected : List Record} (distinct : selected.Nodup)
    (stored : ∀ r ∈ selected, r ∈ rel.records) :
    (rel.keep fun r => decide (r ∉ selected)).records.length + selected.length =
      rel.records.length := by
  have parts := (List.filter_append_perm (fun r => decide (r ∈ selected)) rel.records).length_eq
  rw [List.length_append, (filter_mem_perm rel.nodup_records distinct stored).length_eq] at parts
  simp only [records_keep, decide_not]
  omega

theorem keep_perm {selected : List Record} (perm : (rel.records.map version).Perm h.rows)
    (selector : RowSelector) (limit : Option Nat)
    (versions : selected.map version = (h.sweep selector limit).doomed)
    (distinct : selected.Nodup) (stored : ∀ r ∈ selected, r ∈ rel.records) :
    ((rel.keep fun r => decide (r ∉ selected)).records.map version).Perm
      (h.afterSweep selector limit).rows := by
  let test (r : Record) : Bool := decide (r ∈ selected)
  have parts : ((h.sweep selector limit).doomed ++
      (rel.records.filter fun r => !test r).map version).Perm h.rows := by
    rw [← versions, ← List.map_append]
    have whole := List.filter_append_perm test rel.records
    have taken := filter_mem_perm rel.nodup_records distinct stored
    exact (((taken.symm.append_right _).trans whole).map version).trans perm
  simp only [records_keep, decide_not]
  exact (List.perm_append_left_iff _).1 (parts.trans (h.afterSweep_perm selector limit).symm)

end Relation

section Batch

variable {db : Database} {t : Table} {rel : Relation} {h : History} {leading : KeyColumn}
  {further : List KeyColumn} {version : Record → Version}

theorem batch_of_select (found : db.find? t.name = some rel) (writable : db.writable = true)
    (valid : t.validate = .ok ()) (keys : t.keys = leading :: further)
    (integer : leading.type = .integer) {handle : RowHandle}
    (handled : rel.rowHandle? = .ok handle) {columns : VersionColumns}
    (foundColumns : rel.versionColumns? t = some columns) (selector : RowSelector)
    (limit : Option Nat) :
    (∀ tests selector', rel.select columns handle selector limit = ⟨.ok tests, selector'⟩ →
      db.batch t selector limit = ⟨.ok (rel.deleteRows tests).1, selector',
        db.replace t.name (rel.deleteRows tests).2⟩) ∧
    ∀ e, (rel.select columns handle selector limit).doomed = .error e →
      (db.batch t selector limit).outcome = .error (.database e) := by
  have scans : db.Scans t rel columns handle :=
    ⟨.of_keys valid keys integer, found, handled, foundColumns⟩
  constructor
  · intro tests selector' selects
    rw [scans.batch_done (congrArg ScanResult.doomed selects) (.inr writable), selects]
  · intro e fails
    rw [scans.batch_unread fails]

theorem batch_select (layout : db.LaidOut t rel) (valid : t.validate = .ok ())
    (keys : t.keys = leading :: further) (integer : leading.type = .integer) {handle : RowHandle}
    (handled : rel.rowHandle? = .ok handle) {columns : VersionColumns}
    (foundColumns : rel.versionColumns? t = some columns) (selector : RowSelector)
    (limit : Option Nat) :
    (∀ tests selector', rel.select columns handle selector limit = ⟨.ok tests, selector'⟩ →
      db.batch t selector limit = ⟨.ok (rel.deleteRows tests).1, selector',
        db.replace t.name (rel.deleteRows tests).2⟩) ∧
    ∀ e, (rel.select columns handle selector limit).doomed = .error e →
      (db.batch t selector limit).outcome = .error (.database e) :=
  batch_of_select layout.found layout.writable valid keys integer handled foundColumns selector limit

/-- A batch of a created table deletes the rows that a scan of it selects, and counts them. -/
theorem batch_scan (layout : db.LaidOut t rel) (valid : t.validate = .ok ())
    (keys : t.keys = leading :: further) (integer : leading.type = .integer)
    (free : ∀ name ∈ t.columnNames, Text.sameName "rowid" name = false)
    (stores : ∀ r ∈ rel.records, r.Stores t (version r)) (selector : RowSelector)
    (limit : Option Nat) :
    ∃ columns : VersionColumns, rel.versionColumns? t = some columns ∧
      columns.leading = .column 0 .integer ∧ (∀ r ∈ rel.records, columns.Show r (version r)) ∧
      let sweep := selector.sweep version limit (rel.scan columns selector.marker)
      let rest := rel.keep fun r => decide (r ∉ sweep.doomed)
      db.batch t selector limit =
          { outcome := .ok sweep.doomed.length
            selector := sweep.selector
            store := db.replace t.name rest } ∧
        (db.replace t.name rest).LaidOut t rest := by
  obtain ⟨columns, foundColumns, first, shows⟩ := layout.versionColumns?_eq keys integer
  have shown : ∀ r ∈ rel.records, columns.Show r (version r) := fun r hr =>
    shows r _ (stores r hr)
  refine ⟨columns, foundColumns, first, shown, ?_⟩
  intro sweep rest
  have selected := RowSelector.doomed_sublist version selector limit
    (rel.scan columns selector.marker)
  have distinct : sweep.doomed.Nodup := (rel.nodup_scan columns selector.marker).sublist selected
  have stored : ∀ r ∈ sweep.doomed, r ∈ rel.records := fun r hr =>
    Relation.mem_of_mem_scan (selected.subset hr)
  let tests : List (Record → Bool) := sweep.doomed.map fun s r => r.rowid == s.rowid
  have left : (rel.deleteRows tests).2 = rest := Relation.deleteRows_eq_keep_not_mem stored
  have counted : (rel.deleteRows tests).1 = sweep.doomed.length := by
    have deleted := length_deleteRows rel tests
    have parts : rest.records.length + sweep.doomed.length = rel.records.length :=
      Relation.length_keep_not_mem distinct stored
    rw [left] at deleted
    omega
  refine ⟨?_, layout.replace rfl rfl rfl rfl⟩
  have selects := Relation.select_shown shown selector limit
  rw [← counted, ← left]
  exact (batch_select layout valid keys integer (layout.rowHandle?_eq free) foundColumns selector
    limit).1 _ _ selects

theorem batch_eq (layout : db.LaidOut t rel) (valid : t.validate = .ok ())
    (keys : t.keys = leading :: further) (integer : leading.type = .integer)
    (free : ∀ name ∈ t.columnNames, Text.sameName "rowid" name = false) (mirrors : rel.Mirrors t h)
    (selector : RowSelector) (limit : Option Nat) :
    ∃ rest, db.batch t selector limit =
        { outcome := .ok (h.sweep selector limit).doomed.length
          selector := (h.sweep selector limit).selector
          store := db.replace t.name rest } ∧
      (db.replace t.name rest).LaidOut t rest ∧ rest.Mirrors t (h.afterSweep selector limit) := by
  obtain ⟨version, stores, perm⟩ := mirrors
  obtain ⟨columns, -, first, shown, batch, layout'⟩ :=
    batch_scan layout valid keys integer free stores selector limit
  obtain ⟨versions, same⟩ := Relation.sweep_scan_eq shown first perm selector limit
  have selected := RowSelector.doomed_sublist version selector limit
    (rel.scan columns selector.marker)
  refine ⟨_, ?_, layout', version, fun r hr => stores r (List.mem_of_mem_filter hr), ?_⟩
  · rw [batch, same, ← versions, List.length_map]
  · exact Relation.keep_perm perm selector limit versions
      ((rel.nodup_scan columns selector.marker).sublist selected)
      fun r hr => Relation.mem_of_mem_scan (selected.subset hr)

end Batch

/-- A table of a database and one in memory hold the same rows. -/
def SameRows (t : Table) (db : Database) (s : MemoryStore) : Prop :=
  ∃ rel h, db.find? t.name = some rel ∧ s.history? t.name = some h ∧ rel.Mirrors t h

/-- What batches keep of two tables with the same rows. -/
structure Twins (t : Table) (db : Database) (s : MemoryStore) : Prop where
  untroubled : s.Untroubled
  mirrored : ∃ rel h, db.LaidOut t rel ∧ s.history? t.name = some h ∧ rel.Mirrors t h

theorem Twins.sameRows {t : Table} {db : Database} {s : MemoryStore} (twins : Twins t db s) :
    SameRows t db s := by
  obtain ⟨rel, h, layout, stored, mirrors⟩ := twins.mirrored
  exact ⟨rel, h, layout.found, stored, mirrors⟩

open VersionStore in
theorem twins_agree {t : Table} {leading : KeyColumn} {further : List KeyColumn}
    (valid : t.validate = .ok ()) (keys : t.keys = leading :: further)
    (integer : leading.type = .integer)
    (free : ∀ name ∈ t.columnNames, Text.sameName "rowid" name = false) : Agree t (Twins t) := by
  rintro db s ⟨untroubled, rel, h, layout, stored, mirrors⟩ selector limit
  obtain ⟨rest, batch, layout', mirrors'⟩ :=
    batch_eq layout valid keys integer free mirrors selector limit
  have here : VersionStore.deleteBatch db t selector limit = _ := batch
  rcases MemoryStore.deleteBatch_cases stored selector limit with
    ⟨-, -, -, troubled⟩ | ⟨done, selected, left, quiet⟩
  · exact absurd untroubled troubled
  · rw [here]
    exact ⟨⟨_, rfl, done⟩, selected.symm, quiet untroubled, rest, _, layout', left, mirrors'⟩

open VersionStore in
/-- A batch of a table that was created for a definition does what it does in memory, whatever the
    selector carries over and whatever the limit is: it counts the same, leaves the same selector
    and the same rows. So ordered trims report the same batches, and leave the same rows. -/
theorem batches_same_as_in_memory {t : Table} {leading : KeyColumn} {further : List KeyColumn}
    {db : Database} {rel : Relation} {s : MemoryStore} {h : History}
    (valid : t.validate = .ok ()) (keys : t.keys = leading :: further)
    (integer : leading.type = .integer)
    (free : ∀ name ∈ t.columnNames, Text.sameName "rowid" name = false)
    (created : db.HasCreated t rel) (stored : s.history? t.name = some h)
    (untroubled : s.Untroubled) (mirrors : rel.Mirrors t h) :
    (∀ selector limit,
      (∃ deleted, (db.batch t selector limit).outcome = .ok deleted ∧
        (s.deleteBatch t selector limit).outcome = .ok deleted) ∧
      (db.batch t selector limit).selector = (s.deleteBatch t selector limit).selector ∧
      SameRows t (db.batch t selector limit).store (s.deleteBatch t selector limit).store) ∧
    ∀ size rule,
      (trimOrdered db t size rule).failure = none ∧ (trimOrdered s t size rule).failure = none ∧
      (trimOrdered db t size rule).batches = (trimOrdered s t size rule).batches ∧
      SameRows t (trimOrdered db t size rule).store (trimOrdered s t size rule).store := by
  have agree := twins_agree valid keys integer free
  have twins : Twins t db s := ⟨untroubled, rel, h, created.laidOut, stored, mirrors⟩
  constructor
  · intro selector limit
    obtain ⟨counted, same, still⟩ := agree db s twins selector limit
    exact ⟨counted, same, still.sameRows⟩
  · intro size rule
    obtain ⟨done, done', batches, still⟩ := agree.runBatches size db s (.start rule) twins
    exact ⟨done, done', batches, still.sameRows⟩

def holdings : Table := { name := "holding", keys := [⟨"account", .integer⟩, ⟨"asset", .text⟩] }

def holdingHistory : History where
  rows :=
    [⟨⟨1, [.text "eur"]⟩, 7, true⟩, ⟨⟨1, [.text "eur"]⟩, 4, false⟩, ⟨⟨1, [.text "eur"]⟩, 2, false⟩,
      ⟨⟨1, [.text "usd"]⟩, 3, false⟩]
  ordered := by decide

/-- The same rows, as they were written over time. -/
def holdingRecords : List Record :=
  [⟨1, [.integer 1, .text "eur", .integer 2, .integer 0, .null]⟩,
    ⟨2, [.integer 1, .text "usd", .integer 3, .integer 0, .null]⟩,
    ⟨3, [.integer 1, .text "eur", .integer 4, .integer 0, .blob [7]]⟩,
    ⟨5, [.integer 1, .text "eur", .integer 7, .integer 1, .null]⟩]

def holdingVersion (r : Record) : Version :=
  match r.rowid with
  | 1 => ⟨⟨1, [.text "eur"]⟩, 2, false⟩
  | 2 => ⟨⟨1, [.text "usd"]⟩, 3, false⟩
  | 3 => ⟨⟨1, [.text "eur"]⟩, 4, false⟩
  | _ => ⟨⟨1, [.text "eur"]⟩, 7, true⟩

def holdingStore : MemoryStore where
  tables := ⟨[("holding", ⟨MemoryStore.columnTypes holdings, [], holdingHistory⟩)]⟩

theorem stores_holdings : ∀ r ∈ holdingRecords, r.Stores holdings (holdingVersion r) := by
  intro r hr
  simp only [holdingRecords, List.mem_cons, List.not_mem_nil, or_false] at hr
  rcases hr with rfl | rfl | rfl | rfl
  all_goals exact ⟨⟨_, rfl⟩, .cons trivial .nil⟩

theorem exists_holdings : ∃ (db : Database) (rel : Relation),
    db.HasCreated holdings rel ∧ rel.Mirrors holdings holdingHistory := by
  refine ⟨_, .filled holdings holdingRecords (by decide),
    hasCreated_filled (by decide +kernel) (by decide +kernel) _ _, holdingVersion,
    stores_holdings, ?_⟩
  have perm : (holdingRecords.map holdingVersion).Perm holdingHistory.rows := by decide +kernel
  exact perm

/-- A selector that is half way through a key. -/
def holdingSelector : RowSelector where
  rule := ⟨6, some (-1)⟩
  previousKey := some ⟨1, [.text "eur"]⟩
  boundaryKept := true
  marker := 1

open VersionStore in
theorem batches_same_as_in_memory_holdings :
    ∃ (db : Database) (rel : Relation), holdings.validate = .ok () ∧
      (∀ name ∈ holdings.columnNames, Text.sameName "rowid" name = false) ∧
      db.HasCreated holdings rel ∧ holdingStore.Untroubled ∧ rel.Mirrors holdings holdingHistory ∧
      (db.batch holdings holdingSelector (some 0)).selector =
        (holdingStore.deleteBatch holdings holdingSelector (some 0)).selector ∧
      SameRows holdings (db.batch holdings holdingSelector (some 0)).store
        (holdingStore.deleteBatch holdings holdingSelector (some 0)).store ∧
      (trimOrdered db holdings none ⟨6, some (-1)⟩).batches =
        (trimOrdered holdingStore holdings none ⟨6, some (-1)⟩).batches := by
  obtain ⟨db, rel, created, mirrors⟩ := exists_holdings
  have valid : holdings.validate = .ok () := by decide +kernel
  have free : ∀ name ∈ holdings.columnNames, Text.sameName "rowid" name = false := by
    decide +kernel
  have stored : holdingStore.history? holdings.name = some holdingHistory := rfl
  have untroubled : holdingStore.Untroubled := fun n arranged => by cases arranged
  obtain ⟨batch, run⟩ :=
    batches_same_as_in_memory valid rfl rfl free created stored untroubled mirrors
  obtain ⟨-, selector, rows⟩ := batch holdingSelector (some 0)
  obtain ⟨-, -, batches, -⟩ := run none ⟨6, some (-1)⟩
  exact ⟨db, rel, valid, free, created, untroubled, mirrors, selector, rows, batches⟩

end HistoryTrim.Database
