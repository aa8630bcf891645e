import HistoryTrim.Proofs.Attempts
import HistoryTrim.Proofs.Database.BothTrims
import HistoryTrim.Proofs.OrderedTrim

/-! # Latest rows

A trim asks the newest row of a key for its flag, and no other. So a latest row is safe until a newer
row of its key lies below the trim height, and no store keeps that from happening. Only the statement
of an unordered trim asks every row for its own flag. Of two rows of a database with one key and one
height either may stand in for the other.
-/

namespace HistoryTrim

namespace RowSelector

variable {α : Type} {version : α → Version} {s : RowSelector} {seen rows : List α}

/-- What a selector remembers of its current key it has from rows of this key. -/
structure Backed (s : RowSelector) (version : α → Version) (seen : List α) : Prop where
  newest : ∀ k, s.previousKey = some k → s.keyObsolete = true →
    ∃ q ∈ seen, (version q).key = k ∧ s.rule.outlives (version q) = true
  boundary : ∀ k, s.previousKey = some k → s.boundaryKept = true →
    ∃ q ∈ seen, (version q).key = k ∧ s.rule.Reaches (version q)

theorem backed_restartGroup (s : RowSelector) : s.restartGroup.Backed version seen where
  newest _ current := by cases current
  boundary _ current := by cases current

theorem Backed.enter (backed : s.Backed version seen) (r : α) :
    ((s.enter (version r)).keyObsolete = true → ∃ q, (q ∈ seen ∨ q = r) ∧
      (version q).key = (version r).key ∧ s.rule.outlives (version q) = true) ∧
    ((s.enter (version r)).boundaryKept = true → ∃ q ∈ seen,
      (version q).key = (version r).key ∧ s.rule.Reaches (version q)) := by
  by_cases same : s.previousKey = some (version r).key
  · simp only [RowSelector.enter, if_pos same]
    refine ⟨fun gone => ?_, backed.boundary _ same⟩
    obtain ⟨q, hq, newest⟩ := backed.newest _ same gone
    exact ⟨q, .inl hq, newest⟩
  · simp only [RowSelector.enter, if_neg same]
    exact ⟨fun gone => ⟨r, .inr rfl, rfl, gone⟩, fun kept => by cases kept⟩

theorem Backed.judge (backed : s.Backed version seen) (r : α) :
    (s.judge (version r)).2.Backed version (seen ++ [r]) := by
  obtain ⟨newest, boundary⟩ := backed.enter r
  rw [judge_snd]
  refine ⟨fun k current gone => ?_, fun k current kept => ?_⟩
  · obtain rfl : (version r).key = k := by simpa using current
    simpa only [rule_enter, List.mem_append, List.mem_singleton] using newest gone
  · obtain rfl : (version r).key = k := by simpa using current
    simp only [rule_enter, List.mem_append, List.mem_singleton]
    rcases (Bool.or_eq_true ..).to_iff.1 kept with earlier | first
    · obtain ⟨q, hq, reaches⟩ := boundary earlier
      exact ⟨q, .inl hq, reaches⟩
    · rw [Bool.and_eq_true, Bool.not_eq_true'] at first
      exact ⟨r, .inr rfl, rfl, RetentionRule.reaches_iff.2 first.1⟩

theorem Backed.selects (backed : s.Backed version seen) {r : α}
    (selected : (s.judge (version r)).1 = true) :
    ∃ q, (version q).key = (version r).key ∧
      (s.rule.outlives (version q) = true ∧ (q ∈ seen ∨ q = r) ∨
        s.rule.Reaches (version q) ∧ q ∈ seen) := by
  obtain ⟨newest, boundary⟩ := backed.enter r
  rw [judge_fst, Bool.and_eq_true, Bool.or_eq_true] at selected
  rcases selected.2 with gone | kept
  · obtain ⟨q, there, key, outlives⟩ := newest gone
    exact ⟨q, key, .inl ⟨outlives, there⟩⟩
  · obtain ⟨q, there, key, reaches⟩ := boundary kept
    exact ⟨q, key, .inr ⟨reaches, there⟩⟩

theorem doomed_cons {limit : Option Nat} {r d : α}
    (taken : d ∈ (s.sweep version limit (r :: rows)).doomed) :
    (d = r ∧ (s.judge (version r)).1 = true) ∨
      ∃ limit', d ∈ ((s.judge (version r)).2.sweep version limit' rows).doomed := by
  cases s.meets version limit r rows with
  | spares _ sweep =>
      rw [sweep] at taken
      exact .inr ⟨_, taken⟩
  | fills selected _ _ _ sweep =>
      rw [sweep] at taken
      exact .inl ⟨List.mem_singleton.1 taken, selected⟩
  | takes selected _ sweep =>
      rw [sweep] at taken
      exact (List.mem_cons.1 taken).imp (⟨·, selected⟩) (⟨_, ·⟩)

/-- A row that a scan takes has a row of its key that speaks against it: the newest one, which may be
    the row itself, says that the key was gone, or another one within reach stands before it. -/
theorem Backed.doomed (backed : s.Backed version seen) {before : α → α → Prop}
    (ordered : (seen ++ rows).Pairwise before) {limit : Option Nat} {r : α}
    (taken : r ∈ (s.sweep version limit rows).doomed) :
    ∃ q ∈ seen ++ rows, (version q).key = (version r).key ∧
      (s.rule.outlives (version q) = true ∧ (before q r ∨ q = r) ∨
        s.rule.Reaches (version q) ∧ before q r) := by
  induction rows generalizing s seen limit with
  | nil => cases taken
  | cons here later ih =>
      rcases doomed_cons taken with ⟨rfl, selected⟩ | ⟨limit', further⟩
      · obtain ⟨q, key, against⟩ := backed.selects selected
        have ahead : q ∈ seen → before q r := fun hq =>
          (List.pairwise_append.1 ordered).2.2 q hq r List.mem_cons_self
        rcases against with ⟨outlives, hq | rfl⟩ | ⟨reaches, hq⟩
        · exact ⟨q, List.mem_append_left _ hq, key, .inl ⟨outlives, .inl (ahead hq)⟩⟩
        · exact ⟨q, by simp, key, .inl ⟨outlives, .inr rfl⟩⟩
        · exact ⟨q, List.mem_append_left _ hq, key, .inr ⟨reaches, ahead hq⟩⟩
      · rw [List.append_cons] at ordered ⊢
        obtain ⟨q, hq, key, against⟩ := ih (backed.judge here) ordered further
        rw [rule_judge] at against
        exact ⟨q, hq, key, against⟩

/-- A latest row that a scan takes stands behind a row of its key below the trim height. -/
theorem Backed.doomed_latest (backed : s.Backed version seen) {before : α → α → Prop}
    (ordered : (seen ++ rows).Pairwise before) {limit : Option Nat} {r : α}
    (taken : r ∈ (s.sweep version limit rows).doomed) (latest : (version r).latest = true) :
    ∃ q ∈ seen ++ rows, before q r ∧ (version q).key = (version r).key ∧
      (version q).height < s.rule.trimHeight := by
  obtain ⟨q, hq, key, ⟨outlives, ahead | rfl⟩ | ⟨reaches, ahead⟩⟩ := backed.doomed ordered taken
  · exact ⟨q, hq, ahead, key, (RetentionRule.outlives_iff.1 outlives).1⟩
  · rw [(RetentionRule.outlives_iff.1 outlives).2] at latest
    cases latest
  · exact ⟨q, hq, ahead, key, reaches.1⟩

end RowSelector

namespace Database

/-- What ordered trims under a rule may leave of the rows of a table, however far they have come. -/
structure Relation.Leaves (rel : Relation) (rule : RetentionRule) (content : Record → RowContent)
    (rest : Relation) : Prop where
  sub : ∀ r ∈ rest.records, r ∈ rel.records
  latest : ∀ r ∈ rel.records, (content r).latest = true → r ∈ rest.records ∨
    ∃ q ∈ rel.records, q ≠ r ∧ (content q).key = (content r).key ∧
      (content r).height ≤ (content q).height ∧ (content q).height < rule.trimHeight

namespace Relation

variable {rule : RetentionRule} {content : Record → RowContent} {rel rest last : Relation}
  {columns : VersionColumns} {version : Record → Version}

theorem Leaves.refl (rel : Relation) (rule : RetentionRule) (content : Record → RowContent) :
    rel.Leaves rule content rel where
  sub _ hr := hr
  latest _ hr _ := .inl hr

theorem Leaves.trans (first : rel.Leaves rule content rest)
    (second : rest.Leaves rule content last) : rel.Leaves rule content last where
  sub r hr := first.sub r (second.sub r hr)
  latest r hr latest := by
    rcases first.latest r hr latest with stays | newer
    · rcases second.latest r stays latest with still | ⟨q, hq, newer⟩
      · exact .inl still
      · exact .inr ⟨q, first.sub q hq, newer⟩
    · exact .inr newer

theorem ordered_scan (shown : ∀ r ∈ rel.records, columns.Show r (version r)) (marker : Int64) :
    (rel.scan columns marker).Pairwise fun q r =>
      q ≠ r ∧ ((version q).scanCompare (version r)).isLE = true := by
  have upward : ((rel.scan columns marker).map version).Pairwise fun v w =>
      (v.scanCompare w).isLE = true := by
    rw [map_scan shown]
    exact History.upward_mergeSort _
  exact (nodup_scan rel columns marker).and (List.pairwise_map.1 upward)

theorem leaves_scan (shown : ∀ r ∈ rel.records, columns.Show r (content r).version)
    (hasLeading : ∀ r ∈ rel.records, (content r).HasLeading) (selector : RowSelector)
    (limit : Option Nat) :
    let sweep := selector.restartGroup.sweep (fun r => (content r).version) limit
      (rel.scan columns selector.restartGroup.marker)
    rel.Leaves selector.rule content (rel.keep fun r => decide (r ∉ sweep.doomed)) := by
  intro sweep
  refine ⟨fun r hr => List.mem_of_mem_filter hr, fun r hr latest => ?_⟩
  by_cases taken : r ∈ sweep.doomed
  · have backed : selector.restartGroup.Backed (fun r => (content r).version) [] :=
      selector.backed_restartGroup
    have flag : (content r).version.latest = true := by rwa [RowContent.latest_version]
    obtain ⟨q, met, ⟨differ, ahead⟩, key, below⟩ :=
      backed.doomed_latest (ordered_scan shown _) taken flag
    have hq := mem_of_mem_scan met
    have upTo := Version.height_le_of_isLE key ahead
    simp only [RowContent.height_version] at upTo below
    exact .inr ⟨q, hq, differ,
      (RowContent.key_version_eq_iff (hasLeading q hq) (hasLeading r hr)).1 key, upTo, below⟩
  · exact .inl (List.mem_filter.2 ⟨hr, decide_eq_true taken⟩)

end Relation

section Batch

variable {db : Database} {t : Table} {rel : Relation} {content : Record → RowContent}

theorem batch_refused (valid : t.validate = .ok ()) {leading : KeyColumn}
    {further : List KeyColumn} (keys : t.keys = leading :: further)
    (other : leading.type ≠ .integer) (db : Database) (selector : RowSelector)
    (limit : Option Nat) :
    db.batch t selector limit =
      ⟨.error (.nonIntegerLeadingKey t.name leading.name), selector, db⟩ := by
  have first : t.keys.head? = some leading := by rw [keys, List.head?_cons]
  exact Refused.batch_eq (.leading valid first other) selector limit

/-- Only of a table whose leading key is an integer a batch deletes anything. -/
theorem batch_cases (db : Database) (t : Table) :
    (∃ leading further, t.validate = .ok () ∧ t.keys = leading :: further ∧
        leading.type = .integer) ∨
      ∀ selector limit, ∃ e, db.batch t selector limit = ⟨.error e, selector, db⟩ := by
  rcases db.refused_or_scans t with ⟨e, refused⟩ | ⟨rel, columns, handle, scans⟩
  · exact .inr fun selector limit => ⟨e, refused.batch_eq selector limit⟩
  · obtain ⟨valid, leading, first, integer⟩ := scans.orderable
    obtain ⟨further, keys⟩ := List.head?_eq_some_iff.1 first
    exact .inl ⟨leading, further, valid, keys, integer⟩

theorem batch_leaves (layout : db.LaidOut t rel)
    (free : ∀ name ∈ t.columnNames, Text.sameName "rowid" name = false)
    (holds : ∀ r ∈ rel.records, r.Holds t (content r)) (selector : RowSelector)
    (limit : Option Nat) :
    let batch := VersionStore.deleteBatch db t selector.restartGroup limit
    batch.selector.rule = selector.rule ∧
      ∃ rest, batch.store.LaidOut t rest ∧ rel.Leaves selector.rule content rest := by
  intro batch
  rcases db.batch_cases t with ⟨leading, further, valid, keys, integer⟩ | refused
  · obtain ⟨columns, -, -, shown, done, layout'⟩ := batch_scan layout valid keys integer free
      (fun r hr => (holds r hr).stores keys integer) selector.restartGroup limit
    have here : batch = _ := done
    rw [here]
    exact ⟨RowSelector.rule_sweep .., _, layout', Relation.leaves_scan shown
      (fun r hr => (holds r hr).hasLeading keys integer) selector limit⟩
  · obtain ⟨e, failed⟩ := refused selector.restartGroup limit
    have here : batch = _ := failed
    rw [here]
    exact ⟨rfl, rel, layout, .refl ..⟩

open VersionStore in
theorem runBatches_leaves {size : Option BatchSize} {selector : RowSelector}
    (layout : db.LaidOut t rel)
    (free : ∀ name ∈ t.columnNames, Text.sameName "rowid" name = false)
    (holds : ∀ r ∈ rel.records, r.Holds t (content r)) :
    ∃ rest, (runBatches t size db selector).store.LaidOut t rest ∧
      rel.Leaves selector.rule content rest := by
  induction db, selector using runBatches_induct (σ := Database) t size generalizing rel with
  | failed db selector e refused run | last db selector deleted done few run =>
      rw [run]
      exact (batch_leaves layout free holds ..).2
  | full db selector n deleted sized done enough run ih =>
      obtain ⟨rule, rest, layout', first⟩ :=
        batch_leaves layout free holds selector (some n.rows)
      obtain ⟨last, layout'', later⟩ := ih layout' fun r hr => holds r (first.sub r hr)
      rw [rule] at later
      rw [run]
      exact ⟨last, layout'', first.trans later⟩

theorem trimUnordered_keeps_latest (layout : db.LaidOut t rel) (rule : RetentionRule)
    (holds : ∀ r ∈ rel.records, r.Holds t (content r)) :
    ∃ rest, (db.trimUnordered t rule).2.find? t.name = some rest ∧
      ∀ r ∈ rel.records, (content r).latest = true → r ∈ rest.records := by
  have untouched : ∃ rest, db.find? t.name = some rest ∧
      ∀ r ∈ rel.records, (content r).latest = true → r ∈ rest.records :=
    ⟨rel, layout.found, fun r hr _ => hr⟩
  cases valid : t.validate with
  | error e =>
      simp only [trimUnordered, valid]
      exact untouched
  | ok =>
      rcases Nat.lt_or_ge (mostKeys rule.retained.isSome) t.keys.length with many | few
      · rw [layout.trimUnordered_refused valid many]
        exact untouched
      · rw [layout.trimUnordered_done valid few]
        have left : (db.replace t.name (rel.keep fun r =>
            !(TrimView.created t rule).isDoomed rel.records r)).LaidOut t _ :=
          layout.replace rfl rfl rfl rfl
        refine ⟨_, left.found, fun r hr latest => List.mem_filter.2 ⟨hr, ?_⟩⟩
        have flag : (TrimColumns.created t).latest.holds (· == .eq) r 0 = false := by
          rw [(TrimColumns.show_created (holds r hr)).latest_holds, latest]
          decide
        simp only [TrimView.created, TrimView.isDoomed, flag, Bool.and_false, Bool.false_and,
          Bool.not_false]

end Batch

end Database

open Database VersionStore in
/-- Whatever a table holds, and however far a trim comes: in memory, and by an ordered trim of a
    created table, a latest row is deleted only where another row of its key, at least as high, lies
    below the trim height. A trim of a created table without an order deletes no latest row. -/
theorem latest_stays_or_superseded (rule : RetentionRule) (size : Option Nat) :
    (∀ (s : MemoryStore) (t : Table) (h : History), s.history? t.name = some h →
      (∃ h', (trimOrdered s t (BatchSize.ofOption? size) rule).store.history? t.name = some h' ∧
        rule.Leaves h h') ∧
      ∃ h', (s.trimUnordered t rule).2.history? t.name = some h' ∧ rule.Leaves h h') ∧
    ∀ (db : Database) (t : Table) (rel : Relation) (content : Record → RowContent),
      db.HasTable t rel → (∀ r ∈ rel.records, r.Holds t (content r)) →
      ((∀ name ∈ t.columnNames, Text.sameName "rowid" name = false) →
        ∃ rest, (trimOrdered db t (BatchSize.ofOption? size) rule).store.find? t.name = some rest ∧
          rel.Leaves rule content rest) ∧
      ∃ rest, (db.trimUnordered t rule).2.find? t.name = some rest ∧
        ∀ r ∈ rel.records, (content r).latest = true → r ∈ rest.records := by
  constructor
  · intro s t h stored
    obtain ⟨h', left, leaves, -⟩ :=
      (MemoryStore.runBatches_takes (BatchSize.ofOption? size) s t (.start rule)).here h stored
    obtain ⟨h'', left', leaves', -⟩ := (s.trimUnordered_takes t rule).here h stored
    exact ⟨⟨h', left, leaves⟩, h'', left', leaves'⟩
  · intro db t rel content made holds
    refine ⟨fun free => ?_, trimUnordered_keeps_latest made.laidOut rule holds⟩
    obtain ⟨rest, layout, leaves⟩ : ∃ rest,
        (trimOrdered db t (BatchSize.ofOption? size) rule).store.LaidOut t rest ∧
          rel.Leaves rule content rest := runBatches_leaves made.laidOut free holds
    exact ⟨rest, layout.found, leaves⟩

section Covered

open Database MemoryStore VersionStore

/-- An account whose latest version lies below one that is not latest. -/
def coveredHistory : History where
  rows := [⟨⟨1, []⟩, 5, false⟩, ⟨⟨1, []⟩, 2, true⟩]
  ordered := by decide

def coveredStore : MemoryStore where
  tables := ⟨[("account", ⟨columnTypes accounts, [], coveredHistory⟩)]⟩

/-- The same rows in a database. -/
def coveredRelation : Relation :=
  .filled accounts
    [⟨1, [.integer 1, .integer 5, .integer 0, .null]⟩,
      ⟨2, [.integer 1, .integer 2, .integer 1, .null]⟩] (by decide)

def coveredDatabase : Database where
  relations := [coveredRelation]

def coveredContent (r : Record) : RowContent :=
  if r.rowid = 1 then ⟨[.integer 1], 5, false⟩ else ⟨[.integer 1], 2, true⟩

theorem hasTable_covered : coveredDatabase.HasTable accounts coveredRelation :=
  hasTable_filled (by decide +kernel) (by decide +kernel) (by decide +kernel) _ _

theorem holds_covered : ∀ r ∈ coveredRelation.records, r.Holds accounts (coveredContent r) := by
  intro r hr
  simp only [coveredRelation, Relation.filled, List.mem_cons, List.not_mem_nil, or_false] at hr
  rcases hr with rfl | rfl
  all_goals exact ⟨⟨_, rfl⟩, .cons trivial .nil⟩

theorem free_accounts : ∀ name ∈ accounts.columnNames, Text.sameName "rowid" name = false := by
  simp only [Text.sameName_eq_beq]
  decide

theorem latest_stays_or_superseded_covered :
    coveredStore.history? accounts.name = some coveredHistory ∧
      coveredDatabase.HasTable accounts coveredRelation ∧
      (∀ r ∈ coveredRelation.records, r.Holds accounts (coveredContent r)) ∧
      (∀ name ∈ accounts.columnNames, Text.sameName "rowid" name = false) ∧
      (∃ h', (trimOrdered coveredStore accounts (BatchSize.ofOption? (some 1))
          ⟨5, some (-1)⟩).store.history? accounts.name = some h' ∧ ⟨⟨1, []⟩, 2, true⟩ ∈ h') ∧
      ∃ rest, (trimOrdered coveredDatabase accounts (BatchSize.ofOption? (some 1))
          ⟨5, some (-1)⟩).store.find? accounts.name = some rest ∧
        ∀ r ∈ coveredRelation.records, (coveredContent r).latest = true → r ∈ rest.records := by
  obtain ⟨memory, database⟩ := latest_stays_or_superseded ⟨5, some (-1)⟩ (some 1)
  have stored : coveredStore.history? accounts.name = some coveredHistory := rfl
  obtain ⟨⟨h', left, leaves⟩, -⟩ := memory coveredStore accounts coveredHistory stored
  obtain ⟨ordered, -⟩ := database _ _ _ _ hasTable_covered holds_covered
  obtain ⟨rest, found, leavesRows⟩ := ordered free_accounts
  have alone : ∀ w ∈ coveredHistory.rows, (2 : Height) < w.height → ¬ w.height < 5 := by decide
  have aloneRow : ∀ r ∈ coveredRelation.records, (coveredContent r).latest = true →
      ∀ q ∈ coveredRelation.records, q ≠ r → ¬ (coveredContent q).height < 5 := by
    decide +kernel
  refine ⟨stored, hasTable_covered, holds_covered, free_accounts, ⟨h', left, ?_⟩, rest, found, ?_⟩
  · rcases leaves.latest ⟨⟨1, []⟩, 2, true⟩ (.tail _ (.head _)) rfl with
      stays | ⟨w, hw, -, newer, below⟩
    · exact stays
    · exact absurd below (alone w hw newer)
  · intro r hr latest
    rcases leavesRows.latest r hr latest with stays | ⟨q, hq, differ, -, -, below⟩
    · exact stays
    · exact absurd below (aloneRow r hr latest q hq differ)

/-- At a trim height above both rows the latest one goes with the other. -/
theorem latest_deleted_covered :
    coveredStore.history? accounts.name = some coveredHistory ∧
      coveredDatabase.HasTable accounts coveredRelation ∧
      (∀ r ∈ coveredRelation.records, r.Holds accounts (coveredContent r)) ∧
      (⟨⟨1, []⟩, 2, true⟩ : Version) ∈ coveredHistory ∧
      (trimOrdered coveredStore accounts none ⟨6, some (-1)⟩).store.history? accounts.name =
        some ∅ ∧
      (coveredStore.trimUnordered accounts ⟨6, some (-1)⟩).2.history? accounts.name = some ∅ ∧
      ∃ rest, (trimOrdered coveredDatabase accounts none ⟨6, some (-1)⟩).store.find?
        accounts.name = some rest ∧ rest.records = [] := by
  let selector := RowSelector.start ⟨6, some (-1)⟩
  have done : (VersionStore.deleteBatch coveredStore accounts selector.restartGroup none).outcome =
      .ok 2 :=
    congrArg Except.ok
      (by decide : (coveredHistory.sweep selector.restartGroup none).doomed.length = 2)
  have run : trimOrdered coveredStore accounts none ⟨6, some (-1)⟩ = _ :=
    runBatches_last done fun n limited => by cases limited
  have emptied : (trimOrdered coveredStore accounts none ⟨6, some (-1)⟩).store.history?
      accounts.name = some ∅ := by
    rw [run]
    rfl
  have mirrors : coveredRelation.Mirrors accounts coveredHistory := by
    refine ⟨fun r => (coveredContent r).version, fun r hr => ?_, .refl _⟩
    exact (holds_covered r hr).stores rfl rfl
  have untroubled : coveredStore.Untroubled := fun n arranged => by cases arranged
  have twins : Twins accounts coveredDatabase coveredStore :=
    ⟨untroubled, _, _, hasTable_covered.laidOut, rfl, mirrors⟩
  have agree := twins_agree (t := accounts) (by decide +kernel) rfl rfl free_accounts
  obtain ⟨-, -, -, still⟩ := agree.runBatches none _ _ selector twins
  obtain ⟨rest, h, layout, left, version, -, perm⟩ := still.mirrored
  cases left.symm.trans emptied
  exact ⟨rfl, hasTable_covered, holds_covered, .tail _ (.head _), emptied, rfl, rest,
    layout.found, List.map_eq_nil_iff.1 perm.eq_nil⟩

end Covered

end HistoryTrim
