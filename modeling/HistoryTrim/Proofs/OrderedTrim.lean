import HistoryTrim.Compaction
import HistoryTrim.Proofs.Batch
import HistoryTrim.Proofs.Runs

/-! # What an ordered trim leaves

Between two batches the history is on the way to what the trim leaves, and behind the marker it is
there already. This does not depend on where the batches were cut, nor on what else was taken in
between, so every batch size leads to the same history.
-/

namespace HistoryTrim

/-- Between two batches of a trim that started on a history. -/
structure RetentionRule.Between (rule : RetentionRule) (start h : History) (marker : Int64) : Prop
    extends rule.Partway start h where
  settled : ∀ v ∈ h, v.key.leading < marker → rule.Keeps start v

namespace RetentionRule.Between

variable {rule : RetentionRule} {start h h' : History} {marker stop : Int64}

theorem first (partway : rule.Partway start h) : rule.Between start h Int64.minValue where
  toPartway := partway
  settled _ _ behind := absurd (Int64.minValue_le _) (Int64.not_le.2 behind)

theorem shrink (between : rule.Between start h marker) (partway : rule.Partway start h')
    (sub : ∀ v ∈ h', v ∈ h) : rule.Between start h' marker where
  toPartway := partway
  settled v hv := between.settled v (sub v hv)

theorem partway_batch (between : rule.Between start h marker) {limit : Option Nat} {deleted : Nat}
    (batch : Batched rule limit h h' marker stop deleted) : rule.Partway start h' :=
  between.toPartway.step rfl (Int64.le_refl _) batch.sub batch.gone

theorem next (between : rule.Between start h marker) (newestOnly : start.LatestIsNewest)
    {limit : Option Nat} {deleted : Nat}
    (batch : Batched rule limit h h' marker stop deleted) : rule.Between start h' stop where
  toPartway := between.partway_batch batch
  settled v hv behind := by
    rcases batch.settled v hv behind with before | keeps
    · exact between.settled v (batch.sub v hv) before
    · exact between.toPartway.keeps_start newestOnly (batch.sub v hv) keeps

theorem last (between : rule.Between start h marker) (newestOnly : start.LatestIsNewest)
    {limit : Option Nat} {deleted : Nat}
    (batch : Batched rule limit h h' marker stop deleted)
    (few : ∀ n, limit = some n → deleted < n) : h' = start.trimmed rule := by
  refine (between.partway_batch batch).eq_trimmed fun v hv => ?_
  rcases batch.finished few v hv with before | keeps
  · exact between.settled v (batch.sub v hv) before
  · exact between.toPartway.keeps_start newestOnly (batch.sub v hv) keeps

end RetentionRule.Between

namespace MemoryStore

open VersionStore

variable {t : Table} {size : Option BatchSize} {s : MemoryStore} {selector : RowSelector}

theorem runBatches_succeeds {h : History} (stored : s.history? t.name = some h)
    (untroubled : s.Untroubled) : (runBatches t size s selector).failure = none := by
  induction s, selector using runBatches_induct (σ := MemoryStore) t size generalizing h with
  | failed s selector e refused =>
      rcases deleteBatch_restartGroup stored selector (size.map BatchSize.rows) with
        ⟨-, -, troubled⟩ | ⟨deleted, h', done, -⟩
      · exact absurd untroubled troubled
      · cases refused.symm.trans done
  | last s selector deleted done few run => rw [run]
  | full s selector n deleted sized done enough run ih =>
      rcases deleteBatch_restartGroup stored selector (some n.rows) with
        ⟨-, -, troubled⟩ | ⟨-, h', -, left, -, -, quiet⟩
      · exact absurd untroubled troubled
      · rw [run]
        exact ih left (quiet untroubled)

/-- A run that goes on from between two batches and succeeds leaves what the trim keeps. -/
theorem runBatches_eq_trimmed {start h : History} (newestOnly : start.LatestIsNewest)
    (stored : s.history? t.name = some h)
    (between : selector.rule.Between start h selector.marker)
    (succeeded : (runBatches t size s selector).failure = none) :
    (runBatches t size s selector).store.history? t.name =
      some (start.trimmed selector.rule) := by
  induction s, selector using runBatches_induct (σ := MemoryStore) t size generalizing h with
  | failed s selector e refused run =>
      rw [run] at succeeded
      cases succeeded
  | last s selector deleted done few run =>
      obtain ⟨h', left, batched, -⟩ := deleteBatch_done stored done
      rw [run, ← between.last newestOnly batched (lt_of_few few)]
      exact left
  | full s selector n deleted sized done enough run ih =>
      obtain ⟨h', left, batched, rule⟩ := deleteBatch_done stored done
      rw [run] at succeeded ⊢
      rw [← rule] at between batched ⊢
      exact ih left (between.next newestOnly batched) succeeded

/-- An ordered trim of a table in which only newest versions are latest keeps the window, the
    retained height and the boundary of every entity that lives, in every batch size; so every
    latest version survives. It fails only where a failure was arranged. -/
theorem trimOrdered_survivors {h : History} (rule : RetentionRule)
    (stored : s.history? t.name = some h) (newestOnly : h.LatestIsNewest) :
    ∃ rest : History, (∀ v, v ∈ rest ↔ v ∈ h ∧ rule.Keeps h v) ∧
      (∀ v ∈ h, v.latest = true → v ∈ rest) ∧
      ∀ size : Option Nat,
        let run := trimOrdered s t (BatchSize.ofOption? size) rule
        (s.Untroubled → run.failure = none) ∧
          (run.failure = none → run.store.history? t.name = some rest) := by
  refine ⟨h.trimmed rule, fun v => RetentionRule.mem_trimmed, ?_, fun size => ⟨?_, ?_⟩⟩
  · intro v hv latest
    exact RetentionRule.mem_trimmed.2
      ⟨hv, RetentionRule.keeps_newest (newestOnly v hv latest) (.inl latest)⟩
  · exact runBatches_succeeds stored
  · exact runBatches_eq_trimmed newestOnly stored (.first (.refl rule h))

def accounts : Table := { name := "account", keys := [⟨"id", .integer⟩] }

theorem validate_accounts : accounts.validate = .ok () := by
  decide

/-- An account that is still there, with a boundary at 4 and a version kept forever, and one that
    was gone at 5. -/
def accountHistory : History where
  rows :=
    [⟨⟨1, []⟩, 10, true⟩, ⟨⟨1, []⟩, 7, false⟩, ⟨⟨1, []⟩, 4, false⟩, ⟨⟨1, []⟩, 1, false⟩,
      ⟨⟨1, []⟩, -1, false⟩, ⟨⟨2, []⟩, 5, false⟩, ⟨⟨2, []⟩, 2, false⟩]
  ordered := by decide

def accountStore : MemoryStore where
  tables := ⟨[("account", ⟨columnTypes accounts, [], accountHistory⟩)]⟩

theorem untroubled_accountStore : accountStore.Untroubled := by
  intro n arranged
  cases arranged

theorem trimOrdered_survivors_accounts :
    accountStore.history? accounts.name = some accountHistory ∧ accountHistory.LatestIsNewest ∧
      ∃ rest : History,
        (∀ v, v ∈ rest ↔ v ∈ accountHistory ∧ RetentionRule.Keeps ⟨6, some (-1)⟩ accountHistory v) ∧
        (∀ v ∈ accountHistory, v.latest = true → v ∈ rest) ∧
        (trimOrdered accountStore accounts (BatchSize.ofOption? (some 2)) ⟨6, some (-1)⟩).store.history?
          accounts.name = some rest := by
  have stored : accountStore.history? accounts.name = some accountHistory := rfl
  have newestOnly : accountHistory.LatestIsNewest := by decide
  obtain ⟨rest, survivors, latest, run⟩ :=
    trimOrdered_survivors ⟨6, some (-1)⟩ stored newestOnly
  obtain ⟨succeeds, leaves⟩ := run (some 2)
  exact ⟨stored, newestOnly, rest, survivors, latest, leaves (succeeds untroubled_accountStore)⟩

end MemoryStore

/-! ## Trims in a single batch

Without a limit on its batches an ordered trim is one scan of the whole table, which takes the
obsolete versions. So it does what a trim without an order does, whatever the table holds: nothing
is asked of the latest flags.
-/

namespace History

theorem since_minValue (h : History) : h.since Int64.minValue = h.rows := by
  rw [since_eq_filter, List.filter_eq_self]
  intro v _
  simp [Int64.minValue_le]

theorem before_minValue (h : History) : h.before Int64.minValue = [] := by
  have parts := h.before_append_since Int64.minValue
  rw [since_minValue] at parts
  exact List.append_left_eq_self.1 parts

theorem afterSweep_unlimited (h : History) (rule : RetentionRule) :
    h.afterSweep (RowSelector.start rule).restartGroup none = h.trimmed rule := by
  have knows := (RowSelector.start rule).knows_restartGroup
  have sorted : ([] ++ h.rows).Pairwise Version.Precedes := h.ordered
  have spared : (h.sweep (RowSelector.start rule).restartGroup none).spared =
      h.rows.filter fun v => !rule.isObsolete h.rows v := by
    have marker : (RowSelector.start rule).restartGroup.marker = Int64.minValue := rfl
    rw [sweep, marker, since_minValue]
    exact (knows.sweep sorted).2
  apply History.ext
  calc (h.afterSweep (RowSelector.start rule).restartGroup none).rows
      = h.before Int64.minValue ++ (h.sweep (RowSelector.start rule).restartGroup none).spared := rfl
    _ = h.rows.filter fun v => !rule.isObsolete h.rows v := by
        rw [before_minValue, List.nil_append, spared]

end History

namespace MemoryStore

open VersionStore

variable {s : MemoryStore} {t : Table} {h : History}

/-- A trim without an order does what an ordered trim does in one batch, on every table: it counts
    the same, and leaves all tables the same. -/
theorem trimUnordered_eq_trimOrdered (rule : RetentionRule) {size : Option Nat}
    (unlimited : BatchSize.ofOption? size = none) (stored : s.history? t.name = some h)
    (notDue : s.failingBatch ≠ some (s.batchesStarted + 1)) :
    let run := trimOrdered s t (BatchSize.ofOption? size) rule
    run.failure = none ∧ run.batches.length = 1 ∧
      (s.trimUnordered t rule).1 = .ok run.rowsDeleted ∧
      (s.trimUnordered t rule).2.tables = run.store.tables := by
  intro run
  obtain ⟨table, found, rfl⟩ := Option.map_eq_some_iff.1 stored
  let sweep := table.history.sweep (RowSelector.start rule).restartGroup none
  let rest := { s with batchesStarted := s.batchesStarted + 1 }.withHistory t.name table
    (table.history.trimmed rule)
  have batch : s.deleteBatch t (RowSelector.start rule).restartGroup none =
      ⟨.ok sweep.doomed.length, sweep.selector, rest⟩ := by
    rw [deleteBatch_eq found notDue, History.afterSweep_unlimited]
  have single : run = ⟨[⟨sweep.doomed.length, sweep.selector.marker⟩], none, rest⟩ := by
    have last : runBatches t none s (.start rule) = _ :=
      runBatches_last (congrArg Batch.outcome batch) fun n limited => by cases limited
    have here : VersionStore.deleteBatch s t (RowSelector.start rule).restartGroup none = _ := batch
    rw [Option.map_none, here] at last
    exact (congrArg (trimOrdered s t · rule) unlimited).trans last
  have taken := table.history.size_afterSweep (RowSelector.start rule).restartGroup none
  rw [History.afterSweep_unlimited] at taken
  have counted : table.history.size - (table.history.trimmed rule).size = run.rowsDeleted := by
    simp only [single, BatchRun.rowsDeleted, BatchRun.committed, List.map_cons, List.map_nil,
      total_cons, total_nil, sweep]
    omega
  rw [trimUnordered_found found, counted, single]
  exact ⟨rfl, rfl, rfl, rfl⟩

/-- Two latest versions below a newer one that is not, a retained version that is the newest of its
    key, and one that stands between others. -/
def looseHistory : History where
  rows :=
    [⟨⟨1, []⟩, 10, false⟩, ⟨⟨1, []⟩, 7, true⟩, ⟨⟨1, []⟩, 4, true⟩, ⟨⟨1, []⟩, 1, false⟩,
      ⟨⟨2, []⟩, -1, true⟩, ⟨⟨2, []⟩, -3, false⟩, ⟨⟨2, []⟩, -5, true⟩,
      ⟨⟨2, [.integer 7]⟩, 5, false⟩, ⟨⟨2, [.integer 7]⟩, -1, true⟩, ⟨⟨2, [.integer 7]⟩, -2, true⟩]
  ordered := by decide

def looseStore : MemoryStore where
  tables := ⟨[("account", ⟨columnTypes accounts, [], looseHistory⟩)]⟩

theorem trimUnordered_eq_trimOrdered_loose :
    BatchSize.ofOption? (some 0) = none ∧ ¬ looseHistory.LatestIsNewest ∧
      looseStore.history? accounts.name = some looseHistory ∧
      looseStore.failingBatch ≠ some (looseStore.batchesStarted + 1) ∧
      (trimOrdered looseStore accounts (BatchSize.ofOption? (some 0)) ⟨6, some (-1)⟩).failure = none ∧
      (looseStore.trimUnordered accounts ⟨6, some (-1)⟩).1 = .ok 4 ∧
      (trimOrdered looseStore accounts (BatchSize.ofOption? (some 0)) ⟨6, some (-1)⟩).rowsDeleted = 4 ∧
      (looseStore.trimUnordered accounts ⟨6, some (-1)⟩).2.tables =
        (trimOrdered looseStore accounts (BatchSize.ofOption? (some 0)) ⟨6, some (-1)⟩).store.tables := by
  have unlimited : BatchSize.ofOption? (some 0) = none := rfl
  have broken : ¬ looseHistory.LatestIsNewest := by decide
  have stored : looseStore.history? accounts.name = some looseHistory := rfl
  have notDue : looseStore.failingBatch ≠ some (looseStore.batchesStarted + 1) := by decide
  obtain ⟨succeeds, -, counted, same⟩ :=
    trimUnordered_eq_trimOrdered ⟨6, some (-1)⟩ unlimited stored notDue
  have four : (looseStore.trimUnordered accounts ⟨6, some (-1)⟩).1 = .ok 4 := by rfl
  exact ⟨unlimited, broken, stored, notDue, succeeds, four,
    (Except.ok.inj (four.symm.trans counted)).symm, same⟩

end MemoryStore

end HistoryTrim
