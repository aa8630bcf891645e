import HistoryTrim.Proofs.OrderedTrim
import HistoryTrim.Proofs.Runs

/-! # Runs that fail

A failure can be arranged for a batch of a run that is about to start. The batches before it are
those of the run that is left alone; they stay, and were full. Any later trim under the same rule
takes the rest.
-/

namespace HistoryTrim

theorem Metrics.countCommitted_replicate (m : Metrics) (count n : Nat) :
    m.countCommitted (List.replicate count n) =
      { m with
        batches := m.batches + UInt64.ofNat count
        rowsDeleted := m.rowsDeleted + UInt64.ofNat (count * n) } := by
  rw [countCommitted_eq, List.length_replicate, total_replicate]

namespace MemoryStore

open VersionStore

variable {s : MemoryStore} {t : Table} {size : Option BatchSize} {selector : RowSelector}
  {h start : History} {rule : RetentionRule}

/-- The store without the failure that may have been arranged. -/
def calm (s : MemoryStore) : MemoryStore := { s with failingBatch := none }

theorem untroubled_calm (s : MemoryStore) : s.calm.Untroubled := fun _ arranged => by cases arranged

theorem deleteBatch_failOnBatch_one (s : MemoryStore) (t : Table) (selector : RowSelector)
    (limit : Option Nat) :
    VersionStore.deleteBatch (s.failOnBatch 1) t selector limit =
      ⟨.error (.unavailable s!"injected failure on batch {s.batchesStarted + 1}"), selector,
        { s.failOnBatch 1 with batchesStarted := s.batchesStarted + 1 }⟩ := by
  simp only [VersionStore.deleteBatch, deleteBatch, failOnBatch, if_true]

theorem deleteBatch_failOnBatch_later (quiet : s.failingBatch = none) (count : Nat) (t : Table)
    (selector : RowSelector) (limit : Option Nat) :
    VersionStore.deleteBatch (s.failOnBatch (count + 2)) t selector limit =
      ⟨(VersionStore.deleteBatch s t selector limit).outcome,
        (VersionStore.deleteBatch s t selector limit).selector,
        (VersionStore.deleteBatch s t selector limit).store.failOnBatch (count + 1)⟩ := by
  have later : s.batchesStarted + (count + 2) = s.batchesStarted + 1 + (count + 1) := by omega
  have notDue : s.batchesStarted + 1 + (count + 1) ≠ s.batchesStarted + 1 := by omega
  simp only [VersionStore.deleteBatch, deleteBatch, failOnBatch, quiet, later, Option.some.injEq,
    notDue, if_false, reduceCtorEq]
  cases s.tables.get? t.name <;> rfl

theorem failingBatch_deleteBatch (quiet : s.failingBatch = none) (t : Table)
    (selector : RowSelector) (limit : Option Nat) :
    (VersionStore.deleteBatch s t selector limit).store.failingBatch = none := by
  change (s.deleteBatch t selector limit).store.failingBatch = none
  cases s.batch_ends t selector limit with
  | refused _ _ ends | done _ _ _ ends =>
      rw [ends]
      exact quiet

theorem batchesStarted_deleteBatch (s : MemoryStore) (t : Table) (selector : RowSelector)
    (limit : Option Nat) :
    (VersionStore.deleteBatch s t selector limit).store.batchesStarted = s.batchesStarted + 1 := by
  change (s.deleteBatch t selector limit).store.batchesStarted = s.batchesStarted + 1
  cases s.batch_ends t selector limit with
  | refused _ _ ends => rw [ends]
  | done _ _ _ ends =>
      rw [ends]
      rfl

/-- A run whose failure comes due ends there: it committed the batches before, and the store is as
    they left it but for the failure. -/
theorem runBatches_failOnBatch_within {n : BatchSize} (quiet : s.failingBatch = none) {count : Nat}
    (within : count < (runBatches t (some n) s selector).batches.length) :
    let last := (afterBatches t (some n) count s selector).1
    runBatches t (some n) (s.failOnBatch (count + 1)) selector =
      ⟨(runBatches t (some n) s selector).batches.take count,
        some (.unavailable s!"injected failure on batch {s.batchesStarted + (count + 1)}"),
        { last.failOnBatch 1 with batchesStarted := last.batchesStarted + 1 }⟩ := by
  intro last
  induction count generalizing s selector with
  | zero =>
      have failed := deleteBatch_failOnBatch_one s t selector.restartGroup (some n.rows)
      have run : runBatches t (some n) (s.failOnBatch 1) selector = _ :=
        runBatches_failed (congrArg Batch.outcome failed)
      rw [run]
      exact congrArg (BatchRun.mk _ _) (congrArg Batch.store failed)
  | succ count ih =>
      have more : 1 < (runBatches t (some n) s selector).batches.length := by omega
      obtain ⟨m, deleted, limited, full, done, run⟩ := exists_full_batch more
      cases limited
      have same := deleteBatch_failOnBatch_later quiet count t selector.restartGroup (some n.rows)
      have failing : runBatches t (some n) (s.failOnBatch (count + 2)) selector = _ :=
        runBatches_full ((congrArg Batch.outcome same).trans done) full
      have started := batchesStarted_deleteBatch s t selector.restartGroup (some n.rows)
      rw [run] at within
      have rest := ih (failingBatch_deleteBatch quiet t selector.restartGroup (some n.rows))
        (Nat.lt_of_succ_lt_succ within)
      rw [started, Nat.add_assoc, Nat.add_comm 1] at rest
      rw [failing, same, rest, run]
      rfl

theorem runBatches_failOnBatch_last (quiet : s.failingBatch = none) (count : Nat) {deleted : Nat}
    (done : (VersionStore.deleteBatch s t selector.restartGroup (size.map BatchSize.rows)).outcome =
      .ok deleted)
    (few : ∀ n, size = some n → ¬ n.rows ≤ deleted) :
    let batch := VersionStore.deleteBatch s t selector.restartGroup (size.map BatchSize.rows)
    runBatches t size (s.failOnBatch (count + 2)) selector =
      ⟨[⟨deleted, batch.selector.marker⟩], none, batch.store.failOnBatch (count + 1)⟩ := by
  intro batch
  have same := deleteBatch_failOnBatch_later quiet count t selector.restartGroup
    (size.map BatchSize.rows)
  rw [runBatches_last ((congrArg Batch.outcome same).trans done) few, same]

theorem runBatches_failOnBatch_beyond {size : Option BatchSize} (quiet : s.failingBatch = none)
    (succeeded : (runBatches t size s selector).failure = none) {count : Nat}
    (beyond : (runBatches t size s selector).batches.length ≤ count) :
    runBatches t size (s.failOnBatch (count + 1)) selector =
      ⟨(runBatches t size s selector).batches, none,
        (runBatches t size s selector).store.failOnBatch
          (count + 1 - (runBatches t size s selector).batches.length)⟩ := by
  induction s, selector using runBatches_induct (σ := MemoryStore) t size generalizing count with
  | failed s selector e refused run =>
      rw [run] at succeeded
      cases succeeded
  | last s selector deleted done few run =>
      rw [run] at beyond ⊢
      obtain ⟨count, rfl⟩ := Nat.exists_eq_add_of_le' beyond
      exact runBatches_failOnBatch_last quiet count done few
  | full s selector n deleted sized done enough run ih =>
      subst sized
      rw [run] at succeeded beyond ⊢
      obtain ⟨count, rfl⟩ := Nat.exists_eq_add_of_le' (Nat.le_trans (Nat.le_add_left 1 _) beyond)
      have same := deleteBatch_failOnBatch_later quiet count t selector.restartGroup (some n.rows)
      have failing : runBatches t (some n) (s.failOnBatch (count + 2)) selector = _ :=
        runBatches_full ((congrArg Batch.outcome same).trans done) enough
      have rest := ih (failingBatch_deleteBatch quiet t selector.restartGroup (some n.rows))
        succeeded (Nat.le_of_succ_le_succ beyond)
      rw [failing, same]
      rw [← Nat.add_sub_add_right (count + 1) 1] at rest
      exact congrArg (BatchRun.afterBatch _) rest

theorem deleteBatch_full {n : BatchSize} {deleted : Nat} (stored : s.history? t.name = some h)
    (full : n.rows ≤ deleted)
    (done : (VersionStore.deleteBatch s t selector.restartGroup (some n.rows)).outcome =
      .ok deleted) : deleted = n.rows := by
  rcases deleteBatch_cases stored selector.restartGroup (some n.rows) with
    ⟨⟨e, failed⟩, -⟩ | ⟨done', -⟩
  · cases failed.symm.trans done
  · have few := RowSelector.length_doomed_le id selector.restartGroup n.rows
      (h.since selector.restartGroup.marker)
    have same : deleted = (h.sweep selector.restartGroup (some n.rows)).doomed.length :=
      Except.ok.inj (done.symm.trans done')
    have pos := n.rows_pos
    rw [History.sweep] at same
    omega

/-- Between two batches of a run, the versions that are gone fill the batches so far, and what is
    left is on its way to what the trim leaves. -/
theorem afterBatches_partway {n : BatchSize} (stored : s.history? t.name = some start) {count : Nat}
    (between : count < (runBatches t (some n) s selector).batches.length) :
    ∃ h, (afterBatches t (some n) count s selector).1.history? t.name = some h ∧
      selector.rule.Partway start h ∧ h.size + count * n.rows = start.size := by
  let motive : Nat → MemoryStore → RowSelector → Prop := fun count store here =>
    here.rule = selector.rule ∧ ∃ h, store.history? t.name = some h ∧
      selector.rule.Partway start h ∧ h.size + count * n.rows = start.size
  have first : motive 0 s selector := ⟨rfl, start, stored, .refl _ start, by omega⟩
  refine (afterBatches_induction (motive := motive) first ?_ between).2
  rintro count store here m deleted limited ⟨rule, h, stored, partway, size⟩ full done
  cases limited
  obtain ⟨h', left, batched, rule'⟩ := deleteBatch_done stored done
  have taken := deleteBatch_full stored full done
  have parts := batched.size
  refine ⟨rule'.trans rule, h', left, ?_, ?_⟩
  · rw [rule] at batched
    exact partway.step rfl (Int64.le_refl _) batched.sub batched.gone
  · rw [Nat.succ_mul]
    omega

theorem committed_take {n : BatchSize} (stored : s.history? t.name = some h) {count : Nat}
    (between : count < (runBatches t (some n) s selector).batches.length) :
    ((runBatches t (some n) s selector).batches.take count).map BatchRecord.deleted =
      List.replicate count n.rows := by
  induction count generalizing s selector h with
  | zero => rfl
  | succ count ih =>
      have more : 1 < (runBatches t (some n) s selector).batches.length := by omega
      obtain ⟨m, deleted, limited, full, done, run⟩ := exists_full_batch more
      cases limited
      obtain ⟨h', left, -⟩ := deleteBatch_done stored done
      rw [run] at between ⊢
      have rest := ih left (Nat.lt_of_succ_lt_succ between)
      rw [deleteBatch_full stored full done]
      exact congrArg (n.rows :: ·) rest

theorem runBatches_size (stored : s.history? t.name = some h) :
    ∃ h', (runBatches t size s selector).store.history? t.name = some h' ∧
      h'.size + (runBatches t size s selector).rowsDeleted = h.size := by
  induction s, selector using runBatches_induct (σ := MemoryStore) t size generalizing h with
  | failed s selector e refused run =>
      rw [run]
      rcases deleteBatch_restartGroup stored selector (size.map BatchSize.rows) with
        ⟨-, untouched, -⟩ | ⟨deleted, h', done, -⟩
      · exact ⟨h, untouched, rfl⟩
      · cases refused.symm.trans done
  | last s selector deleted done few run =>
      obtain ⟨h', left, batched, -⟩ := deleteBatch_done stored done
      rw [run]
      exact ⟨h', left, batched.size⟩
  | full s selector n deleted sized done enough run ih =>
      obtain ⟨h', left, batched, -⟩ := deleteBatch_done stored done
      obtain ⟨rest, leaves, parts⟩ := ih left
      have taken := batched.size
      simp only [run, BatchRun.rowsDeleted_afterBatch]
      refine ⟨rest, leaves, ?_⟩
      omega

/-- Every trim of a table under a rule succeeds, in order and in batches of any size or without an
    order: it leaves this history and deletes so many rows. -/
structure TrimsTo (s : MemoryStore) (t : Table) (rule : RetentionRule) (rest : History)
    (deleted : Nat) : Prop where
  ordered : ∀ size : Option Nat,
    let run := trimOrdered s t (BatchSize.ofOption? size) rule
    run.failure = none ∧ run.store.history? t.name = some rest ∧ run.rowsDeleted = deleted
  unordered : (s.trimUnordered t rule).1 = .ok deleted ∧
    (s.trimUnordered t rule).2.history? t.name = some rest

theorem exists_trimsTo (stored : s.history? t.name = some h) (untroubled : s.Untroubled)
    (newestOnly : start.LatestIsNewest) (partway : rule.Partway start h) :
    ∃ deleted, s.TrimsTo t rule (start.trimmed rule) deleted ∧
      (start.trimmed rule).size + deleted = h.size := by
  have same := partway.trimmed_eq newestOnly
  have fewer : (h.trimmed rule).size ≤ h.size := List.length_filter_le ..
  rw [same] at fewer
  refine ⟨h.size - (start.trimmed rule).size, ⟨?_, ?_⟩, by omega⟩
  · intro size run
    have succeeded : run.failure = none := runBatches_succeeds stored untroubled
    have left : run.store.history? t.name = some (start.trimmed rule) :=
      runBatches_eq_trimmed newestOnly stored (.first partway) succeeded
    obtain ⟨h', left', parts⟩ : ∃ h', run.store.history? t.name = some h' ∧
        h'.size + run.rowsDeleted = h.size := runBatches_size stored
    cases left.symm.trans left'
    refine ⟨succeeded, left, ?_⟩
    omega
  · rw [← same]
    exact trimUnordered_eq stored rule

/-- What an abandoned run took and what a later trim takes make up what a whole run takes. -/
theorem exists_trimsTo_whole {abandoned : MemoryStore} {rest : History} {taken : Nat}
    (newestOnly : h.LatestIsNewest) (stored : s.history? t.name = some h)
    (succeeded : (trimOrdered s t size rule).failure = none)
    (here : abandoned.history? t.name = some rest) (untroubled : abandoned.Untroubled)
    (partway : rule.Partway h rest) (gone : rest.size + taken = h.size) :
    ∃ survivors deleted, (trimOrdered s t size rule).store.history? t.name = some survivors ∧
      abandoned.TrimsTo t rule survivors deleted ∧
      taken + deleted = (trimOrdered s t size rule).rowsDeleted := by
  have survivors : (trimOrdered s t size rule).store.history? t.name = some (h.trimmed rule) :=
    runBatches_eq_trimmed newestOnly stored (.first (.refl rule h)) succeeded
  obtain ⟨h', left, parts⟩ : ∃ h', (trimOrdered s t size rule).store.history? t.name = some h' ∧
      h'.size + (trimOrdered s t size rule).rowsDeleted = h.size := runBatches_size stored
  cases survivors.symm.trans left
  obtain ⟨deleted, trims, still⟩ := exists_trimsTo here untroubled newestOnly partway
  refine ⟨h.trimmed rule, deleted, survivors, trims, ?_⟩
  omega

/-- A run that is to fail at its `count`-th batch does so, unless it ends before as if no failure was
    arranged. The batches before that one are committed: the tables are as these left them, and the
    counters tell how many rows are gone. If only newest versions are latest, every later trim under
    the rule then leaves what the run would have left, and takes just the rows that it still had to
    take. -/
theorem trimOrdered_failOnBatch (rule : RetentionRule) (n : BatchSize) {count : Nat}
    (positive : 0 < count) (stored : s.history? t.name = some h) :
    let whole := trimOrdered s.calm t (some n) rule
    let run := trimOrdered (s.failOnBatch count) t (some n) rule
    let committed := afterBatches t (some n) (count - 1) s.calm (.start rule)
    whole.failure = none ∧
      (whole.batches.length < count →
        run.failure = none ∧ run.batches = whole.batches ∧ run.store.tables = whole.store.tables) ∧
      (count ≤ whole.batches.length →
        run.failure =
            some (.unavailable s!"injected failure on batch {s.batchesStarted + count}") ∧
          run.batches = whole.batches.take (count - 1) ∧
          run.store.tables = committed.1.tables ∧
          (∀ m : Metrics, m.countCommitted run.committed =
            { m with
              batches := m.batches + UInt64.ofNat (count - 1)
              rowsDeleted := m.rowsDeleted + UInt64.ofNat ((count - 1) * n.rows) }) ∧
          (∃ rest, run.store.history? t.name = some rest ∧
            rest.size + (count - 1) * n.rows = h.size) ∧
          (h.LatestIsNewest → ∃ survivors deleted,
            whole.store.history? t.name = some survivors ∧
            run.store.TrimsTo t rule survivors deleted ∧
            (count - 1) * n.rows + deleted = whole.rowsDeleted)) := by
  intro whole run committed
  obtain ⟨count, rfl⟩ := Nat.exists_eq_add_of_le' positive
  have quiet : s.calm.failingBatch = none := rfl
  have storedCalm : s.calm.history? t.name = some h := stored
  have succeeded : whole.failure = none := runBatches_succeeds storedCalm (untroubled_calm s)
  refine ⟨succeeded, fun fewer => ?_, fun due => ?_⟩
  · have same : run = _ :=
      runBatches_failOnBatch_beyond quiet succeeded (Nat.le_of_lt_succ fewer)
    rw [same]
    exact ⟨rfl, rfl, rfl⟩
  · have failed : run = _ := runBatches_failOnBatch_within quiet due
    obtain ⟨rest, left, partway, gone⟩ : ∃ rest, committed.1.history? t.name = some rest ∧
        rule.Partway h rest ∧ rest.size + count * n.rows = h.size :=
      afterBatches_partway storedCalm due
    have here : run.store.history? t.name = some rest := by
      rw [failed]
      exact left
    have full : run.committed = List.replicate count n.rows := by
      rw [failed]
      exact committed_take storedCalm due
    rw [Nat.add_sub_cancel]
    refine ⟨congrArg BatchRun.failure failed, congrArg BatchRun.batches failed,
      congrArg (fun r => r.store.tables) failed, fun m => ?_, ⟨rest, here, gone⟩, fun newestOnly => ?_⟩
    · rw [full, Metrics.countCommitted_replicate]
    · have untroubled : run.store.Untroubled := by
        rw [failed]
        intro batch arranged
        cases arranged
        exact Nat.le_refl _
      exact exists_trimsTo_whole newestOnly storedCalm succeeded here untroubled partway gone

theorem committed_accounts :
    (trimOrdered accountStore accounts (some ⟨2, by decide⟩) ⟨6, some (-1)⟩).committed = [2, 1] := by
  let size : BatchSize := ⟨2, by decide⟩
  let selector := (RowSelector.start ⟨6, some (-1)⟩).restartGroup
  let first := accountStore.deleteBatch accounts selector (some 2)
  have full : first.outcome = .ok 2 :=
    congrArg Except.ok (by decide : (accountHistory.sweep selector (some 2)).doomed.length = 2)
  have last : (first.store.deleteBatch accounts first.selector.restartGroup (some 2)).outcome = .ok 1 :=
    congrArg Except.ok (by decide : ((accountHistory.afterSweep selector (some 2)).sweep
      first.selector.restartGroup (some 2)).doomed.length = 1)
  have run : trimOrdered accountStore accounts (some size) ⟨6, some (-1)⟩ = _ :=
    runBatches_full full (Nat.le_refl 2)
  have rest : runBatches accounts (some size) first.store first.selector = _ :=
    runBatches_last last fun n limited => by cases limited; decide
  calc (trimOrdered accountStore accounts (some size) ⟨6, some (-1)⟩).committed
      = 2 :: (runBatches accounts (some size) first.store first.selector).committed :=
        congrArg BatchRun.committed run
    _ = [2, 1] := congrArg (fun r : BatchRun MemoryStore => 2 :: r.committed) rest

theorem trimOrdered_failOnBatch_accounts :
    0 < 2 ∧ accountStore.history? accounts.name = some accountHistory ∧
      accountHistory.LatestIsNewest ∧
      (trimOrdered accountStore.calm accounts (some ⟨2, by decide⟩) ⟨6, some (-1)⟩).batches.length = 2 ∧
      (trimOrdered (accountStore.failOnBatch 2) accounts (some ⟨2, by decide⟩)
        ⟨6, some (-1)⟩).failure = some (.unavailable "injected failure on batch 2") ∧
      ∃ survivors,
        (trimOrdered accountStore.calm accounts (some ⟨2, by decide⟩) ⟨6, some (-1)⟩).store.history?
          accounts.name = some survivors ∧
        (trimOrdered (accountStore.failOnBatch 2) accounts (some ⟨2, by decide⟩)
          ⟨6, some (-1)⟩).store.TrimsTo accounts ⟨6, some (-1)⟩ survivors 1 := by
  have stored : accountStore.history? accounts.name = some accountHistory := rfl
  have newestOnly : accountHistory.LatestIsNewest := by decide
  have committed : (trimOrdered accountStore.calm accounts (some ⟨2, by decide⟩)
      ⟨6, some (-1)⟩).committed = [2, 1] := committed_accounts
  have batches : (trimOrdered accountStore.calm accounts (some ⟨2, by decide⟩)
      ⟨6, some (-1)⟩).batches.length = 2 := by
    have count := congrArg List.length committed
    rwa [BatchRun.committed, List.length_map] at count
  obtain ⟨-, -, due⟩ :=
    trimOrdered_failOnBatch ⟨6, some (-1)⟩ ⟨2, by decide⟩ (by decide : 0 < 2) stored
  obtain ⟨failed, -, -, -, -, resumes⟩ := due (Nat.le_of_eq batches.symm)
  obtain ⟨survivors, deleted, left, trims, sum⟩ := resumes newestOnly
  have all : (trimOrdered accountStore.calm accounts (some ⟨2, by decide⟩)
      ⟨6, some (-1)⟩).rowsDeleted = 3 := congrArg total committed
  have one : deleted = 1 := Nat.add_left_cancel (sum.trans all)
  rw [one] at trims
  exact ⟨by decide, stored, newestOnly, batches, failed, survivors, left, trims⟩

end MemoryStore

end HistoryTrim
