import HistoryTrim.Compaction

/-! # Runs of batches

A run is known from its batches. Two stores whose batches report the same, and stay related, have
the same runs.
-/

namespace HistoryTrim.VersionStore

variable {σ τ : Type} [VersionStore σ] [VersionStore τ]

theorem runBatches_failed {table : Table} {size : Option BatchSize} {store : σ}
    {selector : RowSelector} {e : StoreError}
    (failed : (deleteBatch store table selector.restartGroup (size.map BatchSize.rows)).outcome =
      .error e) :
    runBatches table size store selector =
      { batches := []
        failure := some e
        store := (deleteBatch store table selector.restartGroup (size.map BatchSize.rows)).store } := by
  rw [runBatches]
  split
  next failed' =>
    cases failed'.symm.trans failed
    rfl
  next done => cases done.symm.trans failed

theorem runBatches_last {table : Table} {size : Option BatchSize} {store : σ}
    {selector : RowSelector} {deleted : Nat}
    (done : (deleteBatch store table selector.restartGroup (size.map BatchSize.rows)).outcome =
      .ok deleted)
    (few : ∀ n, size = some n → ¬ n.rows ≤ deleted) :
    runBatches table size store selector =
      { batches := [⟨deleted, (deleteBatch store table selector.restartGroup
          (size.map BatchSize.rows)).selector.marker⟩]
        failure := none
        store := (deleteBatch store table selector.restartGroup (size.map BatchSize.rows)).store } := by
  rw [runBatches]
  split
  next failed => cases failed.symm.trans done
  next done' =>
    cases done'.symm.trans done
    cases size with
    | none => rfl
    | some n => exact dif_neg (few n rfl)

theorem runBatches_full {table : Table} {n : BatchSize} {store : σ} {selector : RowSelector}
    {deleted : Nat}
    (done : (deleteBatch store table selector.restartGroup (some n.rows)).outcome = .ok deleted)
    (full : n.rows ≤ deleted) :
    runBatches table (some n) store selector =
      (runBatches table (some n)
        (deleteBatch store table selector.restartGroup (some n.rows)).store
        (deleteBatch store table selector.restartGroup (some n.rows)).selector).afterBatch
          ⟨deleted, (deleteBatch store table selector.restartGroup (some n.rows)).selector.marker⟩ := by
  rw [runBatches]
  split
  next failed => cases failed.symm.trans done
  next done' =>
    cases done'.symm.trans done
    exact dif_pos full

/-- Induction along the batches of a run: one that fails, the last one, and a full one. -/
@[elab_as_elim]
theorem runBatches_induct (table : Table) (size : Option BatchSize) {motive : σ → RowSelector → Prop}
    (failed : ∀ (store : σ) (selector : RowSelector) (e : StoreError),
      (deleteBatch store table selector.restartGroup (size.map BatchSize.rows)).outcome = .error e →
      runBatches table size store selector =
        { batches := []
          failure := some e
          store := (deleteBatch store table selector.restartGroup (size.map BatchSize.rows)).store } →
      motive store selector)
    (last : ∀ (store : σ) (selector : RowSelector) (deleted : Nat),
      (deleteBatch store table selector.restartGroup (size.map BatchSize.rows)).outcome =
        .ok deleted →
      (∀ n, size = some n → ¬ n.rows ≤ deleted) →
      runBatches table size store selector =
        { batches := [⟨deleted, (deleteBatch store table selector.restartGroup
            (size.map BatchSize.rows)).selector.marker⟩]
          failure := none
          store := (deleteBatch store table selector.restartGroup (size.map BatchSize.rows)).store } →
      motive store selector)
    (full : ∀ (store : σ) (selector : RowSelector) (n : BatchSize) (deleted : Nat), size = some n →
      (deleteBatch store table selector.restartGroup (some n.rows)).outcome = .ok deleted →
      n.rows ≤ deleted →
      runBatches table size store selector =
        (runBatches table size
          (deleteBatch store table selector.restartGroup (some n.rows)).store
          (deleteBatch store table selector.restartGroup (some n.rows)).selector).afterBatch
            ⟨deleted,
              (deleteBatch store table selector.restartGroup (some n.rows)).selector.marker⟩ →
      motive (deleteBatch store table selector.restartGroup (some n.rows)).store
        (deleteBatch store table selector.restartGroup (some n.rows)).selector →
      motive store selector)
    (store : σ) (selector : RowSelector) : motive store selector := by
  fun_induction runBatches table size store selector with
  | case1 size store selector batch e refused =>
      exact failed store selector e refused (runBatches_failed refused)
  | case2 store selector deleted batch done =>
      have few : ∀ n : BatchSize, none = some n → ¬ n.rows ≤ deleted := fun n limited => by cases limited
      exact last store selector deleted done few (runBatches_last done few)
  | case3 store selector deleted n enough batch done _ ih =>
      exact full store selector n deleted rfl done enough (runBatches_full done enough)
        (ih failed last full)
  | case4 store selector deleted n short batch done =>
      have few : ∀ m, some n = some m → ¬ m.rows ≤ deleted := fun m limited => by
        cases limited
        exact short
      exact last store selector deleted done few (runBatches_last done few)

theorem lt_of_few {size : Option BatchSize} {deleted : Nat}
    (few : ∀ n, size = some n → ¬ n.rows ≤ deleted) (limit : Nat)
    (limited : size.map BatchSize.rows = some limit) : deleted < limit := by
  obtain ⟨n, sized, rfl⟩ := Option.map_eq_some_iff.1 limited
  exact Nat.lt_of_not_le (few n sized)

theorem not_any_of_few {size : Option BatchSize} {deleted : Nat}
    (few : ∀ n, size = some n → ¬ n.rows ≤ deleted) :
    ¬ size.any (fun n => n.rows ≤ deleted) = true := by
  rw [Option.any_eq_true]
  rintro ⟨n, sized, full⟩
  exact few n sized (of_decide_eq_true full)

/-- Batches on two stores report the same and keep the stores related. -/
def Agree (table : Table) (related : σ → τ → Prop) : Prop :=
  ∀ a b, related a b → ∀ (selector : RowSelector) (limit : Option Nat),
    (∃ deleted, (deleteBatch a table selector limit).outcome = .ok deleted ∧
      (deleteBatch b table selector limit).outcome = .ok deleted) ∧
    (deleteBatch a table selector limit).selector = (deleteBatch b table selector limit).selector ∧
    related (deleteBatch a table selector limit).store (deleteBatch b table selector limit).store

theorem Agree.runBatches {table : Table} {related : σ → τ → Prop} (agree : Agree table related)
    (size : Option BatchSize) (a : σ) (b : τ) (selector : RowSelector) (start : related a b) :
    (runBatches table size a selector).failure = none ∧
      (runBatches table size b selector).failure = none ∧
      (runBatches table size a selector).batches = (runBatches table size b selector).batches ∧
      related (runBatches table size a selector).store (runBatches table size b selector).store := by
  induction a, selector using runBatches_induct (σ := σ) table size generalizing b with
  | failed a selector e refused =>
      obtain ⟨⟨deleted, done, -⟩, -⟩ := agree a b start selector.restartGroup (size.map BatchSize.rows)
      cases refused.symm.trans done
  | last a selector deleted done few run =>
      obtain ⟨⟨deleted', doneA, doneB⟩, same, still⟩ :=
        agree a b start selector.restartGroup (size.map BatchSize.rows)
      cases doneA.symm.trans done
      rw [run, runBatches_last doneB few]
      exact ⟨rfl, rfl, congrArg (fun s : RowSelector => [BatchRecord.mk deleted s.marker]) same, still⟩
  | full a selector n deleted limited done enough run ih =>
      subst limited
      obtain ⟨⟨deleted', doneA, doneB⟩, same, still⟩ :=
        agree a b start selector.restartGroup (some n.rows)
      cases doneA.symm.trans done
      rw [run, runBatches_full doneB enough, ← same]
      obtain ⟨endA, endB, batches, last⟩ := ih _ still
      exact ⟨endA, endB, congrArg (_ :: ·) batches, last⟩

/-! ## Runs part of the way

Between two batches of a run the store is what its first batches made of it. Every batch but the last
takes as many rows as it may, so what a full batch preserves holds wherever a run stands. Where a batch
that fails changes nothing, a run that fails ends there.
-/

variable {table : Table} {size : Option BatchSize} {store : σ} {selector : RowSelector}

/-- The store and the selector after so many batches. -/
def afterBatches (table : Table) (size : Option BatchSize) :
    Nat → σ → RowSelector → σ × RowSelector
  | 0, store, selector => (store, selector)
  | count + 1, store, selector =>
    let batch := deleteBatch store table selector.restartGroup (size.map BatchSize.rows)
    afterBatches table size count batch.store batch.selector

theorem batches_pos {deleted : Nat}
    (done : (deleteBatch store table selector.restartGroup (size.map BatchSize.rows)).outcome =
      .ok deleted) : 0 < (runBatches table size store selector).batches.length := by
  induction store, selector using runBatches_induct (σ := σ) table size with
  | failed store selector e refused => cases refused.symm.trans done
  | last store selector deleted' done' few run
  | full store selector n deleted' limited done' enough run =>
      rw [run]
      exact Nat.zero_lt_succ _

theorem exists_full_batch (more : 1 < (runBatches table size store selector).batches.length) :
    ∃ n deleted, size = some n ∧ n.rows ≤ deleted ∧
      (deleteBatch store table selector.restartGroup (some n.rows)).outcome = .ok deleted ∧
      runBatches table size store selector =
        (runBatches table size
          (deleteBatch store table selector.restartGroup (some n.rows)).store
          (deleteBatch store table selector.restartGroup (some n.rows)).selector).afterBatch
            ⟨deleted, (deleteBatch store table selector.restartGroup (some n.rows)).selector.marker⟩ := by
  induction store, selector using runBatches_induct (σ := σ) table size with
  | failed store selector e refused run =>
      rw [run] at more
      cases more
  | last store selector deleted done few run =>
      rw [run] at more
      exact absurd more (Nat.lt_irrefl 1)
  | full store selector n deleted limited done enough run =>
      exact ⟨n, deleted, limited, enough, done, run⟩

/-- What holds at the start, and what every full batch preserves, holds between any two batches. -/
theorem afterBatches_induction {motive : Nat → σ → RowSelector → Prop} (first : motive 0 store selector)
    (step : ∀ count store selector n deleted, size = some n → motive count store selector →
      n.rows ≤ deleted →
      (deleteBatch store table selector.restartGroup (some n.rows)).outcome = .ok deleted →
      motive (count + 1) (deleteBatch store table selector.restartGroup (some n.rows)).store
        (deleteBatch store table selector.restartGroup (some n.rows)).selector)
    {count : Nat} (between : count < (runBatches table size store selector).batches.length) :
    motive count (afterBatches table size count store selector).1
      (afterBatches table size count store selector).2 := by
  induction count generalizing store selector motive with
  | zero => exact first
  | succ count ih =>
      have more : 1 < (runBatches table size store selector).batches.length := by omega
      obtain ⟨n, deleted, rfl, full, done, run⟩ := exists_full_batch more
      rw [run] at between
      have next := step 0 store selector n deleted rfl first full done
      exact ih next (fun count => step (count + 1)) (Nat.lt_of_succ_lt_succ between)

/-- Each batch of a run deleted what its record says, from the store that the batches before it left. -/
theorem outcome_afterBatches {count : Nat}
    (within : count < (runBatches table size store selector).batches.length) :
    (deleteBatch (afterBatches table size count store selector).1 table
      (afterBatches table size count store selector).2.restartGroup
        (size.map BatchSize.rows)).outcome =
      .ok (runBatches table size store selector).batches[count].deleted := by
  induction store, selector using runBatches_induct (σ := σ) table size generalizing count with
  | failed store selector e refused run =>
      rw [run] at within
      cases within
  | last store selector deleted done few run =>
      simp only [run] at within ⊢
      obtain rfl : count = 0 := Nat.lt_one_iff.1 within
      exact done
  | full store selector n deleted limited done enough run ih =>
      subst limited
      simp only [run] at within ⊢
      cases count with
      | zero => exact done
      | succ count => exact ih (Nat.lt_of_succ_lt_succ within)

theorem marker_afterBatches {count : Nat}
    (within : count < (runBatches table size store selector).batches.length) :
    (runBatches table size store selector).batches[count].marker =
      (afterBatches table size (count + 1) store selector).2.marker := by
  induction store, selector using runBatches_induct (σ := σ) table size generalizing count with
  | failed store selector e refused run =>
      rw [run] at within
      cases within
  | last store selector deleted done few run =>
      simp only [run] at within ⊢
      obtain rfl : count = 0 := Nat.lt_one_iff.1 within
      rfl
  | full store selector n deleted limited done enough run ih =>
      subst limited
      simp only [run] at within ⊢
      cases count with
      | zero => rfl
      | succ count => exact ih (Nat.lt_of_succ_lt_succ within)

theorem afterBatches_succ (table : Table) (size : Option BatchSize) (count : Nat) (store : σ)
    (selector : RowSelector) :
    let reached := afterBatches table size count store selector
    let batch := deleteBatch reached.1 table reached.2.restartGroup (size.map BatchSize.rows)
    afterBatches table size (count + 1) store selector = (batch.store, batch.selector) := by
  induction count generalizing store selector with
  | zero => rfl
  | succ count ih => exact ih _ _

/-- A batch of the table that fails leaves its store, and one that succeeds counts the rows that it
    deletes. -/
structure AllOrNothing (σ : Type) [VersionStore σ] (table : Table) : Prop where
  fails : ∀ (s : σ) (selector : RowSelector) (limit : Option Nat) (e : StoreError),
    (deleteBatch s table selector limit).outcome = .error e →
      (deleteBatch s table selector limit).store = s
  counts : ∀ (s : σ) (selector : RowSelector) (limit : Option Nat) (deleted : Nat),
    (deleteBatch s table selector limit).outcome = .ok deleted →
      population (deleteBatch s table selector limit).store table + deleted = population s table

/-- A run that fails ends where the last of its batches left the store. -/
theorem AllOrNothing.runBatches_failure (sound : AllOrNothing σ table) {e : StoreError}
    (failed : (runBatches table size store selector).failure = some e) :
    let reached := afterBatches table size (runBatches table size store selector).batches.length
      store selector
    (runBatches table size store selector).store = reached.1 ∧
      (deleteBatch reached.1 table reached.2.restartGroup (size.map BatchSize.rows)).outcome =
        .error e := by
  induction store, selector using runBatches_induct (σ := σ) table size with
  | failed store selector e' refused run =>
      simp only [run] at failed ⊢
      cases failed
      exact ⟨sound.fails _ _ _ _ refused, refused⟩
  | last store selector deleted done few run =>
      rw [run] at failed
      cases failed
  | full store selector n deleted limited done enough run ih =>
      subst limited
      simp only [run] at failed ⊢
      exact ih failed

theorem AllOrNothing.total_committed (sound : AllOrNothing σ table) :
    total (runBatches table size store selector).committed +
        population (runBatches table size store selector).store table =
      population store table := by
  induction store, selector using runBatches_induct (σ := σ) table size with
  | failed store selector e refused run =>
      simp only [run, BatchRun.committed, List.map_nil, total_nil, Nat.zero_add]
      rw [sound.fails _ _ _ _ refused]
  | last store selector deleted done few run =>
      have counted := sound.counts _ _ _ _ done
      simp only [run, BatchRun.committed, List.map_cons, List.map_nil, total_cons, total_nil]
      omega
  | full store selector n deleted limited done enough run ih =>
      have counted := sound.counts _ _ _ _ done
      rw [run, BatchRun.committed_afterBatch, total_cons]
      simp only [BatchRun.afterBatch]
      omega

end HistoryTrim.VersionStore
