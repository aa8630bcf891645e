import HistoryTrim.Proofs.Runs
import HistoryTrim.Proofs.Sessions
import HistoryTrim.Store.Memory

/-! # Watched stores

A store in memory can be watched while a trimmer uses it: besides doing what it does anyway, it counts
the batches and the unordered trims that succeeded. Nothing that a trimmer answers, or leaves in the
tables, depends on that. The count grows by the committed batches of the outcomes.
-/

namespace HistoryTrim

/-- A store in memory, and how many of its calls that delete succeeded. -/
structure Watched where
  store : MemoryStore
  succeeded : Nat

namespace Watched

def deleteBatch (w : Watched) (t : Table) (selector : RowSelector) (limit : Option Nat) :
    Batch Watched :=
  let batch := w.store.deleteBatch t selector limit
  { outcome := batch.outcome
    selector := batch.selector
    store := ⟨batch.store, w.succeeded + if batch.outcome.isOk then 1 else 0⟩ }

def trimUnordered (w : Watched) (t : Table) (rule : RetentionRule) :
    Except StoreError Nat × Watched :=
  let (outcome, store) := w.store.trimUnordered t rule
  (outcome, ⟨store, w.succeeded + if outcome.isOk then 1 else 0⟩)

instance : VersionStore Watched where
  catalog w := w.store.catalog
  deleteBatch := deleteBatch
  trimUnordered := trimUnordered
  population w := w.store.population
  population_deleteBatch w := w.store.population_deleteBatch

open VersionStore

section Batches

variable {s : MemoryStore} {n : Nat} {t : Table} {selector : RowSelector} {limit : Option Nat}

theorem deleteBatch_failed {e : StoreError}
    (failed : (VersionStore.deleteBatch s t selector limit).outcome = .error e) :
    VersionStore.deleteBatch (⟨s, n⟩ : Watched) t selector limit =
      ⟨.error e, (VersionStore.deleteBatch s t selector limit).selector,
        ⟨(VersionStore.deleteBatch s t selector limit).store, n⟩⟩ := by
  change (s.deleteBatch t selector limit).outcome = _ at failed
  simp only [VersionStore.deleteBatch, deleteBatch, failed]
  rfl

theorem deleteBatch_done {deleted : Nat}
    (done : (VersionStore.deleteBatch s t selector limit).outcome = .ok deleted) :
    VersionStore.deleteBatch (⟨s, n⟩ : Watched) t selector limit =
      ⟨.ok deleted, (VersionStore.deleteBatch s t selector limit).selector,
        ⟨(VersionStore.deleteBatch s t selector limit).store, n + 1⟩⟩ := by
  change (s.deleteBatch t selector limit).outcome = _ at done
  simp only [VersionStore.deleteBatch, deleteBatch, done]
  rfl

theorem runBatches_last_watched {size : Option BatchSize} {deleted : Nat}
    (done : (VersionStore.deleteBatch s t selector.restartGroup (size.map BatchSize.rows)).outcome =
      .ok deleted)
    (few : ∀ m, size = some m → ¬ m.rows ≤ deleted) :
    let batch := VersionStore.deleteBatch s t selector.restartGroup (size.map BatchSize.rows)
    runBatches t size (⟨s, n⟩ : Watched) selector =
      ⟨[⟨deleted, batch.selector.marker⟩], none, ⟨batch.store, n + 1⟩⟩ := by
  have watched := deleteBatch_done (n := n) done
  have done' := congrArg Batch.outcome watched
  rw [runBatches_last done' few, watched]

end Batches

/-- A run of batches is the same when it is watched, and every committed batch is counted. -/
theorem runBatches_watched (size : Option BatchSize) (s : MemoryStore) (t : Table)
    (selector : RowSelector) (n : Nat) :
    let run := runBatches t size s selector
    runBatches t size (⟨s, n⟩ : Watched) selector =
      ⟨run.batches, run.failure, ⟨run.store, n + run.batches.length⟩⟩ := by
  intro run
  induction s, selector using runBatches_induct (σ := MemoryStore) t size generalizing n with
  | failed s selector e refused alone =>
      have watched := deleteBatch_failed (n := n) refused
      rw [runBatches_failed (congrArg Batch.outcome watched), watched]
      simp only [run, alone, List.length_nil, Nat.add_zero]
  | last s selector deleted done few alone =>
      simp only [run, alone]
      exact runBatches_last_watched done few
  | full s selector m deleted sized done enough alone ih =>
      subst sized
      have watched := deleteBatch_done (n := n) done
      rw [runBatches_full (congrArg Batch.outcome watched) enough, watched, ih (n + 1)]
      simp only [run, alone, BatchRun.afterBatch, List.length_cons, Nat.add_assoc, Nat.add_comm 1]

theorem trimUnordered_watched (s : MemoryStore) (t : Table) (rule : RetentionRule) (n : Nat) :
    let done := s.trimUnordered t rule
    VersionStore.trimUnordered (⟨s, n⟩ : Watched) t rule =
      (done.1, ⟨done.2, n + (Work.fallback done.1).committed.length⟩) := by
  simp only [VersionStore.trimUnordered, trimUnordered]
  cases (s.trimUnordered t rule).1 <;> rfl

end Watched

namespace Trimmer

variable {t : Trimmer} {s : MemoryStore} {e : Entry} {trimHeight : Height}

theorem work_watched (t : Trimmer) (s : MemoryStore) (e : Entry) (trimHeight : Height) (n : Nat) :
    let done := t.work s e trimHeight
    t.work (⟨s, n⟩ : Watched) e trimHeight =
      (done.1, ⟨done.2, n + done.1.committed.length⟩) := by
  unfold work
  cases e.order.path with
  | ordered =>
      have watched := Watched.runBatches_watched t.batchSize s e.table
        (.start ⟨trimHeight, t.retained⟩) n
      simp only [VersionStore.trimOrdered, watched, Work.committed, List.length_map]
  | fallback => simp only [Watched.trimUnordered_watched]; rfl

theorem opportunity_watched (t : Trimmer) (s : MemoryStore) (e : Entry) (trimHeight : Height)
    (n : Nat) :
    let done := t.opportunity s e trimHeight
    t.opportunity (⟨s, n⟩ : Watched) e trimHeight =
      (done.1, done.2.1, ⟨done.2.2, n + done.1.committed.length⟩) := by
  unfold opportunity
  rw [work_watched]
  split <;> rfl

theorem runEntries_watched (es : List Entry) (t : Trimmer) (s : MemoryStore) (n : Nat) :
    let done := runEntries trimHeight es t s
    runEntries trimHeight es t (⟨s, n⟩ : Watched) =
      (done.1, done.2.1, ⟨done.2.2, n + total (done.1.map fun o => o.committed.length)⟩) := by
  induction es generalizing t s n with
  | nil => rfl
  | cons e es ih =>
      simp only [runEntries_cons, opportunity_watched, ih, List.map_cons, total_cons, Nat.add_assoc]

theorem run_watched (t : Trimmer) (s : MemoryStore) (trimHeight : Height) (n : Nat) :
    let done := t.run s trimHeight
    t.run (⟨s, n⟩ : Watched) trimHeight =
      (done.1, done.2.1,
        ⟨done.2.2, n + total (done.1.outcomes.map fun o => o.committed.length)⟩) := by
  simp only [run, runEntries_watched]

end Trimmer

/-- The same call for the store that is watched. -/
def Call.watched : Call MemoryStore → Call Watched
  | .register table => .register table
  | .trim current => .trim current
  | .trimFrom source => .trimFrom source
  | .trimTable name trimHeight => .trimTable name trimHeight
  | .change f => .change fun w => { w with store := f w.store }

namespace Session

theorem answer_watched (t : Trimmer) (s : MemoryStore) (call : Call MemoryStore) (n : Nat) :
    let done := (⟨t, s⟩ : Session MemoryStore).answer call
    (⟨t, ⟨s, n⟩⟩ : Session Watched).answer call.watched =
      (done.1, ⟨done.2.trimmer,
        ⟨done.2.store, n + total (done.1.outcomes.map fun o => o.committed.length)⟩⟩) := by
  cases call with
  | register table =>
      have catalog : VersionStore.catalog (⟨s, n⟩ : Watched) = VersionStore.catalog s := rfl
      simp only [answer, Call.watched, catalog]
      split <;> rfl
  | trim current =>
      simp only [answer, Call.watched, Trimmer.trim, Trimmer.run_watched, Answer.outcomes]
  | trimFrom source =>
      simp only [answer, Call.watched, Trimmer.trimFrom]
      cases source.current with
      | error e => rfl
      | ok current => simp only [Trimmer.run_watched, Answer.outcomes]
  | trimTable name trimHeight =>
      simp only [answer, Call.watched, Trimmer.trimTable]
      cases t.find? name with
      | none => rfl
      | some e =>
          simp only [Trimmer.attempt, Trimmer.work_watched, Answer.outcomes]
          rfl
  | change f => rfl

theorem run_watched (calls : List (Call MemoryStore)) (t : Trimmer) (s : MemoryStore) (n : Nat) :
    let done := (⟨t, s⟩ : Session MemoryStore).run calls
    let watched := (⟨t, ⟨s, n⟩⟩ : Session Watched).run (calls.map Call.watched)
    watched.1.map Exchange.answer = done.1.map Exchange.answer ∧
      watched.2 = ⟨done.2.trimmer, ⟨done.2.store, n + total (done.1.map fun x =>
        total (x.answer.outcomes.map fun o => o.committed.length))⟩⟩ := by
  induction calls generalizing t s n with
  | nil => exact ⟨rfl, rfl⟩
  | cons call calls ih =>
      simp only [List.map_cons, run, answer_watched, total_cons, ← Nat.add_assoc]
      obtain ⟨answers, last⟩ := ih _ _ _
      exact ⟨congrArg _ answers, last⟩

end Session

end HistoryTrim
