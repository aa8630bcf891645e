import HistoryTrim.Retention
import HistoryTrim.Store

/-! # Ordered trims in batches

A large table is trimmed by a run of bounded batches, each committed on its own. The run ends with
the first batch that is not full; one that fails ends it too, and those before it stay.
-/

namespace HistoryTrim

/-- How many rows a batch may delete. -/
structure BatchSize where
  rows : Nat
  rows_pos : 0 < rows
  deriving DecidableEq

/-- A batch size as it is configured: nothing and zero both mean one batch without a limit. -/
def BatchSize.ofOption? : Option Nat → Option BatchSize
  | none => none
  | some n => if h : 0 < n then some ⟨n, h⟩ else none

/-- A committed batch. -/
structure BatchRecord where
  deleted : Nat
  /-- Leading value at which the next batch starts. -/
  marker : Int64
  deriving Repr, DecidableEq

def total : List Nat → Nat
  | [] => 0
  | n :: ns => n + total ns

@[simp] theorem total_nil : total [] = 0 := rfl

@[simp] theorem total_cons (n : Nat) (ns : List Nat) : total (n :: ns) = n + total ns := rfl

@[simp] theorem total_append (ms ns : List Nat) : total (ms ++ ns) = total ms + total ns := by
  induction ms with
  | nil => simp
  | cons m ms ih => simp [ih, Nat.add_assoc]

theorem total_replicate (count n : Nat) : total (List.replicate count n) = count * n := by
  induction count with
  | zero => simp
  | succ count ih => rw [List.replicate_succ, total_cons, ih, Nat.succ_mul, Nat.add_comm]

theorem total_map_add {α : Type} (xs : List α) (f g : α → Nat) :
    total (xs.map fun x => f x + g x) = total (xs.map f) + total (xs.map g) := by
  induction xs with
  | nil => rfl
  | cons x xs ih =>
      simp only [List.map_cons, total_cons, ih]
      omega

theorem total_flatMap {α : Type} (xs : List α) (f : α → List Nat) :
    total (xs.flatMap f) = total (xs.map fun x => total (f x)) := by
  induction xs with
  | nil => rfl
  | cons x xs ih => rw [List.flatMap_cons, total_append, ih, List.map_cons, total_cons]

structure BatchRun (σ : Type) where
  /-- The committed batches in order. -/
  batches : List BatchRecord
  /-- Why the run ended early. -/
  failure : Option StoreError
  store : σ

namespace BatchRun

variable {σ : Type}

/-- The run that commits a batch and goes on with another run. -/
def afterBatch (b : BatchRecord) (run : BatchRun σ) : BatchRun σ :=
  { run with batches := b :: run.batches }

def committed (run : BatchRun σ) : List Nat := run.batches.map BatchRecord.deleted

def rowsDeleted (run : BatchRun σ) : Nat := total run.committed

@[simp] theorem committed_afterBatch (b : BatchRecord) (run : BatchRun σ) :
    (run.afterBatch b).committed = b.deleted :: run.committed := rfl

@[simp] theorem rowsDeleted_afterBatch (b : BatchRecord) (run : BatchRun σ) :
    (run.afterBatch b).rowsDeleted = b.deleted + run.rowsDeleted := rfl

end BatchRun

namespace VersionStore

variable {σ : Type} [VersionStore σ]

/-- Run batches from a store and a selector. Every batch starts a group anew, since rows of the
    group it resumes may be gone. -/
def runBatches (table : Table) (size : Option BatchSize) (store : σ) (selector : RowSelector) :
    BatchRun σ :=
  let batch := deleteBatch store table selector.restartGroup (size.map BatchSize.rows)
  match _h : batch.outcome with
  | .error e => { batches := [], failure := some e, store := batch.store }
  | .ok deleted =>
    let record : BatchRecord := { deleted, marker := batch.selector.marker }
    match size with
    | none => { batches := [record], failure := none, store := batch.store }
    | some n =>
      if _hfull : n.rows ≤ deleted then
        (runBatches table (some n) batch.store batch.selector).afterBatch record
      else { batches := [record], failure := none, store := batch.store }
termination_by population store table
decreasing_by
  have hpos := n.rows_pos
  have hlaw := population_deleteBatch store table selector.restartGroup _ _ _h
  omega

def trimOrdered (store : σ) (table : Table) (size : Option BatchSize) (rule : RetentionRule) :
    BatchRun σ :=
  runBatches table size store (RowSelector.start rule)

end VersionStore

namespace Metrics

/-- Count committed batches, given the rows that each deleted. -/
def countCommitted (m : Metrics) (rows : List Nat) : Metrics := rows.foldl countBatch m

theorem grown_trans {c c' c'' : UInt64} {m n : Nat} (first : c' = c + UInt64.ofNat m)
    (second : c'' = c' + UInt64.ofNat n) : c'' = c + UInt64.ofNat (m + n) := by
  rw [second, first, UInt64.ofNat_add, UInt64.add_assoc]

theorem countCommitted_eq (m : Metrics) (rows : List Nat) :
    m.countCommitted rows =
      { m with
        batches := m.batches + UInt64.ofNat rows.length
        rowsDeleted := m.rowsDeleted + UInt64.ofNat (total rows) } := by
  induction rows generalizing m with
  | nil => simp [countCommitted]
  | cons n ns ih =>
      have rest := ih (m.countBatch n)
      rw [countCommitted] at rest
      rw [countCommitted, List.foldl_cons, rest]
      have batches : m.batches + 1 + UInt64.ofNat ns.length =
          m.batches + UInt64.ofNat (ns.length + 1) := by
        rw [Nat.add_comm]
        exact grown_trans rfl rfl
      have rows : m.rowsDeleted + UInt64.ofNat n + UInt64.ofNat (total ns) =
          m.rowsDeleted + UInt64.ofNat (n + total ns) := grown_trans rfl rfl
      simp only [countBatch, batches, rows, List.length_cons, total_cons]

end Metrics

end HistoryTrim
