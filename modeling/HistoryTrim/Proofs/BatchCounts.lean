import HistoryTrim.Proofs.Interruption
import HistoryTrim.Proofs.Resumption

/-! # How many batches a run takes

A limit does not change what a batch would select, it only ends the batch after so many rows. So all
batches of a run are full but the last, and the number of rows tells the number of batches. Repeated
without end, batches come to one that is not full, since each full one makes the table smaller.
-/

namespace HistoryTrim

namespace History

variable {h rest : History}

/-- The versions that one history has and another one does not, in scan order. -/
def removed (h rest : History) : List Version := h.rows.filter fun v => decide (v ∉ rest.rows)

theorem removed_afterSweep (h : History) (s : RowSelector) (limit : Option Nat) :
    h.removed (h.afterSweep s limit) = (h.sweep s limit).doomed := by
  have sub : (h.sweep s limit).doomed.Sublist h.rows :=
    (RowSelector.doomed_sublist ..).trans (List.dropWhile_sublist _)
  have parts := h.afterSweep_perm s limit
  have distinct := List.nodup_append.1 (parts.nodup_iff.2 h.nodup)
  have same : (h.filter fun v => decide (v ∉ (h.afterSweep s limit).rows)) = h.restrict _ sub := by
    refine ext_mem fun v => ?_
    rw [mem_def, mem_def, rows_filter, rows_restrict, List.mem_filter, decide_eq_true_iff,
      ← parts.mem_iff, List.mem_append]
    constructor
    · rintro ⟨doomed | stays, gone⟩
      · exact doomed
      · exact absurd stays gone
    · intro doomed
      exact ⟨.inl doomed, fun stays => distinct.2.2 v doomed v stays rfl⟩
  exact congrArg rows same

/-- Under a limit a scan takes the first of the rows that it would take. -/
theorem doomed_limited (h : History) (s : RowSelector) {n : Nat} (positive : 0 < n) :
    (h.sweep s (some n)).doomed = (h.sweep s none).doomed.take n := by
  have limit : max n 1 = n := Nat.max_eq_left positive
  rw [sweep, sweep, RowSelector.doomed_eq_atMost, RowSelector.doomed_eq_atMost,
    RowSelector.atMost, RowSelector.atMost, limit]

end History

theorem VersionStore.outcome_of_committed {σ : Type} [VersionStore σ] {table : Table}
    {size : Option BatchSize} {store : σ} {selector : RowSelector} {count deleted : Nat}
    (taken : (runBatches table size store selector).committed[count]? = some deleted) :
    let reached := afterBatches table size count store selector
    (deleteBatch reached.1 table reached.2.restartGroup (size.map BatchSize.rows)).outcome =
      .ok deleted := by
  rw [BatchRun.committed, List.getElem?_map] at taken
  obtain ⟨record, met, rfl⟩ := Option.map_eq_some_iff.1 taken
  obtain ⟨within, rfl⟩ := List.getElem?_eq_some_iff.1 met
  exact outcome_afterBatches within

namespace MemoryStore

open VersionStore

variable {s : MemoryStore} {t : Table} {size : Option BatchSize} {selector : RowSelector}
  {h : History}

theorem deleteBatch_limited (stored : s.history? t.name = some h) (untroubled : s.Untroubled)
    (selector : RowSelector) {n : Nat} (positive : 0 < n) :
    ∃ whole part : History,
      (s.deleteBatch t selector none).store.history? t.name = some whole ∧
      (s.deleteBatch t selector (some n)).store.history? t.name = some part ∧
      h.removed part = (h.removed whole).take n ∧ (∀ v ∈ part, v ∈ h) ∧
      (s.deleteBatch t selector (some n)).outcome = .ok (min n (h.removed whole).length) := by
  rcases deleteBatch_cases stored selector none with
    ⟨-, -, -, troubled⟩ | ⟨-, -, whole, -⟩
  · exact absurd untroubled troubled
  rcases deleteBatch_cases stored selector (some n) with
    ⟨-, -, -, troubled⟩ | ⟨done, -, part, -⟩
  · exact absurd untroubled troubled
  refine ⟨_, _, whole, part, ?_, fun v hv => (h.sublist_sweep selector (some n)).subset hv, ?_⟩
  · rw [History.removed_afterSweep, History.removed_afterSweep, History.doomed_limited h _ positive]
  · rw [done, History.removed_afterSweep, History.doomed_limited h _ positive, List.length_take]

theorem length_runBatches_unlimited (succeeded : (runBatches t none s selector).failure = none) :
    (runBatches t none s selector).batches.length = 1 := by
  cases outcome : (VersionStore.deleteBatch s t selector.restartGroup none).outcome with
  | error e =>
      rw [runBatches_failed outcome] at succeeded
      cases succeeded
  | ok deleted =>
      rw [runBatches_last outcome fun n limited => by cases limited]
      rfl

/-- All batches of a run that succeeds are full, but the last is not. -/
theorem committed_runBatches (stored : s.history? t.name = some h)
    (succeeded : (runBatches t size s selector).failure = none) {n : BatchSize}
    (limited : size = some n) :
    ∃ full last, last < n.rows ∧
      (runBatches t size s selector).committed = List.replicate full n.rows ++ [last] := by
  induction s, selector using runBatches_induct (σ := MemoryStore) t size generalizing h with
  | failed s selector e refused run =>
      rw [run] at succeeded
      cases succeeded
  | last s selector deleted done few run =>
      rw [run]
      exact ⟨0, deleted, Nat.lt_of_not_le (few n limited), rfl⟩
  | full s selector m deleted sized done enough run ih =>
      cases limited.symm.trans sized
      rw [run] at succeeded ⊢
      obtain ⟨h', left, -⟩ := deleteBatch_done stored done
      obtain ⟨count, last, short, rest⟩ := ih left succeeded
      have first : deleted = n.rows := deleteBatch_full stored enough done
      refine ⟨count + 1, last, short, ?_⟩
      rw [BatchRun.committed_afterBatch, List.replicate_succ, List.cons_append, ← rest, ← first]

theorem committed_eq_replicate (stored : s.history? t.name = some h) {n : BatchSize}
    (succeeded : (runBatches t (some n) s selector).failure = none) :
    let run := runBatches t (some n) s selector
    run.batches.length = run.rowsDeleted / n.rows + 1 ∧
      run.committed = List.replicate (run.rowsDeleted / n.rows) n.rows ++
        [run.rowsDeleted % n.rows] := by
  intro run
  obtain ⟨full, last, short, committed⟩ := committed_runBatches stored succeeded rfl
  have rows : run.rowsDeleted = n.rows * full + last := by
    rw [BatchRun.rowsDeleted, committed, total_append, total_replicate, total_cons, total_nil,
      Nat.mul_comm, Nat.add_zero]
  have count : run.rowsDeleted / n.rows = full := by
    rw [rows, Nat.mul_add_div n.rows_pos, Nat.div_eq_of_lt short, Nat.add_zero]
  have remainder : run.rowsDeleted % n.rows = last := by
    rw [rows, Nat.mul_add_mod, Nat.mod_eq_of_lt short]
  have batches : run.batches.length = run.committed.length := (List.length_map _).symm
  rw [count, remainder]
  refine ⟨?_, committed⟩
  rw [batches, committed, List.length_append, List.length_replicate, List.length_singleton]

/-- A run on a table ends: repeated without end, its batches take as many rows as they may, up to one
    that takes fewer, and that is the last of the run. So there is one batch more than the rows fill,
    and a single one without a limit. A batch under a limit takes the first of the rows, in scan order,
    that a batch without one takes from the same state of the selector. -/
theorem trimOrdered_fills_batches (rule : RetentionRule) (stored : s.history? t.name = some h)
    (untroubled : s.Untroubled) :
    (∀ size : Option Nat,
      let run := trimOrdered s t (BatchSize.ofOption? size) rule
      run.failure = none ∧
        (∃ rest, run.store.history? t.name = some rest ∧ rest.size + run.rowsDeleted = h.size) ∧
        (size = none ∨ size = some 0 → run.batches.length = 1)) ∧
    (∀ n : BatchSize,
      let run := trimOrdered s t (some n) rule
      let batch (count : Nat) :=
        let reached := afterBatches t (some n) count s (.start rule)
        reached.1.deleteBatch t reached.2.restartGroup (some n.rows)
      let full := run.rowsDeleted / n.rows
      (∀ count < full, (batch count).outcome = .ok n.rows) ∧
        (∃ last < n.rows, (batch full).outcome = .ok last ∧
          run.committed = List.replicate full n.rows ++ [last]) ∧
        run.store.history? t.name = (batch full).store.history? t.name ∧
        run.batches.length = full + 1) ∧
    ∀ (selector : RowSelector) (n : Nat), 0 < n →
      ∃ whole part : History,
        (s.deleteBatch t selector none).store.history? t.name = some whole ∧
        (s.deleteBatch t selector (some n)).store.history? t.name = some part ∧
        h.removed part = (h.removed whole).take n ∧ (∀ v ∈ part, v ∈ h) ∧
        (s.deleteBatch t selector (some n)).outcome = .ok (min n (h.removed whole).length) := by
  refine ⟨fun size => ?_, fun n => ?_,
    fun selector n => deleteBatch_limited stored untroubled selector⟩
  · intro run
    have succeeded : run.failure = none := runBatches_succeeds stored untroubled
    refine ⟨succeeded, runBatches_size stored, fun unlimited => ?_⟩
    have single : BatchSize.ofOption? size = none := by rcases unlimited with rfl | rfl <;> rfl
    simp only [run, single] at succeeded ⊢
    exact length_runBatches_unlimited succeeded
  · intro run batch full
    have succeeded : run.failure = none := runBatches_succeeds stored untroubled
    obtain ⟨batches, committed⟩ : run.batches.length = full + 1 ∧
        run.committed = List.replicate full n.rows ++ [run.rowsDeleted % n.rows] :=
      committed_eq_replicate stored succeeded
    have outcome {count deleted : Nat}
        (taken : (List.replicate full n.rows ++ [run.rowsDeleted % n.rows])[count]? = some deleted) :
        (batch count).outcome = .ok deleted :=
      outcome_of_committed (committed ▸ taken)
    refine ⟨fun count before => outcome ?_,
      ⟨_, Nat.mod_lt _ n.rows_pos, outcome ?_, committed⟩, ?_, batches⟩
    · rw [List.getElem?_append_left (by rwa [List.length_replicate]),
        List.getElem?_replicate_of_lt before]
    · rw [List.getElem?_append_right (by rw [List.length_replicate]), List.length_replicate,
        Nat.sub_self]
      rfl
    · have last : run.store.history? t.name =
          (afterBatches t (some n) run.batches.length s (.start rule)).1.history? t.name :=
        history?_runBatches stored
      rw [last, batches, afterBatches_succ]
      rfl

/-- The three rows that go fill one batch of three, so a second one finds nothing. A selector that takes
    the first account to be gone would take five rows, and under a limit takes the first two of them. -/
theorem trimOrdered_fills_batches_accounts :
    let run := trimOrdered accountStore accounts (some ⟨3, by decide⟩) ⟨6, some (-1)⟩
    let within : RowSelector := ⟨⟨6, none⟩, some ⟨1, []⟩, true, false, 1⟩
    accountStore.history? accounts.name = some accountHistory ∧ accountStore.Untroubled ∧
      run.committed = [3, 0] ∧ run.batches.length = 2 ∧
      (∃ rest, run.store.history? accounts.name = some rest ∧ rest.size = 4) ∧
      ∃ whole part : History,
        (accountStore.deleteBatch accounts within none).store.history? accounts.name = some whole ∧
        (accountStore.deleteBatch accounts within (some 2)).store.history? accounts.name = some part ∧
        (accountHistory.removed whole).length = 5 ∧
        accountHistory.removed part = [⟨⟨1, []⟩, 4, false⟩, ⟨⟨1, []⟩, 1, false⟩] := by
  intro run within
  have stored : accountStore.history? accounts.name = some accountHistory := rfl
  obtain ⟨ends, counts, limited⟩ :=
    trimOrdered_fills_batches ⟨6, some (-1)⟩ stored untroubled_accountStore
  obtain ⟨-, ⟨rest, left, size⟩, -⟩ := ends (some 3)
  obtain ⟨fills, ⟨last, short, ending, committed⟩, -, batches⟩ := counts ⟨3, by decide⟩
  obtain ⟨whole, part, wholeLeft, partLeft, taken, -⟩ := limited within 2 (by decide)
  let batch (count : Nat) : Except StoreError Nat :=
    let reached := afterBatches accounts (some ⟨3, by decide⟩) count accountStore
      (.start ⟨6, some (-1)⟩)
    (reached.1.deleteBatch accounts reached.2.restartGroup (some 3)).outcome
  have first : batch 0 = .ok 3 := rfl
  have second : batch 1 = .ok 0 := rfl
  have one : run.rowsDeleted / 3 = 1 := by
    rcases Nat.lt_trichotomy (run.rowsDeleted / 3) 1 with fewer | one | more
    · have zero : run.rowsDeleted / 3 = 0 := by omega
      have ended : batch (run.rowsDeleted / 3) = .ok last := ending
      rw [zero, first] at ended
      cases ended
      exact absurd short (Nat.lt_irrefl 3)
    · exact one
    · have filled : batch 1 = .ok 3 := fills 1 more
      cases second.symm.trans filled
  have ended : batch (run.rowsDeleted / 3) = .ok last := ending
  rw [one, second] at ended
  cases ended
  have taken' : run.committed = [3, 0] := committed.trans (congrArg (List.replicate · 3 ++ [0]) one)
  have rows : run.rowsDeleted = 3 := congrArg total taken'
  cases wholeLeft
  cases partLeft
  refine ⟨stored, untroubled_accountStore, taken', batches.trans (congrArg (· + 1) one),
    ⟨rest, left, ?_⟩, ?_⟩
  · change rest.size + run.rowsDeleted = 7 at size
    omega
  · refine ⟨_, _, rfl, rfl, by decide, taken.trans (by decide)⟩

end MemoryStore

end HistoryTrim
