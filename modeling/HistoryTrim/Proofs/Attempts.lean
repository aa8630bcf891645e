import HistoryTrim.Proofs.OrderedTrim
import HistoryTrim.Trimmer

/-! # What an attempt does to a store

An attempt is about one table. On either path, and whether it comes to its end or fails half way, it
takes as many versions as its committed batches report, and none that its rule may not take: of those
in reach a latest one only where a newer one of its key lies below the trim height. All other tables
stay as they are, and a table that is not there is not made up.
-/

namespace HistoryTrim

namespace RetentionRule

variable {rule : RetentionRule} {h h' h'' : History}

/-- A latest version that is not kept stands behind a newer one of its key. -/
theorem exists_newer_of_not_keeps {v : Version} (hv : v ∈ h) (latest : v.latest = true)
    (drops : ¬ rule.Keeps h v) :
    ∃ w ∈ h, w.key = v.key ∧ v.height < w.height ∧ w.height < rule.trimHeight := by
  have reach : rule.Reaches v :=
    Classical.byContradiction fun beyond => drops (keeps_of_not_reaches beyond)
  obtain ⟨top, newest, topKey⟩ := History.exists_newest hv
  by_cases lives : rule.Lives h v.key
  · have notBoundary : ¬ ∀ w ∈ h, w.key = v.key → rule.Reaches w → w.height ≤ v.height :=
      fun greatest => drops (.inr (.inr ⟨lives, reach, greatest⟩))
    simp only [Classical.not_forall] at notBoundary
    obtain ⟨w, hw, key, wReach, newer⟩ := notBoundary
    exact ⟨w, hw, key, Int64.not_le.1 newer, wReach.1⟩
  · rw [← topKey, lives_iff_newest rule newest, Bool.not_eq_false, outlives_iff] at lives
    obtain ⟨below, hidden⟩ := lives
    refine ⟨top, newest.1, topKey, Int64.not_le.1 fun upTo => ?_, below⟩
    have height := Int64.le_antisymm upTo (newest.2 v hv topKey.symm)
    rw [History.eq_of_same_place newest.1 hv topKey height, latest] at hidden
    cases hidden

/-- What trims under a rule may leave of a history, however far they have come. -/
structure Leaves (rule : RetentionRule) (h h' : History) : Prop where
  sub : ∀ v ∈ h', v ∈ h
  beyond : ∀ v ∈ h, ¬ rule.Reaches v → v ∈ h'
  latest : ∀ v ∈ h, v.latest = true → v ∈ h' ∨
    ∃ w ∈ h, w.key = v.key ∧ v.height < w.height ∧ w.height < rule.trimHeight

namespace Leaves

theorem refl (rule : RetentionRule) (h : History) : rule.Leaves h h where
  sub _ hv := hv
  beyond _ hv _ := hv
  latest _ hv _ := .inl hv

theorem trans (first : rule.Leaves h h') (second : rule.Leaves h' h'') : rule.Leaves h h'' where
  sub v hv := first.sub v (second.sub v hv)
  beyond v hv out := second.beyond v (first.beyond v hv out) out
  latest v hv latest := by
    rcases first.latest v hv latest with stays | newer
    · rcases second.latest v stays latest with still | ⟨w, hw, newer⟩
      · exact .inl still
      · exact .inr ⟨w, first.sub w hw, newer⟩
    · exact .inr newer

theorem of_gone (sub : ∀ v ∈ h', v ∈ h) (gone : ∀ v ∈ h, v ∉ h' → ¬ rule.Keeps h v) :
    rule.Leaves h h' where
  sub := sub
  beyond v hv out := Classical.byContradiction fun taken =>
    gone v hv taken (keeps_of_not_reaches out)
  latest v hv latest := by
    by_cases stays : v ∈ h'
    · exact .inl stays
    · exact .inr (exists_newer_of_not_keeps hv latest (gone v hv stays))

end Leaves

end RetentionRule

namespace MemoryStore

/-- Steps under a rule on the table of a name took so many versions. -/
structure Takes (rule : RetentionRule) (name : String) (s s' : MemoryStore) (rows : Nat) :
    Prop where
  others : ∀ other, other ≠ name → s'.tables.get? other = s.tables.get? other
  missing : s.history? name = none → s'.history? name = none ∧ rows = 0
  here : ∀ h, s.history? name = some h →
    ∃ h', s'.history? name = some h' ∧ rule.Leaves h h' ∧ h'.size + rows = h.size
  quiet : s.Untroubled → s'.Untroubled

namespace Takes

variable {rule : RetentionRule} {name : String} {s s' s'' : MemoryStore} {rows rows' : Nat}

theorem trans (first : Takes rule name s s' rows) (second : Takes rule name s' s'' rows') :
    Takes rule name s s'' (rows + rows') where
  others other differ := (second.others other differ).trans (first.others other differ)
  missing none := by
    obtain ⟨none', nothing⟩ := first.missing none
    obtain ⟨none'', nothing'⟩ := second.missing none'
    exact ⟨none'', by omega⟩
  here h stored := by
    obtain ⟨h', left, leaves, size⟩ := first.here h stored
    obtain ⟨h'', left', leaves', size'⟩ := second.here h' left
    exact ⟨h'', left', leaves.trans leaves', by omega⟩
  quiet untroubled := second.quiet (first.quiet untroubled)

theorem nothing (tables : s'.tables = s.tables) (quiet : s.Untroubled → s'.Untroubled) :
    Takes rule name s s' 0 where
  others other _ := by rw [tables]
  missing none := by
    unfold history? at none ⊢
    exact ⟨tables ▸ none, rfl⟩
  here h stored := by
    unfold history? at stored ⊢
    exact ⟨h, tables ▸ stored, .refl rule h, rfl⟩
  quiet := quiet

theorem withHistory {table : MemoryTable} {h : History} (found : s.tables.get? name = some table)
    (leaves : rule.Leaves table.history h) (size : h.size + rows = table.history.size)
    (quiet : s.Untroubled → s'.Untroubled)
    (left : s'.tables = s.tables.put name { table with history := h }) :
    Takes rule name s s' rows where
  others other differ := by rw [left, Dictionary.get?_put, if_neg differ]
  missing none := by
    rw [history?, found] at none
    cases none
  here h' stored := by
    rw [history?, found] at stored
    cases stored
    refine ⟨h, ?_, leaves, size⟩
    rw [history?, left, Dictionary.get?_put, if_pos rfl]
    rfl
  quiet := quiet

end Takes

open VersionStore

variable {s : MemoryStore} {t : Table}

theorem deleteBatch_takes (s : MemoryStore) (t : Table) (selector : RowSelector)
    (limit : Option Nat) :
    Takes selector.rule t.name s (VersionStore.deleteBatch s t selector.restartGroup limit).store
      ((VersionStore.deleteBatch s t selector.restartGroup limit).outcome.toOption.getD 0) := by
  have quiet (untroubled : s.Untroubled) :=
    untroubled_deleteBatch untroubled t selector.restartGroup limit
  change Takes _ _ s (s.deleteBatch t selector.restartGroup limit).store
    ((s.deleteBatch t selector.restartGroup limit).outcome.toOption.getD 0)
  cases s.batch_ends t selector.restartGroup limit with
  | refused e _ ends =>
      rw [ends] at quiet ⊢
      exact .nothing rfl quiet
  | done table found _ ends =>
      have batched := table.history.batched selector limit
      rw [ends] at quiet ⊢
      exact .withHistory found (.of_gone batched.sub batched.gone) batched.size quiet rfl

/-- A run takes what its batches report, the one that fails included. -/
theorem runBatches_takes (size : Option BatchSize) (s : MemoryStore) (t : Table)
    (selector : RowSelector) :
    Takes selector.rule t.name s (runBatches t size s selector).store
      (runBatches t size s selector).rowsDeleted := by
  induction s, selector using runBatches_induct (σ := MemoryStore) t size with
  | failed s selector e refused run =>
      have step := deleteBatch_takes s t selector (size.map BatchSize.rows)
      rw [refused] at step
      rw [run]
      exact step
  | last s selector deleted done few run =>
      have step := deleteBatch_takes s t selector (size.map BatchSize.rows)
      rw [done] at step
      rw [run]
      exact step
  | full s selector n deleted sized done enough run ih =>
      have step := deleteBatch_takes s t selector (some n.rows)
      rw [done] at step
      rw [rule_deleteBatch] at ih
      rw [run, BatchRun.rowsDeleted_afterBatch]
      exact step.trans ih

theorem trimUnordered_takes (s : MemoryStore) (t : Table) (rule : RetentionRule) :
    Takes rule t.name s (s.trimUnordered t rule).2 ((s.trimUnordered t rule).1.toOption.getD 0) := by
  cases found : s.tables.get? t.name with
  | none =>
      simp only [trimUnordered, found]
      exact .nothing rfl id
  | some table =>
      rw [trimUnordered_found found]
      have fewer : (table.history.trimmed rule).size ≤ table.history.size :=
        List.length_filter_le ..
      refine .withHistory found (.of_gone (fun _ hv => RetentionRule.mem_of_mem_trimmed hv)
        fun _ hv gone => RetentionRule.not_keeps_of_not_mem_trimmed hv gone) ?_ id rfl
      exact Nat.add_sub_of_le fewer

end MemoryStore

@[simp] theorem Work.total_fallback (outcome : Except StoreError Nat) :
    total (Work.fallback outcome).committed = outcome.toOption.getD 0 := by
  cases outcome <;> rfl

namespace Trimmer

/-- The rule of a trimmer's attempts at a trim height. -/
def rule (t : Trimmer) (trimHeight : Height) : RetentionRule := ⟨trimHeight, t.retained⟩

theorem work_takes (t : Trimmer) (s : MemoryStore) (e : Entry) (trimHeight : Height) :
    MemoryStore.Takes (t.rule trimHeight) e.table.name s (t.work s e trimHeight).2
      (total (t.work s e trimHeight).1.committed) := by
  unfold work
  cases e.order.path with
  | ordered => exact MemoryStore.runBatches_takes t.batchSize s e.table (.start (t.rule trimHeight))
  | fallback =>
      simp only [Work.total_fallback]
      exact s.trimUnordered_takes e.table (t.rule trimHeight)

end Trimmer

end HistoryTrim
