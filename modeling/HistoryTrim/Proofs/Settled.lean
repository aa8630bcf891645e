import HistoryTrim.Proofs.Attempts
import HistoryTrim.Proofs.Dictionaries
import HistoryTrim.Proofs.OrderedTrim

/-! # Settled tables

What a trim keeps it would keep again, since the versions that speak for it stay as well. So a run settles
a table from front to back: below its marker nothing is left that it would take, and in the end nothing at
all. Where more than the newest versions are latest, what is left depends on where batches were cut; that
it is settled does not.
-/

namespace HistoryTrim

namespace RetentionRule

/-- A trim leaves the history as it is. -/
def Settles (rule : RetentionRule) (h : History) : Prop := ∀ v ∈ h, rule.Keeps h v

/-- A trim leaves the versions below a leading value as they are. -/
def SettlesBelow (rule : RetentionRule) (h : History) (marker : Int64) : Prop :=
  ∀ v ∈ h, v.key.leading < marker → rule.Keeps h v

variable {rule : RetentionRule} {h h' : History} {v : Version}

theorem Keeps.step (keeps : rule.Keeps h v) (sub : ∀ w ∈ h', w ∈ h)
    (gone : ∀ w ∈ h, w ∉ h' → ¬ rule.Keeps h w) : rule.Keeps h' v := by
  have partway : rule.Partway h h' := (Partway.refl rule h).step rfl (Int64.le_refl _) sub gone
  exact partway.keeps_lower rfl (Int64.le_refl _) keeps

theorem settles_trimmed (rule : RetentionRule) (h : History) : rule.Settles (h.trimmed rule) := by
  intro v hv
  refine (mem_trimmed.1 hv).2.step (fun w hw => mem_of_mem_trimmed hw) fun w hw gone => ?_
  exact not_keeps_of_not_mem_trimmed hw gone

namespace Settles

theorem trimmed_eq (settles : rule.Settles h) : h.trimmed rule = h := by
  refine History.ext_mem fun v => ?_
  rw [mem_trimmed]
  exact and_iff_left_of_imp (settles v)

theorem lower (settles : rule.Settles h) {below : RetentionRule}
    (retained : below.retained = rule.retained) (height : below.trimHeight ≤ rule.trimHeight) :
    below.Settles h :=
  fun v hv => (Partway.refl rule h).keeps_lower retained height (settles v hv)

end Settles

end RetentionRule

namespace Batched

variable {rule : RetentionRule} {limit : Option Nat} {h h' : History} {start stop : Int64}
  {deleted : Nat}

theorem keeps (batch : Batched rule limit h h' start stop deleted) {v : Version}
    (keeps : rule.Keeps h v) : rule.Keeps h' v :=
  keeps.step batch.sub batch.gone

theorem settlesBelow (batch : Batched rule limit h h' start stop deleted)
    (behind : rule.SettlesBelow h start) : rule.SettlesBelow h' stop := by
  intro v hv below
  rcases batch.settled v hv below with before | keeps
  · exact batch.keeps (behind v (batch.sub v hv) before)
  · exact batch.keeps keeps

/-- The batch that takes fewer rows than it may leaves a settled history. -/
theorem settles (batch : Batched rule limit h h' start stop deleted)
    (behind : rule.SettlesBelow h start) (few : ∀ n, limit = some n → deleted < n) :
    rule.Settles h' := by
  intro v hv
  rcases batch.finished few v hv with before | keeps
  · exact batch.keeps (behind v (batch.sub v hv) before)
  · exact batch.keeps keeps

/-- From a settled history a batch takes nothing. -/
theorem of_settles (batch : Batched rule limit h h' start stop deleted)
    (settles : rule.Settles h) : h' = h ∧ deleted = 0 := by
  have same : h' = h := History.ext_mem fun v =>
    ⟨batch.sub v, fun hv => Classical.byContradiction fun gone => batch.gone v hv gone (settles v hv)⟩
  have parts := batch.size
  rw [same] at parts
  exact ⟨same, by omega⟩

end Batched

namespace MemoryStore

open VersionStore

variable {s : MemoryStore} {t : Table} {table : MemoryTable} {h : History} {rule : RetentionRule}

theorem withHistory_self (found : s.tables.get? t.name = some table) :
    s.withHistory t.name table table.history = s := by
  have same : s.tables.put t.name table = s.tables := Dictionary.put_eq_self found
  exact congrArg (fun tables => { s with tables := tables }) same

theorem trimUnordered_settled (found : s.tables.get? t.name = some table)
    (settles : rule.Settles table.history) : s.trimUnordered t rule = (.ok 0, s) := by
  rw [trimUnordered_found found, settles.trimmed_eq, Nat.sub_self, withHistory_self found]

theorem trimOrdered_settled (found : s.tables.get? t.name = some table)
    (settles : rule.Settles table.history)
    (notDue : s.failingBatch ≠ some (s.batchesStarted + 1)) (size : Option BatchSize) :
    ∃ marker, trimOrdered s t size rule =
      { batches := [⟨0, marker⟩]
        failure := none
        store := { s with batchesStarted := s.batchesStarted + 1 } } := by
  let selector := RowSelector.start rule
  let sweep := table.history.sweep selector.restartGroup (size.map BatchSize.rows)
  obtain ⟨same, none⟩ :=
    (table.history.batched selector (size.map BatchSize.rows)).of_settles settles
  have unchanged : { s with batchesStarted := s.batchesStarted + 1 }.withHistory t.name table
      table.history = { s with batchesStarted := s.batchesStarted + 1 } := withHistory_self found
  have batch : VersionStore.deleteBatch s t selector.restartGroup (size.map BatchSize.rows) =
      ⟨.ok 0, sweep.selector, { s with batchesStarted := s.batchesStarted + 1 }⟩ := by
    refine (deleteBatch_eq found notDue ..).trans ?_
    rw [same, none, unchanged]
  have last := runBatches_last (congrArg Batch.outcome batch) fun n _ => by
    have := n.rows_pos
    omega
  rw [batch] at last
  exact ⟨sweep.selector.marker, last⟩

theorem runBatches_settles {size : Option BatchSize} {selector : RowSelector}
    (stored : s.history? t.name = some h)
    (behind : selector.rule.SettlesBelow h selector.marker)
    (succeeded : (runBatches t size s selector).failure = none) :
    ∃ h', (runBatches t size s selector).store.history? t.name = some h' ∧
      selector.rule.Settles h' := by
  induction s, selector using runBatches_induct (σ := MemoryStore) t size generalizing h with
  | failed s selector e refused run =>
      rw [run] at succeeded
      cases succeeded
  | last s selector deleted done few run =>
      obtain ⟨h', left, batched, -⟩ := deleteBatch_done stored done
      rw [run]
      exact ⟨h', left, batched.settles behind (lt_of_few few)⟩
  | full s selector n deleted sized done enough run ih =>
      obtain ⟨h', left, batched, rule⟩ := deleteBatch_done stored done
      have still := batched.settlesBelow behind
      rw [run] at succeeded ⊢
      rw [← rule] at still ⊢
      exact ih left still succeeded

/-- Stores that a completed trim of a table leaves: an ordered one that succeeded, in batches of any
    size, or one without an order. -/
inductive Completed (s : MemoryStore) (t : Table) (rule : RetentionRule) : MemoryStore → Prop where
  | ordered {size : Option Nat}
      (succeeded : (trimOrdered s t (BatchSize.ofOption? size) rule).failure = none) :
      Completed s t rule (trimOrdered s t (BatchSize.ofOption? size) rule).store
  | unordered : Completed s t rule (s.trimUnordered t rule).2

theorem Completed.settles {s' : MemoryStore} (completed : Completed s t rule s')
    (stored : s.history? t.name = some h) :
    ∃ h', s'.history? t.name = some h' ∧ rule.Settles h' := by
  cases completed with
  | ordered succeeded =>
      have first : rule.SettlesBelow h Int64.minValue := fun v _ below =>
        absurd (Int64.minValue_le _) (Int64.not_le.2 below)
      exact runBatches_settles stored first succeeded
  | unordered => exact ⟨_, (trimUnordered_eq stored rule).2, rule.settles_trimmed h⟩

/-- After a completed trim of a table, whatever it held, no trim at the same height or a lower one
    takes anything: one without an order leaves the store as it is, and an ordered one is a single
    batch that deletes nothing and leaves all tables as they are. -/
theorem completed_is_fixed (rule : RetentionRule) (stored : s.history? t.name = some h)
    {s' : MemoryStore} (completed : Completed s t rule s') {lower : Height}
    (height : lower ≤ rule.trimHeight) :
    s'.trimUnordered t { rule with trimHeight := lower } = (.ok 0, s') ∧
      ∀ size : Option Nat, s'.failingBatch ≠ some (s'.batchesStarted + 1) →
        let again := trimOrdered s' t (BatchSize.ofOption? size) { rule with trimHeight := lower }
        again.failure = none ∧ again.committed = [0] ∧ again.store.tables = s'.tables := by
  obtain ⟨h', left, settles⟩ := completed.settles stored
  obtain ⟨table, found, rfl⟩ := Option.map_eq_some_iff.1 left
  have below : RetentionRule.Settles { rule with trimHeight := lower } table.history :=
    settles.lower rfl height
  refine ⟨trimUnordered_settled found below, fun size notDue => ?_⟩
  obtain ⟨marker, run⟩ := trimOrdered_settled found below notDue (BatchSize.ofOption? size)
  rw [run]
  exact ⟨rfl, rfl, rfl⟩

/-- The first batch takes the newest version of an account that was gone, and a latest one below it then
    brings that account back. -/
theorem completed_is_fixed_loose :
    ¬ looseHistory.LatestIsNewest ∧ looseStore.history? accounts.name = some looseHistory ∧
      (5 : Height) ≤ 6 ∧
      ∃ s', Completed looseStore accounts ⟨6, some (-1)⟩ s' ∧
        s'.failingBatch ≠ some (s'.batchesStarted + 1) ∧
        s'.trimUnordered accounts ⟨5, some (-1)⟩ = (.ok 0, s') ∧
        (trimOrdered s' accounts (BatchSize.ofOption? (some 1)) ⟨5, some (-1)⟩).committed = [0] := by
  have broken : ¬ looseHistory.LatestIsNewest := by decide
  have stored : looseStore.history? accounts.name = some looseHistory := rfl
  have height : (5 : Height) ≤ 6 := by decide
  have untroubled : looseStore.Untroubled := fun n arranged => by cases arranged
  have completed : Completed looseStore accounts ⟨6, some (-1)⟩
      (trimOrdered looseStore accounts (BatchSize.ofOption? (some 3)) ⟨6, some (-1)⟩).store :=
    .ordered (runBatches_succeeds stored untroubled)
  have quiet := (runBatches_takes (BatchSize.ofOption? (some 3)) looseStore accounts
    (.start ⟨6, some (-1)⟩)).quiet untroubled
  have notDue := fun due => Nat.not_succ_le_self _ (quiet _ due)
  obtain ⟨unordered, ordered⟩ := completed_is_fixed ⟨6, some (-1)⟩ stored completed height
  exact ⟨broken, stored, height, _, completed, notDue, unordered, (ordered (some 1) notDue).2.1⟩

end MemoryStore

end HistoryTrim
