import HistoryTrim.Proofs.Attempts
import HistoryTrim.Proofs.Interruption
import HistoryTrim.Proofs.Sessions

/-! # Throttling

A schedule decides which trims reach a table, and nothing else. A trim at a lower height after one at
a higher height finds nothing to do, and one at a higher height leaves what it would have left at once;
so of all the trims that reached a table only the highest one counts. Where the batches were cut, and
on which path the table was trimmed, does not show.
-/

namespace HistoryTrim

instance : Std.Associative (max : Height → Height → Height) where
  assoc a b c := by
    change (if (if a ≤ b then b else a) ≤ c then c else if a ≤ b then b else a) =
      if a ≤ (if b ≤ c then c else b) then (if b ≤ c then c else b) else a
    grind [Int64.le_trans, Int64.le_total]

namespace History

variable {start : History}

theorem LatestIsNewest.trimmed (newestOnly : start.LatestIsNewest) (rule : RetentionRule) :
    (start.trimmed rule).LatestIsNewest := by
  intro v hv latest
  refine ⟨hv, fun w hw key => ?_⟩
  exact (newestOnly v (RetentionRule.mem_of_mem_trimmed hv) latest).2 w
    (RetentionRule.mem_of_mem_trimmed hw) key

theorem trimmed_partway {lower upper : RetentionRule} (retained : lower.retained = upper.retained)
    (below : lower.trimHeight ≤ upper.trimHeight) :
    upper.Partway start (start.trimmed lower) :=
  (RetentionRule.Partway.refl upper start).step retained below
    (fun _ hv => RetentionRule.mem_of_mem_trimmed hv)
    fun _ hv gone => RetentionRule.not_keeps_of_not_mem_trimmed hv gone

/-- What is left after a higher trim a lower one keeps. -/
theorem trimmed_absorbs {lower upper : RetentionRule} (retained : lower.retained = upper.retained)
    (below : lower.trimHeight ≤ upper.trimHeight) :
    (start.trimmed upper).trimmed lower = start.trimmed upper := by
  have whole : upper.Partway start (start.trimmed upper) := trimmed_partway rfl (Int64.le_refl _)
  refine ext_mem fun v => ?_
  rw [RetentionRule.mem_trimmed]
  refine and_iff_left_of_imp fun hv => ?_
  exact whole.keeps_lower retained below (RetentionRule.mem_trimmed.1 hv).2

theorem trimmed_trimmed (newestOnly : start.LatestIsNewest) (retained : Option Height)
    (first second : Height) :
    (start.trimmed ⟨first, retained⟩).trimmed ⟨second, retained⟩ =
      start.trimmed ⟨max first second, retained⟩ := by
  by_cases rising : first ≤ second
  · have higher : max first second = second := if_pos rising
    have partway : RetentionRule.Partway ⟨second, retained⟩ start
        (start.trimmed ⟨first, retained⟩) := trimmed_partway rfl rising
    rw [higher, partway.trimmed_eq newestOnly]
  · have higher : max first second = first := if_neg rising
    rw [higher]
    exact trimmed_absorbs rfl (Int64.le_of_lt (Int64.not_le.1 rising))

/-- What trims at some heights leave of a history: all of it if there were none. -/
def throttled (h : History) (retained : Option Height) (due : List Height) : History :=
  match due.max? with
  | none => h
  | some trimHeight => h.trimmed ⟨trimHeight, retained⟩

theorem throttled_cons (newestOnly : start.LatestIsNewest) (retained : Option Height)
    (first : Height) (due : List Height) :
    (start.trimmed ⟨first, retained⟩).throttled retained due =
      start.throttled retained (first :: due) := by
  unfold throttled
  rw [List.max?_cons]
  cases due.max? with
  | none => rfl
  | some second => exact trimmed_trimmed newestOnly retained first second

end History

/-- The table of a name was trimmed, and not skipped. -/
def Outcome.attempts (name : String) : Outcome → Bool
  | attempted a => a.table = name
  | skipped .. => false

def TrimRun.attempts (name : String) (run : TrimRun) : Bool := run.outcomes.any (·.attempts name)

namespace Trimmer

variable {t : Trimmer} {s : MemoryStore} {name : String} {h : History} {trimHeight : Height}

theorem work_eq_trimmed (t : Trimmer) {e : Entry} (trimHeight : Height)
    (stored : s.history? e.table.name = some h) (untroubled : s.Untroubled)
    (newestOnly : h.LatestIsNewest) :
    (t.work s e trimHeight).2.history? e.table.name = some (h.trimmed (t.rule trimHeight)) := by
  unfold work
  cases e.order.path with
  | ordered =>
      exact MemoryStore.runBatches_eq_trimmed newestOnly stored (.first (.refl _ h))
        (MemoryStore.runBatches_succeeds stored untroubled)
  | fallback => exact (MemoryStore.trimUnordered_eq stored (t.rule trimHeight)).2

theorem opportunity_table (t : Trimmer) (e : Entry) (trimHeight : Height)
    (stored : s.history? name = some h) (untroubled : s.Untroubled)
    (newestOnly : h.LatestIsNewest) :
    let after := t.opportunity s e trimHeight
    after.2.2.Untroubled ∧ after.2.2.history? name =
      some (if after.1.attempts name then h.trimmed (t.rule trimHeight) else h) := by
  intro after
  cases due : t.isDue e.table.name with
  | false =>
      simp only [after, opportunity, due, Bool.false_eq_true, if_false, Outcome.attempts]
      exact ⟨untroubled, stored⟩
  | true =>
      have takes := t.work_takes s e trimHeight
      simp only [after, opportunity, due, if_true, Outcome.attempts, decide_eq_true_eq]
      refine ⟨takes.quiet untroubled, ?_⟩
      by_cases same : e.table.name = name
      · subst same
        rw [if_pos rfl]
        exact t.work_eq_trimmed trimHeight stored untroubled newestOnly
      · rw [if_neg same, MemoryStore.history?, takes.others name fun same' => same same'.symm]
        exact stored

theorem rule_opportunity (t : Trimmer) (s : MemoryStore) (e : Entry) (trimHeight : Height) :
    (t.opportunity s e trimHeight).2.1.rule trimHeight = t.rule trimHeight := by
  rw [rule, (t.opportunity_sameSetup s e trimHeight).retained]
  rfl

/-- A run trims a table or skips it. If it met the table again, it would find nothing to do. -/
theorem runEntries_table (es : List Entry) (t : Trimmer) (trimHeight : Height)
    (stored : s.history? name = some h) (untroubled : s.Untroubled)
    (newestOnly : h.LatestIsNewest) :
    let after := runEntries trimHeight es t s
    after.2.2.Untroubled ∧ after.2.2.history? name =
      some (if after.1.any (·.attempts name) then h.trimmed (t.rule trimHeight) else h) := by
  induction es generalizing t s h with
  | nil => exact ⟨untroubled, stored⟩
  | cons e es ih =>
      obtain ⟨untroubled', stored'⟩ :=
        opportunity_table t e trimHeight stored untroubled newestOnly
      have newestOnly' : (if (t.opportunity s e trimHeight).1.attempts name then
          h.trimmed (t.rule trimHeight) else h).LatestIsNewest := by
        split
        · exact newestOnly.trimmed _
        · exact newestOnly
      obtain ⟨untroubled'', stored''⟩ :=
        ih (t.opportunity s e trimHeight).2.1 stored' untroubled' newestOnly'
      rw [rule_opportunity] at stored''
      simp only [runEntries_cons, List.any_cons]
      refine ⟨untroubled'', stored''.trans (congrArg some ?_)⟩
      cases (t.opportunity s e trimHeight).1.attempts name with
      | false => rfl
      | true =>
          simp only [if_true, Bool.true_or]
          split
          · exact History.trimmed_absorbs rfl (Int64.le_refl _)
          · rfl

/-- Trims at current heights, one after the other. -/
def trims (t : Trimmer) (s : MemoryStore) : List Height → List TrimRun × Trimmer × MemoryStore
  | [] => ([], t, s)
  | current :: currents =>
      let first := t.trim s current
      let rest := first.2.1.trims first.2.2 currents
      (first.1 :: rest.1, rest.2)

/-- The trim heights of the runs that did not skip a table. -/
def dueHeights (name : String) (runs : List TrimRun) : List Height :=
  (runs.filter (·.attempts name)).map TrimRun.trimHeight

theorem trims_throttled (currents : List Height) (t : Trimmer)
    (stored : s.history? name = some h) (untroubled : s.Untroubled)
    (newestOnly : h.LatestIsNewest) :
    let after := t.trims s currents
    after.2.2.history? name = some (h.throttled t.retained (dueHeights name after.1)) := by
  induction currents generalizing t s h with
  | nil => exact stored
  | cons current currents ih =>
      let first := t.trim s current
      have after : first.2.2.Untroubled ∧ first.2.2.history? name =
          some (if first.1.attempts name then h.trimmed (t.rule first.1.trimHeight) else h) :=
        runEntries_table t.entries t (t.clock.trimHeight current) stored untroubled newestOnly
      obtain ⟨untroubled', stored'⟩ := after
      have retained : first.2.1.retained = t.retained := (runEntries_sameSetup _ t s).retained
      simp only [trims, dueHeights, List.filter_cons]
      cases due : first.1.attempts name with
      | false =>
          rw [due, if_neg Bool.false_ne_true] at stored'
          have rest := ih first.2.1 stored' untroubled' newestOnly
          rw [retained] at rest
          exact rest
      | true =>
          rw [due, if_pos rfl] at stored'
          have rest := ih first.2.1 stored' untroubled' (newestOnly.trimmed _)
          rw [retained] at rest
          exact rest.trans (congrArg some (History.throttled_cons newestOnly _ _ _))

/-- However a schedule throttles them, and wherever the heights go, trims leave a table as it was
    while none of them was due for it, and then what a single trim of the first contents leaves at the
    greatest trim height of those that were due. So schedules, paths and batch sizes show in nothing
    but that height. -/
theorem throttling_keeps_results {start : History} (t : Trimmer)
    (stored : s.history? name = some start) (untroubled : s.Untroubled)
    (newestOnly : start.LatestIsNewest) (currents : List Height) :
    let after := t.trims s currents
    let due := dueHeights name after.1
    (due = [] → after.2.2.history? name = some start) ∧
    (∀ trimHeight, due.max? = some trimHeight →
      ∃ survivors deleted, after.2.2.history? name = some survivors ∧
        ∀ table : Table, table.name = name →
          s.TrimsTo table ⟨trimHeight, t.retained⟩ survivors deleted) ∧
    ∀ (t' : Trimmer) (s' : MemoryStore) (currents' : List Height),
      t'.retained = t.retained → s'.history? name = some start → s'.Untroubled →
      (dueHeights name (t'.trims s' currents').1).max? = due.max? →
        (t'.trims s' currents').2.2.history? name = after.2.2.history? name := by
  intro after due
  have left : after.2.2.history? name = some (start.throttled t.retained due) :=
    trims_throttled currents t stored untroubled newestOnly
  refine ⟨fun never => ?_, fun trimHeight highest => ?_, ?_⟩
  · rw [left, never]
    rfl
  · have throttled : start.throttled t.retained due = start.trimmed ⟨trimHeight, t.retained⟩ := by
      rw [History.throttled, highest]
    rw [throttled] at left
    refine ⟨_, start.size - (start.trimmed ⟨trimHeight, t.retained⟩).size, left, ?_⟩
    rintro table rfl
    obtain ⟨deleted, trims, size⟩ := MemoryStore.exists_trimsTo stored untroubled newestOnly
      (.refl ⟨trimHeight, t.retained⟩ start)
    rwa [← size, Nat.add_sub_cancel_left]
  · intro t' s' currents' retained stored' untroubled' same
    have left' := trims_throttled currents' t' stored' untroubled' newestOnly
    rw [left', left, retained, History.throttled, History.throttled, same]

open MemoryStore (accounts accountHistory accountStore untroubled_accountStore)

/-- Every second trim is due, so of these only the one in the middle is. -/
theorem throttling_keeps_results_accounts :
    let entries : List Entry := [⟨accounts, .unavailable (.noCandidateIndex "id"), 0⟩]
    let every2 := { withMetrics { depth := 4, frequency := ⟨[("account", 2)]⟩ } {} with entries }
    let always := { withMetrics { depth := 2, batchSize := some 1 } {} with entries }
    accountStore.history? accounts.name = some accountHistory ∧ accountStore.Untroubled ∧
      accountHistory.LatestIsNewest ∧
      dueHeights accounts.name (every2.trims accountStore [12, 10, 30]).1 = [6] ∧
      (∃ survivors deleted,
        (every2.trims accountStore [12, 10, 30]).2.2.history? accounts.name = some survivors ∧
          accountStore.TrimsTo accounts ⟨6, some (-1)⟩ survivors deleted) ∧
      (always.trims accountStore [8, 5]).2.2.history? accounts.name =
        (every2.trims accountStore [12, 10, 30]).2.2.history? accounts.name := by
  intro entries every2 always
  have stored : accountStore.history? accounts.name = some accountHistory := rfl
  have newestOnly : accountHistory.LatestIsNewest := by decide
  have due : dueHeights accounts.name (every2.trims accountStore [12, 10, 30]).1 = [6] := by
    decide +kernel
  have due' : dueHeights accounts.name (always.trims accountStore [8, 5]).1 = [6, 3] := by
    decide +kernel
  obtain ⟨-, once, agrees⟩ := throttling_keeps_results every2 stored untroubled_accountStore
    newestOnly [12, 10, 30]
  rw [due] at once agrees
  obtain ⟨survivors, deleted, left, trims⟩ := once 6 rfl
  have same := agrees always accountStore [8, 5] rfl stored untroubled_accountStore
    (by rw [due']; decide)
  exact ⟨stored, untroubled_accountStore, newestOnly, due, ⟨survivors, deleted, left,
    trims accounts rfl⟩, same⟩

end Trimmer

end HistoryTrim
