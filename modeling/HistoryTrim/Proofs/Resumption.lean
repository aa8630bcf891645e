import HistoryTrim.Proofs.Decisions
import HistoryTrim.Proofs.Runs
import HistoryTrim.Proofs.Settled

/-! # Resumed batches

A marker is only a leading value, and many keys may share it. A batch that resumes there decides all of
them anew, from their first version on, and what lies below needs no further look: it is settled, and
neither this batch nor a later one comes back to it. So a run passes over its table once, from front to
back, and skips nothing, wherever its batches are cut.
-/

namespace HistoryTrim

namespace History

variable {rule : RetentionRule} {h h' : History} {marker : Int64} {v : Version}

theorem mem_before : v ∈ h.before marker ↔ v ∈ h ∧ v.key.leading < marker := by
  constructor
  · intro hv
    exact ⟨(mem_before_or_since marker).2 (.inl hv), leading_lt_of_mem_before hv⟩
  · rintro ⟨hv, below⟩
    refine ((mem_before_or_since marker).1 hv).resolve_right fun ahead => ?_
    exact Int64.not_lt.2 (le_leading_of_mem_since ahead) below

theorem before_congr (same : ∀ v, v.key.leading < marker → (v ∈ h' ↔ v ∈ h)) :
    h'.before marker = h.before marker := by
  have sorted (g : History) : (g.before marker).Pairwise Version.Precedes :=
    g.ordered.sublist (List.takeWhile_sublist _)
  have equal : (⟨h'.before marker, sorted h'⟩ : History) = ⟨h.before marker, sorted h⟩ := by
    refine ext_mem fun v => ?_
    change v ∈ h'.before marker ↔ v ∈ h.before marker
    rw [mem_before, mem_before]
    exact and_congr_left (same v)
  exact congrArg rows equal

/-- A new selector that meets what is settled below a marker selects nothing of it. -/
theorem decisions_before (behind : rule.SettlesBelow h marker) :
    ∀ goes ∈ ((RowSelector.start rule).decisions (h.before marker)).1, goes = false := by
  have sorted : ([] ++ h.before marker).Pairwise Version.Precedes :=
    h.ordered.sublist (List.takeWhile_sublist _)
  have answers : ((RowSelector.start rule).decisions (h.before marker)).1 = _ :=
    (RowSelector.start rule).knows_restartGroup.decisions sorted
  rw [answers]
  intro goes given
  obtain ⟨v, hv, rfl⟩ := List.mem_map.1 given
  obtain ⟨there, below⟩ := mem_before.1 hv
  have keeps := (RetentionRule.keeps_iff there).1 (behind v there below)
  rwa [← h.before_append_since marker, RetentionRule.isObsolete_append hv] at keeps

theorem leading_of_gone {s : RowSelector} {limit : Option Nat} (hv : v ∈ h)
    (gone : v ∉ h.afterSweep s.restartGroup limit) :
    s.marker ≤ v.key.leading ∧
      v.key.leading ≤ (h.sweep s.restartGroup limit).selector.marker := by
  obtain ⟨met, unmet, parts⟩ := h.exists_scanParts s limit
  rw [parts.left, not_or, not_or] at gone
  obtain ⟨notBefore, -, notUnmet⟩ := gone
  have isMet : v ∈ met :=
    ((parts.mem_iff.1 hv).resolve_left notBefore).resolve_right notUnmet
  refine ⟨le_leading_of_mem_since (parts.split ▸ List.mem_append_left unmet isMet), ?_⟩
  obtain ⟨front, u, rfl⟩ : ∃ front u, met = front ++ [u] :=
    ⟨_, _, (List.dropLast_concat_getLast (List.ne_nil_of_mem isMet)).symm⟩
  have sorted : (front ++ [u] ++ unmet).Pairwise Version.Precedes :=
    parts.split ▸ h.ordered.sublist (List.dropWhile_sublist _)
  rw [parts.stop, List.getLast?_concat, Option.map_some, Option.getD_some]
  rcases List.mem_append.1 isMet with early | last
  · have before := (List.pairwise_append.1 (List.pairwise_append.1 sorted).1).2.2
    exact (before v early u (List.mem_singleton_self u)).leading_le
  · rw [List.mem_singleton.1 last]
    exact Int64.le_refl _

end History

namespace MemoryStore

open VersionStore

variable {s : MemoryStore} {t : Table} {size : Option BatchSize} {selector : RowSelector}
  {rule : RetentionRule} {h : History} {count later : Nat}

/-- The history of a table after so many batches of a trim, and the leading value at which the next
    one starts. -/
def course (s : MemoryStore) (t : Table) (size : Option BatchSize) (rule : RetentionRule)
    (count : Nat) : History × Int64 :=
  let reached := afterBatches t size count s (.start rule)
  ((reached.1.history? t.name).getD ∅, reached.2.marker)

/-- Between two batches the table is settled below the marker. -/
structure Stands (t : Table) (rule : RetentionRule) (store : MemoryStore) (selector : RowSelector)
    (h : History) : Prop where
  stored : store.history? t.name = some h
  follows : selector.rule = rule
  behind : rule.SettlesBelow h selector.marker

theorem Stands.next {limit : Option Nat} {deleted : Nat} (stands : Stands t rule s selector h)
    (done : (VersionStore.deleteBatch s t selector.restartGroup limit).outcome = .ok deleted) :
    let batch := VersionStore.deleteBatch s t selector.restartGroup limit
    ∃ h', Stands t rule batch.store batch.selector h' ∧
      Batched rule limit h h' selector.marker batch.selector.marker deleted ∧
      ∀ v ∈ h, v ∉ h' →
        selector.marker ≤ v.key.leading ∧ v.key.leading ≤ batch.selector.marker := by
  intro batch
  obtain ⟨stored, rfl, behind⟩ := stands
  rcases deleteBatch_cases stored selector.restartGroup limit with
    ⟨⟨e, failed⟩, -⟩ | ⟨done', selected, left, -⟩
  · cases failed.symm.trans done
  · cases Except.ok.inj (done.symm.trans done')
    have moved : batch.selector = (h.sweep selector.restartGroup limit).selector := selected
    have batched := h.batched selector limit
    rw [moved]
    refine ⟨_, ⟨left, ?_, batched.settlesBelow behind⟩, batched, fun v hv gone => ?_⟩
    · exact RowSelector.rule_sweep ..
    · exact History.leading_of_gone hv gone

theorem stands_course (stored : s.history? t.name = some h)
    (within : count ≤ (trimOrdered s t size rule).batches.length) :
    let reached := afterBatches t size count s (.start rule)
    Stands t rule reached.1 reached.2 (course s t size rule count).1 := by
  suffices there : let reached := afterBatches t size count s (.start rule)
      ∃ h', Stands t rule reached.1 reached.2 h' by
    obtain ⟨h', stands⟩ := there
    have here : (course s t size rule count).1 = h' := by
      rw [course, stands.stored, Option.getD_some]
    exact here ▸ stands
  induction count with
  | zero =>
      exact ⟨h, stored, rfl, fun v _ below =>
        absurd (Int64.minValue_le _) (Int64.not_le.2 below)⟩
  | succ count ih =>
      obtain ⟨h', stands⟩ := ih (Nat.le_of_succ_le within)
      obtain ⟨next, stands', -⟩ := stands.next (outcome_afterBatches within)
      rw [afterBatches_succ]
      exact ⟨next, stands'⟩

theorem course_batched (stored : s.history? t.name = some h)
    (within : count < (trimOrdered s t size rule).batches.length) :
    let here := course s t size rule count
    let next := course s t size rule (count + 1)
    Batched rule (size.map BatchSize.rows) here.1 next.1 here.2 next.2
        (trimOrdered s t size rule).batches[count].deleted ∧
      ∀ v ∈ here.1, v ∉ next.1 → here.2 ≤ v.key.leading ∧ v.key.leading ≤ next.2 := by
  have stands := stands_course stored (Nat.le_of_lt within)
  obtain ⟨h', stands', batched, range⟩ := stands.next (outcome_afterBatches within)
  have left : (course s t size rule (count + 1)).1 = h' := by
    rw [course, afterBatches_succ, stands'.stored, Option.getD_some]
  have stop := congrArg (fun reached : MemoryStore × RowSelector => reached.2.marker)
    (afterBatches_succ t size count s (.start rule))
  have marker : (course s t size rule (count + 1)).2 = _ := stop
  intro here next
  have moved : next = (h', _) := Prod.ext left marker
  rw [moved]
  exact ⟨batched, range⟩

theorem course_marker_le (stored : s.history? t.name = some h) (order : count ≤ later)
    (within : later ≤ (trimOrdered s t size rule).batches.length) :
    (course s t size rule count).2 ≤ (course s t size rule later).2 := by
  induction later, order using Nat.le_induction with
  | base => exact Int64.le_refl _
  | succ later order ih =>
      have forward := (course_batched stored within).1.forward
      exact Int64.le_trans (ih (Nat.le_of_succ_le within)) forward

/-- What lies below a marker that a trim has reached stays to the end. -/
theorem course_before (stored : s.history? t.name = some h) (order : count ≤ later)
    (within : later ≤ (trimOrdered s t size rule).batches.length) :
    (course s t size rule later).1.before (course s t size rule count).2 =
      (course s t size rule count).1.before (course s t size rule count).2 := by
  induction later, order using Nat.le_induction with
  | base => rfl
  | succ later order ih =>
      have within' := Nat.le_of_succ_le within
      refine (History.before_congr fun v below => ?_).trans (ih within')
      obtain ⟨batched, -⟩ := course_batched stored within
      refine ⟨batched.sub v, fun hv => Classical.byContradiction fun gone => ?_⟩
      have reached := course_marker_le stored order within'
      have settled := (stands_course stored within').behind v hv (Std.lt_of_lt_of_le below reached)
      exact batched.gone v hv gone settled

theorem history?_runBatches (stored : s.history? t.name = some h) :
    let run := runBatches t size s selector
    run.store.history? t.name =
      (afterBatches t size run.batches.length s selector).1.history? t.name := by
  intro ran
  induction s, selector using runBatches_induct (σ := MemoryStore) t size generalizing h with
  | failed s selector e refused run =>
      simp only [ran, run]
      rcases deleteBatch_restartGroup stored selector (size.map BatchSize.rows) with
        ⟨-, untouched, -⟩ | ⟨deleted, h', done, -⟩
      · exact untouched.trans stored.symm
      · cases refused.symm.trans done
  | last s selector deleted done few run =>
      simp only [ran, run]
      rfl
  | full s selector n deleted sized done enough run ih =>
      subst sized
      obtain ⟨h', left, -⟩ := deleteBatch_done stored done
      simp only [ran, run]
      exact ih left

/-- From batch to batch the marker of an ordered trim never falls, and what a batch takes lies between
    the markers around it. At every point, a new selector would take nothing of what lies below the
    marker; and to the end of the run that stays as it is, and no batch has it in its range again. -/
theorem resumption_skips_nothing (rule : RetentionRule) (size : Option Nat)
    (stored : s.history? t.name = some h) :
    let run := trimOrdered s t (BatchSize.ofOption? size) rule
    let rows (count : Nat) := (course s t (BatchSize.ofOption? size) rule count).1
    let marker (count : Nat) := (course s t (BatchSize.ofOption? size) rule count).2
    (rows 0 = h ∧ run.store.history? t.name = some (rows run.batches.length) ∧
      ∀ count ≤ run.batches.length,
        (afterBatches t (BatchSize.ofOption? size) count s (.start rule)).1.history? t.name =
          some (rows count)) ∧
    (∀ count (within : count < run.batches.length),
      run.batches[count].marker = marker (count + 1) ∧ marker count ≤ marker (count + 1) ∧
      (∀ v ∈ rows (count + 1), v ∈ rows count) ∧
      (rows (count + 1)).size + run.batches[count].deleted = (rows count).size ∧
      ∀ v ∈ rows count, v ∉ rows (count + 1) →
        marker count ≤ v.key.leading ∧ v.key.leading ≤ marker (count + 1)) ∧
    ∀ count ≤ run.batches.length,
      (∀ goes ∈ ((RowSelector.start rule).decisions ((rows count).before (marker count))).1,
        goes = false) ∧
      ∀ later, count ≤ later → later ≤ run.batches.length →
        (rows later).before (marker count) = (rows count).before (marker count) ∧
        ∀ v ∈ (rows later).since (marker later), marker count ≤ v.key.leading := by
  intro run rows marker
  have reached {count : Nat} (within : count ≤ run.batches.length) :
      Stands t rule _ _ (rows count) := stands_course stored within
  refine ⟨⟨?first, ?last, fun count within => (reached within).stored⟩, fun count within => ?batch,
    fun count within => ⟨?nothing, fun later order within' => ⟨?stays, fun v hv => ?ahead⟩⟩⟩
  case first => exact Option.some.inj ((reached (Nat.zero_le _)).stored.symm.trans stored)
  case last => exact (history?_runBatches stored).trans (reached (Nat.le_refl _)).stored
  case batch =>
    obtain ⟨batched, range⟩ := course_batched stored within
    exact ⟨marker_afterBatches within, batched.forward, batched.sub, batched.size, range⟩
  case nothing => exact History.decisions_before (reached within).behind
  case stays => exact course_before stored order within'
  case ahead =>
    have passed := History.le_leading_of_mem_since hv
    exact Int64.le_trans (course_marker_le stored order within') passed

/-- The first batch ends between two keys of one leading value. -/
theorem resumption_skips_nothing_loose :
    let reached := course looseStore accounts (BatchSize.ofOption? (some 2)) ⟨6, some (-1)⟩
    looseStore.history? accounts.name = some looseHistory ∧ (reached 1).2 = 2 ∧
      (reached 1).1.before 2 =
        [⟨⟨1, []⟩, 10, false⟩, ⟨⟨1, []⟩, 7, true⟩, ⟨⟨1, []⟩, 4, true⟩] ∧
      (∀ goes ∈ ((RowSelector.start ⟨6, some (-1)⟩).decisions ((reached 1).1.before 2)).1,
        goes = false) ∧
      ∀ v ∈ (reached 1).1.since 2, 2 ≤ v.key.leading := by
  intro reached
  have stored : looseStore.history? accounts.name = some looseHistory := rfl
  have ends : (reached 1).2 = 2 := by decide
  have first : 1 ≤ (trimOrdered looseStore accounts (BatchSize.ofOption? (some 2))
      ⟨6, some (-1)⟩).batches.length := batches_pos rfl
  obtain ⟨-, -, skips⟩ := resumption_skips_nothing ⟨6, some (-1)⟩ (some 2) stored
  obtain ⟨nothing, later⟩ := skips 1 first
  obtain ⟨-, range⟩ := later 1 (Nat.le_refl _) first
  change ∀ v ∈ (reached 1).1.since (reached 1).2, (reached 1).2 ≤ v.key.leading at range
  change ∀ goes ∈ ((RowSelector.start ⟨6, some (-1)⟩).decisions
    ((reached 1).1.before (reached 1).2)).1, goes = false at nothing
  rw [ends] at range nothing
  exact ⟨stored, ends, by decide, nothing, range⟩

end MemoryStore

end HistoryTrim
