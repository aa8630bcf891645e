import HistoryTrim.Proofs.Losses
import HistoryTrim.Proofs.Registrations
import HistoryTrim.Proofs.Runs

/-! # Systems that are alike at one table

The tables of a trimmer share its store, its scheduler and its list of registrations. Two trimmers with
their stores are alike at a table if they have the same settings and agree on what concerns that table;
elsewhere they may be anything. A part that a run has in another table keeps them alike, and its part in
this one is the same in both.
-/

namespace HistoryTrim

variable {name other : String}

namespace Scheduler

variable {s s' : Scheduler}

theorem multiplier_offer (s : Scheduler) (table other : String) :
    (s.offer table).2.multiplier other = s.multiplier other := by
  simp only [offer]
  split <;> rfl

theorem counter_offer (s : Scheduler) {table : String} (differ : other ≠ table) :
    (s.offer table).2.counter other = s.counter other := by
  simp only [offer]
  split <;> simp only [counter, Dictionary.get?_put, differ, if_false]

theorem offer_congr (multiplier : s.multiplier name = s'.multiplier name)
    (counter : s.counter name = s'.counter name) :
    (s.offer name).1 = (s'.offer name).1 ∧
      (s.offer name).2.counter name = (s'.offer name).2.counter name := by
  simp only [offer, multiplier, counter]
  split <;> simp only [Scheduler.counter, Dictionary.get?_put, if_true, and_self]

end Scheduler

namespace MemoryStore

open VersionStore

/-- Two stores hold the same rows in one table, or neither has it, and no failure is due in them. -/
structure AlikeAt (name : String) (s s' : MemoryStore) : Prop where
  rows : s.history? name = s'.history? name
  quiet : s.Untroubled
  quiet' : s'.Untroubled

variable {s s' s'' : MemoryStore} {t : Table} {rule : RetentionRule}

namespace AlikeAt

theorem symm (alike : s.AlikeAt name s') : s'.AlikeAt name s :=
  ⟨alike.rows.symm, alike.quiet', alike.quiet⟩

theorem trans (first : s.AlikeAt name s') (second : s'.AlikeAt name s'') : s.AlikeAt name s'' :=
  ⟨first.rows.trans second.rows, first.quiet, second.quiet'⟩

theorem of_takes {taken : Nat} (takes : Takes rule other s s' taken) (differ : name ≠ other)
    (quiet : s.Untroubled) : s.AlikeAt name s' where
  rows := by rw [history?, history?, takes.others name differ]
  quiet := quiet
  quiet' := takes.quiet quiet

end AlikeAt

theorem get?_eq_none_of_history? (missing : s.history? name = none) :
    s.tables.get? name = none :=
  Option.map_eq_none_iff.1 missing

theorem deleteBatch_missing (missing : s.history? t.name = none) (quiet : s.Untroubled)
    (selector : RowSelector) (limit : Option Nat) :
    VersionStore.deleteBatch s t selector limit = ⟨.error (.unknownTable t.name), selector,
      { s with batchesStarted := s.batchesStarted + 1 }⟩ := by
  have notDue : s.failingBatch ≠ some (s.batchesStarted + 1) := by
    intro due
    have past := quiet _ due
    omega
  simp only [VersionStore.deleteBatch, deleteBatch, if_neg notDue, get?_eq_none_of_history? missing]

theorem runBatches_missing (missing : s.history? t.name = none) (quiet : s.Untroubled)
    (size : Option BatchSize) (selector : RowSelector) :
    runBatches t size s selector = ⟨[], some (.unknownTable t.name),
      { s with batchesStarted := s.batchesStarted + 1 }⟩ := by
  have batch := deleteBatch_missing missing quiet selector.restartGroup (size.map BatchSize.rows)
  rw [runBatches_failed (congrArg Batch.outcome batch), batch]

theorem agree_alikeAt (t : Table) :
    Agree t fun s s' : MemoryStore => s.AlikeAt t.name s' ∧ (s.history? t.name).isSome := by
  rintro s s' ⟨alike, present⟩ selector limit
  obtain ⟨h, stored⟩ := Option.isSome_iff_exists.1 present
  have stored' : s'.history? t.name = some h := alike.rows ▸ stored
  rcases deleteBatch_cases stored selector limit with
    ⟨-, -, -, troubled⟩ | ⟨done, marker, left, quiet⟩
  · exact absurd alike.quiet troubled
  rcases deleteBatch_cases stored' selector limit with
    ⟨-, -, -, troubled⟩ | ⟨done', marker', left', quiet'⟩
  · exact absurd alike.quiet' troubled
  refine ⟨⟨_, done, done'⟩, marker.trans marker'.symm, ⟨?_, quiet alike.quiet, quiet' alike.quiet'⟩, ?_⟩
  · exact left.trans left'.symm
  · exact Option.isSome_iff_exists.2 ⟨_, left⟩

theorem runBatches_alike (alike : s.AlikeAt t.name s') (size : Option BatchSize)
    (selector : RowSelector) :
    let run := runBatches t size s selector
    let run' := runBatches t size s' selector
    run.batches = run'.batches ∧ run.failure = run'.failure ∧ run.store.AlikeAt t.name run'.store := by
  intro run run'
  cases stored : s.history? t.name with
  | none =>
      have stored' : s'.history? t.name = none := alike.rows ▸ stored
      have failed : run = _ := runBatches_missing stored alike.quiet size selector
      have failed' : run' = _ := runBatches_missing stored' alike.quiet' size selector
      rw [failed, failed']
      refine ⟨rfl, rfl, alike.rows, fun n arranged => ?_, fun n arranged => ?_⟩
      · exact Nat.le_succ_of_le (alike.quiet n arranged)
      · exact Nat.le_succ_of_le (alike.quiet' n arranged)
  | some h =>
      have present : (s.history? t.name).isSome := Option.isSome_iff_exists.2 ⟨h, stored⟩
      obtain ⟨ends, ends', same, after, -⟩ :=
        (agree_alikeAt t).runBatches size s s' selector ⟨alike, present⟩
      exact ⟨same, ends.trans ends'.symm, after⟩

theorem trimUnordered_alike (alike : s.AlikeAt t.name s') (rule : RetentionRule) :
    (s.trimUnordered t rule).1 = (s'.trimUnordered t rule).1 ∧
      (s.trimUnordered t rule).2.AlikeAt t.name (s'.trimUnordered t rule).2 := by
  have quiet := (s.trimUnordered_takes t rule).quiet alike.quiet
  have quiet' := (s'.trimUnordered_takes t rule).quiet alike.quiet'
  cases stored : s.history? t.name with
  | none =>
      have stored' : s'.history? t.name = none := alike.rows ▸ stored
      have absent := ((s.trimUnordered_takes t rule).missing stored).1
      have absent' := ((s'.trimUnordered_takes t rule).missing stored').1
      refine ⟨?_, absent.trans absent'.symm, quiet, quiet'⟩
      simp only [trimUnordered, get?_eq_none_of_history? stored, get?_eq_none_of_history? stored']
  | some h =>
      have stored' : s'.history? t.name = some h := alike.rows ▸ stored
      obtain ⟨counted, left⟩ := trimUnordered_eq stored rule
      obtain ⟨counted', left'⟩ := trimUnordered_eq stored' rule
      exact ⟨counted.trans counted'.symm, left.trans left'.symm, quiet, quiet'⟩

end MemoryStore

namespace Trimmer

/-- Two trimmers have the same settings, and agree on one table: on its registrations, on how often it
    is due and on the opportunities that it has let pass. -/
structure AlikeAt (name : String) (t t' : Trimmer) : Prop where
  clock : t.clock = t'.clock
  batchSize : t.batchSize = t'.batchSize
  retained : t.retained = t'.retained
  multiplier : t.scheduler.multiplier name = t'.scheduler.multiplier name
  counter : t.scheduler.counter name = t'.scheduler.counter name
  registrations : t.registrations name = t'.registrations name

variable {t t' t'' : Trimmer} {s s' : MemoryStore} {e e' : Entry} {trimHeight : Height}

theorem name_of_find? (found : t.find? name = some e) : e.table.name = name := by
  simpa using List.find?_some found

namespace AlikeAt

theorem refl (name : String) (t : Trimmer) : t.AlikeAt name t := ⟨rfl, rfl, rfl, rfl, rfl, rfl⟩

theorem symm (alike : t.AlikeAt name t') : t'.AlikeAt name t :=
  ⟨alike.clock.symm, alike.batchSize.symm, alike.retained.symm, alike.multiplier.symm,
    alike.counter.symm, alike.registrations.symm⟩

theorem trans (first : t.AlikeAt name t') (second : t'.AlikeAt name t'') : t.AlikeAt name t'' :=
  ⟨first.clock.trans second.clock, first.batchSize.trans second.batchSize,
    first.retained.trans second.retained, first.multiplier.trans second.multiplier,
    first.counter.trans second.counter, first.registrations.trans second.registrations⟩

theorem find? (alike : t.AlikeAt name t') :
    (t.find? name).map Entry.registration = (t'.find? name).map Entry.registration := by
  have heads := congrArg List.head? alike.registrations
  unfold Trimmer.registrations at heads
  rwa [List.head?_map, List.head?_map, List.head?_filter, List.head?_filter] at heads

end AlikeAt

theorem work_alike (alike : t.AlikeAt name t') (stores : s.AlikeAt name s')
    (same : e.registration = e'.registration) (own : e.table.name = name) (trimHeight : Height) :
    (t.work s e trimHeight).1 = (t'.work s' e' trimHeight).1 ∧
      (t.work s e trimHeight).2.AlikeAt name (t'.work s' e' trimHeight).2 := by
  have table : e.table = e'.table := congrArg Prod.fst same
  have order : e.order = e'.order := congrArg Prod.snd same
  subst own
  unfold work
  rw [← table, ← order, ← alike.batchSize, ← alike.retained]
  cases e.order.path with
  | ordered =>
      obtain ⟨batches, failure, after⟩ :=
        MemoryStore.runBatches_alike stores t.batchSize (.start (t.rule trimHeight))
      exact ⟨congrArg₂ Work.ordered batches failure, after⟩
  | fallback =>
      obtain ⟨outcome, after⟩ := MemoryStore.trimUnordered_alike stores (t.rule trimHeight)
      exact ⟨congrArg Work.fallback outcome, after⟩

theorem AlikeAt.after {u u' : Trimmer} (alike : t.AlikeAt name t') (setup : t.SameSetup u)
    (setup' : t'.SameSetup u')
    (multiplier : u.scheduler.multiplier name = u'.scheduler.multiplier name)
    (counter : u.scheduler.counter name = u'.scheduler.counter name) : u.AlikeAt name u' where
  clock := setup.clock.trans (alike.clock.trans setup'.clock.symm)
  batchSize := setup.batchSize.trans (alike.batchSize.trans setup'.batchSize.symm)
  retained := setup.retained.trans (alike.retained.trans setup'.retained.symm)
  multiplier := multiplier
  counter := counter
  registrations := by
    unfold Trimmer.registrations
    rw [setup.entries, setup'.entries]
    exact alike.registrations

theorem opportunity_apart (t : Trimmer) (quiet : s.Untroubled) (differ : name ≠ e.table.name)
    (trimHeight : Height) :
    t.AlikeAt name (t.opportunity s e trimHeight).2.1 ∧
      s.AlikeAt name (t.opportunity s e trimHeight).2.2 := by
  refine ⟨?_, .of_takes (t.opportunity_takes s e trimHeight) differ quiet⟩
  refine (AlikeAt.refl name t).after ⟨rfl, rfl, rfl, rfl⟩ (t.opportunity_sameSetup s e trimHeight) ?_ ?_
  · rw [scheduler_opportunity, Scheduler.multiplier_offer]
  · rw [scheduler_opportunity, Scheduler.counter_offer _ differ]

theorem opportunity_alike (alike : t.AlikeAt name t') (stores : s.AlikeAt name s')
    (same : e.registration = e'.registration) (own : e.table.name = name) (trimHeight : Height) :
    let after := t.opportunity s e trimHeight
    let after' := t'.opportunity s' e' trimHeight
    after.1 = after'.1 ∧ after.2.1.AlikeAt name after'.2.1 ∧ after.2.2.AlikeAt name after'.2.2 := by
  intro after after'
  have table : e.table = e'.table := congrArg Prod.fst same
  have order : e.order = e'.order := congrArg Prod.snd same
  obtain ⟨work, left⟩ := work_alike alike stores same own trimHeight
  subst own
  obtain ⟨due, counter⟩ := Scheduler.offer_congr alike.multiplier alike.counter
  refine ⟨?_, ?_, ?_⟩
  · simp only [after, after', opportunity, isDue, ← table, ← order, due, work]
    split <;> rfl
  · refine alike.after (t.opportunity_sameSetup s e trimHeight)
      (t'.opportunity_sameSetup s' e' trimHeight) ?_ ?_
    · rw [scheduler_opportunity, scheduler_opportunity, Scheduler.multiplier_offer,
        Scheduler.multiplier_offer, alike.multiplier]
    · rw [scheduler_opportunity, scheduler_opportunity, ← table, counter]
  · simp only [after, after', opportunity, isDue, ← table, due]
    split
    · exact left
    · exact stores

theorem runEntries_alike (es own : List Entry) (alike : t.AlikeAt name t')
    (stores : s.AlikeAt name s')
    (same : (es.filter fun e => e.table.name = name).map Entry.registration =
      own.map Entry.registration) (trimHeight : Height) :
    let run := runEntries trimHeight es t s
    let run' := runEntries trimHeight own t' s'
    (run.1.filter fun o => o.table = name) = run'.1 ∧
      run.2.1.AlikeAt name run'.2.1 ∧ run.2.2.AlikeAt name run'.2.2 := by
  induction es generalizing own t t' s s' with
  | nil =>
      cases own with
      | nil => exact ⟨rfl, alike, stores⟩
      | cons e' own => cases same
  | cons e es ih =>
      have outcomeName := t.table_opportunity s e trimHeight
      by_cases here : e.table.name = name
      · simp only [List.filter_cons, here, decide_true, if_true, List.map_cons] at same
        cases own with
        | nil => cases same
        | cons e' own =>
            obtain ⟨first, rest⟩ := List.cons.inj same
            obtain ⟨outcome, alike', stores'⟩ := opportunity_alike alike stores first here trimHeight
            obtain ⟨outcomes, last⟩ := ih own alike' stores' rest
            simp only [runEntries_cons, List.filter_cons, outcomeName, here, decide_true, if_true,
              outcomes]
            exact ⟨congrArg (· :: _) outcome, last⟩
      · simp only [List.filter_cons, here, decide_false, Bool.false_eq_true, if_false] at same
        obtain ⟨apart, storesApart⟩ :=
          t.opportunity_apart stores.quiet (fun same => here same.symm) trimHeight
        obtain ⟨outcomes, last⟩ := ih own (apart.symm.trans alike) (storesApart.symm.trans stores) same
        simp only [runEntries_cons, List.filter_cons, outcomeName, here, decide_false,
          Bool.false_eq_true, if_false, outcomes, true_and]
        exact last

/-- Whatever other tables a run meets, in whatever order, one table has the same part in it. -/
theorem run_alike (alike : t.AlikeAt name t') (stores : s.AlikeAt name s') (trimHeight : Height) :
    let run := t.run s trimHeight
    let run' := t'.run s' trimHeight
    (run.1.outcomes.filter fun o => o.table = name) =
        (run'.1.outcomes.filter fun o => o.table = name) ∧
      run.2.1.AlikeAt name run'.2.1 ∧ run.2.2.AlikeAt name run'.2.2 := by
  intro run run'
  let own := t'.entries.filter fun e => e.table.name = name
  have here : run.1.outcomes.filter (fun o => o.table = name) = _ ∧ _ :=
    runEntries_alike t.entries own alike stores alike.registrations trimHeight
  have there : run'.1.outcomes.filter (fun o => o.table = name) = _ ∧ _ :=
    runEntries_alike t'.entries own (.refl name t') (stores.symm.trans stores) rfl trimHeight
  obtain ⟨outcomes, trimmers, rows⟩ := here
  obtain ⟨outcomes', trimmers', rows'⟩ := there
  exact ⟨outcomes.trans outcomes'.symm, trimmers.trans trimmers'.symm, rows.trans rows'.symm⟩

end Trimmer

end HistoryTrim
