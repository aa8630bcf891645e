import HistoryTrim.Proofs.Losses
import HistoryTrim.Proofs.OrderedTrim
import HistoryTrim.Proofs.Watched

/-! # What the metrics account for

Metrics are counted in three places: with every committed batch, at the end of an attempt, and when a
table is skipped. Over a whole session they come to what the calls answered, to the deleting calls of
the store that succeeded, and to the rows that are gone from it. Answers leave out just the rows that
failed attempts had committed.
-/

namespace HistoryTrim

/-- The table was trimmed on this path, and not skipped. -/
def TableResult.ranOn (path : TrimPath) (r : TableResult) : Bool :=
  !r.skipped && decide (r.path = path)

namespace Outcome

def failed (o : Outcome) : Bool := o.failure?.isSome

theorem result?_of_failure {a : Attempt} {e : StoreError} (ended : a.work.failure? = some e) :
    (attempted a).result? = none := by
  rw [result?, Attempt.result, ended]
  rfl

theorem result?_of_success {a : Attempt} (ended : a.work.failure? = none) :
    (attempted a).result? =
      some ⟨a.table, a.work.path, false, a.work.committed.length, total a.work.committed⟩ := by
  rw [result?, Attempt.result, ended]
  rfl

theorem total_committed (outcomes : List Outcome) :
    total (outcomes.map fun o => total o.committed) =
      total ((outcomes.filterMap result?).map TableResult.rowsDeleted) +
        total ((outcomes.filter failed).map fun o => total o.committed) := by
  induction outcomes with
  | nil => rfl
  | cons o os ih =>
      have one : total o.committed = (o.result?.map TableResult.rowsDeleted).getD 0 +
          if o.failed then total o.committed else 0 := by
        cases o with
        | skipped => rfl
        | attempted a =>
            cases ended : a.work.failure? with
            | some e => simp [result?_of_failure ended, failed, failure?, ended]
            | none => simp [result?_of_success ended, failed, failure?, ended, committed]
      rw [List.map_cons, total_cons, ih, List.filterMap_cons, List.filter_cons]
      cases result : o.result? <;> cases failure : o.failed <;>
        simp [result, failure] at one ⊢ <;> omega

end Outcome

namespace Metrics

def runs (m : Metrics) : TrimPath → UInt64
  | .ordered => m.orderedRuns
  | .fallback => m.fallbackRuns

/-- Metrics grew by what the outcomes tell. -/
structure Accounts (m m' : Metrics) (outcomes : List Outcome) : Prop where
  runs : ∀ path, m'.runs path =
    m.runs path + UInt64.ofNat ((outcomes.filterMap Outcome.result?).countP (·.ranOn path))
  skipped : m'.skippedRuns =
    m.skippedRuns + UInt64.ofNat ((outcomes.filterMap Outcome.result?).countP TableResult.skipped)
  failed : m'.failedRuns =
    m.failedRuns + UInt64.ofNat (outcomes.filterMap Outcome.failure?).length
  batches : m'.batches =
    m.batches + UInt64.ofNat (total (outcomes.map fun o => o.committed.length))
  rowsDeleted : m'.rowsDeleted =
    m.rowsDeleted + UInt64.ofNat (total (outcomes.map fun o => total o.committed))

namespace Accounts

variable {m m' m'' : Metrics} {outcomes outcomes' : List Outcome}

theorem nil (m : Metrics) : Accounts m m [] where
  runs _ := (UInt64.add_zero _).symm
  skipped := (UInt64.add_zero _).symm
  failed := (UInt64.add_zero _).symm
  batches := (UInt64.add_zero _).symm
  rowsDeleted := (UInt64.add_zero _).symm

theorem append (first : Accounts m m' outcomes) (second : Accounts m' m'' outcomes') :
    Accounts m m'' (outcomes ++ outcomes') where
  runs path := by
    rw [List.filterMap_append, List.countP_append]
    exact grown_trans (first.runs path) (second.runs path)
  skipped := by
    rw [List.filterMap_append, List.countP_append]
    exact grown_trans first.skipped second.skipped
  failed := by
    rw [List.filterMap_append, List.length_append]
    exact grown_trans first.failed second.failed
  batches := by
    rw [List.map_append, total_append]
    exact grown_trans first.batches second.batches
  rowsDeleted := by
    rw [List.map_append, total_append]
    exact grown_trans first.rowsDeleted second.rowsDeleted

theorem countSkipped (m : Metrics) (name : String) (path : TrimPath) :
    Accounts m m.countSkipped [.skipped name path] where
  runs path' := by cases path' <;> exact (UInt64.add_zero _).symm
  skipped := rfl
  failed := (UInt64.add_zero _).symm
  batches := (UInt64.add_zero _).symm
  rowsDeleted := (UInt64.add_zero _).symm

theorem countAttempt (m : Metrics) (a : Attempt) :
    Accounts m (m.countAttempt a.work) [.attempted a] := by
  have counted := countCommitted_eq m a.work.committed
  cases ended : a.work.failure? with
  | some e =>
      have answered := Outcome.result?_of_failure ended
      constructor <;>
        simp [Metrics.countAttempt, countFailure, counted, ended, answered, Outcome.failure?,
          Outcome.committed, Metrics.runs]
  | none =>
      have answered := Outcome.result?_of_success ended
      constructor
      case runs =>
        intro path
        cases path <;> cases taken : a.work.path <;>
          simp [Metrics.countAttempt, countOrdered, countFallback, counted, ended, answered, taken,
            Metrics.runs, TableResult.ranOn]
      all_goals
        cases taken : a.work.path <;>
          simp [Metrics.countAttempt, countOrdered, countFallback, counted, ended, answered, taken,
            Outcome.failure?, Outcome.committed]

end Accounts

end Metrics

namespace Trimmer

variable {σ : Type} [VersionStore σ] {trimHeight : Height}

theorem opportunity_accounts (t : Trimmer) (s : σ) (e : Entry) (trimHeight : Height) :
    t.metrics.Accounts (t.opportunity s e trimHeight).2.1.metrics
      [(t.opportunity s e trimHeight).1] := by
  unfold opportunity
  split
  · exact .countAttempt t.metrics ⟨e.table.name, (t.work s e trimHeight).1⟩
  · exact .countSkipped t.metrics e.table.name e.order.path

theorem runEntries_accounts (es : List Entry) (t : Trimmer) (s : σ) :
    t.metrics.Accounts (runEntries trimHeight es t s).2.1.metrics
      (runEntries trimHeight es t s).1 := by
  induction es generalizing t s with
  | nil => exact .nil t.metrics
  | cons e es ih =>
      rw [runEntries_cons]
      exact (t.opportunity_accounts s e trimHeight).append (ih _ _)

theorem run_accounts (t : Trimmer) (s : σ) (trimHeight : Height) :
    t.metrics.Accounts (t.run s trimHeight).2.1.metrics (t.run s trimHeight).1.outcomes :=
  runEntries_accounts t.entries t s

end Trimmer

namespace Session

variable {σ : Type} [VersionStore σ]

theorem Step.accounts {x : Session σ} {after : Answer × Session σ} (step : x.Step after) :
    x.trimmer.metrics.Accounts after.2.trimmer.metrics after.1.outcomes := by
  cases step with
  | registered done =>
      rw [Trimmer.register_eq_ok done]
      exact .nil _
  | ran trimHeight => exact x.trimmer.run_accounts x.store trimHeight
  | single e trimHeight => exact .countAttempt x.trimmer.metrics ⟨e.table.name, _⟩
  | invalid | refused | changed => exact .nil _

theorem run_accounts (calls : List (Call σ)) (x : Session σ) :
    x.trimmer.metrics.Accounts (x.run calls).2.trimmer.metrics
      (Exchange.outcomes (x.run calls).1) := by
  induction calls generalizing x with
  | nil => exact .nil _
  | cons call calls ih =>
      rw [run, Exchange.outcomes, List.flatMap_cons]
      exact (x.step_answer call).accounts.append (ih _)

end Session

namespace Exchange

/-- How many rows a call removed from the store. What a change of the store removes is not a
    trimmer's work. -/
def removed (x : Exchange MemoryStore) : Nat :=
  match x.answer with
  | .changed => 0
  | _ => x.before.removed x.after

/-- How many rows are gone from the tables whose trim failed. -/
def lostToFailures (x : Exchange MemoryStore) : Nat :=
  total ((x.answer.outcomes.filter Outcome.failed).map fun o => x.before.lost x.after o.table)

/-- The answer tells what the store lost, unless something else changed the store. -/
def Reported (x : Exchange MemoryStore) : Prop :=
  x.answer = .changed ∨ x.before.LostAsReported x.after x.answer.outcomes

variable {x : Exchange MemoryStore}

theorem Reported.removed_eq (reported : x.Reported) :
    x.removed = total (x.answer.outcomes.map fun o => total o.committed) := by
  rcases reported with changed | lost
  · rw [removed, changed]
    rfl
  · cases answered : x.answer with
    | changed =>
        rw [removed, answered]
        rfl
    | _ =>
        have whole := lost.removed_eq
        rw [answered] at whole
        rw [removed, answered]
        exact whole

theorem Reported.lostToFailures_eq (reported : x.Reported) :
    x.lostToFailures =
      total ((x.answer.outcomes.filter Outcome.failed).map fun o => total o.committed) := by
  rcases reported with changed | lost
  · rw [lostToFailures, changed]
    rfl
  · refine congrArg total (List.map_congr_left fun o ho => ?_)
    exact lost.reported o (List.mem_of_mem_filter ho)

/-- A call removed the rows that its results tell of, and those that failed attempts committed. -/
theorem Reported.removed_eq_add (reported : x.Reported) :
    x.removed = total (x.answer.results.map TableResult.rowsDeleted) + x.lostToFailures := by
  rw [reported.removed_eq, reported.lostToFailures_eq, Outcome.total_committed, Answer.results_eq]

variable {exchanges : List (Exchange MemoryStore)}

theorem total_removed (reported : ∀ x ∈ exchanges, x.Reported) :
    total (exchanges.map removed) =
      total ((outcomes exchanges).map fun o => total o.committed) := by
  rw [total_outcomes]
  exact congrArg total (List.map_congr_left fun x met => (reported x met).removed_eq)

theorem total_removed_add (reported : ∀ x ∈ exchanges, x.Reported) :
    total (exchanges.map removed) =
      total (((exchanges.map answer).flatMap Answer.results).map TableResult.rowsDeleted) +
        total (exchanges.map lostToFailures) := by
  rw [List.map_flatMap, total_flatMap, List.map_map, ← total_map_add]
  exact congrArg total (List.map_congr_left fun x met => (reported x met).removed_eq_add)

end Exchange

namespace Session

theorem Step.reported {x : Session MemoryStore} {after : Answer × Session MemoryStore}
    (step : x.Step after) (distinct : (Trimmer.names x.trimmer.entries).Nodup) :
    Exchange.Reported ⟨after.1, x.store, after.2.store⟩ := by
  cases step with
  | ran trimHeight => exact .inr (Trimmer.runEntries_lost distinct x.trimmer x.store)
  | single e trimHeight => exact .inr (.single (x.trimmer.work_takes x.store e trimHeight))
  | registered | invalid | refused => exact .inr (.refl x.store)
  | changed => exact .inl rfl

theorem run_reported (calls : List (Call MemoryStore)) {x : Session MemoryStore}
    (distinct : (Trimmer.names x.trimmer.entries).Nodup) :
    ∀ exchange ∈ (x.run calls).1, exchange.Reported := by
  induction calls generalizing x with
  | nil => exact fun _ met => absurd met List.not_mem_nil
  | cons call calls ih =>
      rintro exchange (_ | ⟨_, met⟩)
      · exact (x.step_answer call).reported distinct
      · exact ih ((x.step_answer call).names distinct) exchange met

/-- Metrics account for every row and every attempt of a session, in words of 64 bits. The runs of each
    path, skipped and failed ones are those that were answered; batches are the deleting calls of the
    store that succeeded, and watching them changes nothing; the rows are those that are gone from the
    store. The results fall short of them by just what failed attempts had committed. -/
theorem metrics_account (settings : TrimSettings) (metrics : Metrics) (store : MemoryStore)
    (calls : List (Call MemoryStore)) :
    let t := Trimmer.withMetrics settings metrics
    let done := (⟨t, store⟩ : Session MemoryStore).run calls
    let watched := (⟨t, ⟨store, 0⟩⟩ : Session Watched).run (calls.map Call.watched)
    let answers := done.1.map Exchange.answer
    let results := answers.flatMap Answer.results
    let m := done.2.trimmer.metrics
    (∀ path, m.runs path = metrics.runs path + UInt64.ofNat (results.countP (·.ranOn path))) ∧
      m.skippedRuns = metrics.skippedRuns + UInt64.ofNat (results.countP TableResult.skipped) ∧
      m.failedRuns = metrics.failedRuns + UInt64.ofNat (total (answers.map Answer.errors)) ∧
      (watched.1.map Exchange.answer = answers ∧ watched.2.trimmer = done.2.trimmer ∧
        watched.2.store.store = done.2.store ∧
        m.batches = metrics.batches + UInt64.ofNat watched.2.store.succeeded) ∧
      m.rowsDeleted = metrics.rowsDeleted + UInt64.ofNat (total (done.1.map Exchange.removed)) ∧
      total (done.1.map Exchange.removed) =
        total (results.map TableResult.rowsDeleted) +
          total (done.1.map Exchange.lostToFailures) := by
  intro t done watched answers results m
  have accounts := run_accounts calls ⟨t, store⟩
  have reported : ∀ exchange ∈ done.1, exchange.Reported := run_reported calls .nil
  have told : results = (Exchange.outcomes done.1).filterMap Outcome.result? :=
    Exchange.results_eq done.1
  have failures : total (answers.map Answer.errors) =
      ((Exchange.outcomes done.1).filterMap Outcome.failure?).length := Exchange.errors_eq done.1
  obtain ⟨same, last⟩ := run_watched calls t store 0
  rw [← Exchange.total_outcomes, Nat.zero_add] at last
  refine ⟨fun path => ?_, ?_, ?_, ⟨same, congrArg Session.trimmer last, ?_, ?_⟩, ?_, ?_⟩
  · rw [told]
    exact accounts.runs path
  · rw [told]
    exact accounts.skipped
  · rw [failures]
    exact accounts.failed
  · exact congrArg (fun x : Session Watched => x.store.store) last
  · rw [last]
    exact accounts.batches
  · rw [Exchange.total_removed reported]
    exact accounts.rowsDeleted
  · exact Exchange.total_removed_add reported

open MemoryStore (accounts accountHistory columnTypes) in
/-- The first trim fails in its second batch, and the next one takes the version it left. -/
example :
    let account : MemoryTable :=
      ⟨columnTypes accounts, [accounts.scanIndexNamed "account_scan"], accountHistory⟩
    let t := Trimmer.withMetrics { depth := 4, batchSize := some 2, retained := some (-1) } {}
    let done := (⟨t, { tables := ⟨[("account", account)]⟩ }⟩ : Session MemoryStore).run
      [.register accounts, .change (·.failOnBatch 2), .trim 10, .trim 10]
    done.1.map Exchange.removed = [0, 0, 2, 1] ∧
      done.1.map Exchange.lostToFailures = [0, 0, 2, 0] ∧
      done.2.trimmer.metrics =
        { orderedRuns := 1, failedRuns := 1, batches := 2, rowsDeleted := 3 } := by
  decide +kernel

end Session

end HistoryTrim
