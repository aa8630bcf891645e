import HistoryTrim.Proofs.Dictionaries
import HistoryTrim.Trimmer

/-! # Runs and calls of a trimmer

What one opportunity, one run over the registered tables and any sequence of calls do, as equations
that later proofs start from.
-/

/-! ## Opportunities

A run offers one opportunity to every registered table, in turn. What an opportunity does is said here
once: either the table is due, and an attempt is made and counted, or it is skipped. Settings and
registrations stay as they are. However tables were registered, a run meets every name once.
-/

namespace HistoryTrim

/-- The rows of each committed batch; none of a table that was skipped. -/
def Outcome.committed : Outcome → List Nat
  | skipped .. => []
  | attempted a => a.work.committed

/-- What a table is listed with: its name, and how it can be trimmed. -/
def Entry.listed (e : Entry) : String × ScanOrder := (e.table.name, e.order)

namespace Trimmer

variable {σ : Type} [VersionStore σ] {t : Trimmer} {s : σ} {e : Entry} {trimHeight : Height}

/-- The trimmer once a table was offered an opportunity. -/
def offered (t : Trimmer) (name : String) : Trimmer :=
  { t with scheduler := (t.scheduler.offer name).2 }

def isDue (t : Trimmer) (name : String) : Bool := (t.scheduler.offer name).1

/-- One table's part of a run. -/
def opportunity (t : Trimmer) (s : σ) (e : Entry) (trimHeight : Height) :
    Outcome × Trimmer × σ :=
  let t' := t.offered e.table.name
  if t.isDue e.table.name then
    (.attempted ⟨e.table.name, (t.work s e trimHeight).1⟩,
      { t' with metrics := t.metrics.countAttempt (t.work s e trimHeight).1 },
      (t.work s e trimHeight).2)
  else (.skipped e.table.name e.order.path, { t' with metrics := t.metrics.countSkipped }, s)

theorem runEntries_cons (es : List Entry) (t : Trimmer) (s : σ) :
    runEntries trimHeight (e :: es) t s =
      let first := t.opportunity s e trimHeight
      let rest := runEntries trimHeight es first.2.1 first.2.2
      (first.1 :: rest.1, rest.2) := by
  cases due : t.isDue e.table.name with
  | false =>
      have passed : (t.scheduler.offer e.table.name).1 = false := due
      simp only [runEntries, opportunity, passed, due, Bool.false_eq_true, if_false]
      rfl
  | true =>
      have ready : (t.scheduler.offer e.table.name).1 = true := due
      simp only [runEntries, opportunity, ready, due, if_true]
      rfl

theorem scheduler_opportunity (t : Trimmer) (s : σ) (e : Entry) (trimHeight : Height) :
    (t.opportunity s e trimHeight).2.1.scheduler = (t.scheduler.offer e.table.name).2 := by
  unfold opportunity
  split <;> rfl

theorem table_opportunity (t : Trimmer) (s : σ) (e : Entry) (trimHeight : Height) :
    (t.opportunity s e trimHeight).1.table = e.table.name := by
  unfold opportunity
  split <;> rfl

/-- Settings and registrations outlast a step of a trimmer. -/
structure SameSetup (t t' : Trimmer) : Prop where
  clock : t'.clock = t.clock
  batchSize : t'.batchSize = t.batchSize
  retained : t'.retained = t.retained
  entries : t'.entries = t.entries

theorem opportunity_sameSetup (t : Trimmer) (s : σ) (e : Entry) (trimHeight : Height) :
    t.SameSetup (t.opportunity s e trimHeight).2.1 := by
  unfold opportunity
  split <;> exact ⟨rfl, rfl, rfl, rfl⟩

theorem runEntries_sameSetup (es : List Entry) (t : Trimmer) (s : σ) :
    t.SameSetup (runEntries trimHeight es t s).2.1 := by
  induction es generalizing t s with
  | nil => exact ⟨rfl, rfl, rfl, rfl⟩
  | cons e es ih =>
      have first := t.opportunity_sameSetup s e trimHeight
      have rest := ih (t.opportunity s e trimHeight).2.1 (t.opportunity s e trimHeight).2.2
      rw [runEntries_cons]
      exact ⟨rest.clock.trans first.clock, rest.batchSize.trans first.batchSize,
        rest.retained.trans first.retained, rest.entries.trans first.entries⟩

def names (es : List Entry) : List String := es.map fun e => e.table.name

theorem tables_runEntries (es : List Entry) (t : Trimmer) (s : σ) :
    (runEntries trimHeight es t s).1.map Outcome.table = names es := by
  induction es generalizing t s with
  | nil => rfl
  | cons e es ih =>
      rw [runEntries_cons]
      exact congrArg₂ List.cons (t.table_opportunity s e trimHeight) (ih _ _)

theorem names_eq (es : List Entry) : names es = (es.map Entry.listed).map Prod.fst := by
  rw [List.map_map]
  rfl

theorem map_listed_install (table : Table) (order : ScanOrder) (lock : Nat) (es : List Entry) :
    (install table order lock es).map Entry.listed =
      Dictionary.putEntry table.name order (es.map Entry.listed) := by
  induction es with
  | nil => rfl
  | cons e es ih =>
      by_cases same : e.table.name = table.name
      · simp [install, Dictionary.putEntry, Entry.listed, same]
      · simp only [install, same, if_false, List.map_cons, ih, Dictionary.putEntry, Entry.listed]

theorem register_eq_ok {t t' : Trimmer} {catalog : Catalog} {table : Table} {order : ScanOrder}
    (done : t.register catalog table = .ok (order, t')) :
    t' = { t with
      entries := install table (table.scanOrder catalog) t.entries.length t.entries } := by
  unfold register at done
  split at done
  · cases done
  · cases done
    rfl

theorem names_register {t t' : Trimmer} {catalog : Catalog} {table : Table} {order : ScanOrder}
    (done : t.register catalog table = .ok (order, t')) (distinct : (names t.entries).Nodup) :
    (names t'.entries).Nodup := by
  rw [names_eq] at distinct
  rw [register_eq_ok done, names_eq, map_listed_install]
  exact Dictionary.nodup_put (d := ⟨t.entries.map Entry.listed⟩) distinct table.name _

end Trimmer

/-! ## Sessions

A trimmer is called again and again, and between the calls anything may happen to its store. A session
keeps what each call answered, with the store before and after it. Whatever was called, a name is
registered once.
-/

/-- A call to a trimmer, or a change to its store: rows are written, a table is created, a batch is
    made to fail. -/
inductive Call (σ : Type) where
  | register (table : Table)
  | trim (current : Height)
  | trimFrom (source : HeightSource)
  | trimTable (name : String) (trimHeight : Height)
  | change (f : σ → σ)

inductive Answer where
  | registered (outcome : Except TrimError ScanOrder)
  | ran (run : TrimRun)
  /-- One table was trimmed, or failed to be. -/
  | single (attempt : Attempt)
  /-- There was no current height, or no table of the name. -/
  | refused (cause : TrimError)
  | changed

namespace Answer

/-- What became of the tables that a call was about. -/
def outcomes : Answer → List Outcome
  | ran run => run.outcomes
  | single a => [.attempted a]
  | registered _ | refused _ | changed => []

def results : Answer → List TableResult
  | ran run => run.results
  | single a => a.result.toOption.toList
  | registered _ | refused _ | changed => []

/-- The errors of a run, or that of the store when one table was trimmed. -/
def errors : Answer → Nat
  | ran run => run.failures.length
  | single a => if a.result.isOk then 0 else 1
  | registered _ | refused _ | changed => 0

theorem results_eq (a : Answer) : a.results = a.outcomes.filterMap Outcome.result? := by
  cases a with
  | single a =>
      simp only [results, outcomes, List.filterMap_cons, List.filterMap_nil, Outcome.result?]
      cases a.result <;> rfl
  | _ => rfl

theorem errors_eq (a : Answer) :
    a.errors = (a.outcomes.filterMap Outcome.failure?).length := by
  cases a with
  | single a =>
      cases failed : a.work.failure? <;> simp [errors, outcomes, Outcome.failure?, Attempt.result,
        Except.isOk, Except.toBool, failed]
  | _ => rfl

end Answer

/-- What a call answered, and the stores around it. -/
structure Exchange (σ : Type) where
  answer : Answer
  before : σ
  after : σ

namespace Exchange

variable {σ : Type}

def outcomes (exchanges : List (Exchange σ)) : List Outcome :=
  exchanges.flatMap fun x => x.answer.outcomes

theorem results_eq (exchanges : List (Exchange σ)) :
    (exchanges.map answer).flatMap Answer.results =
      (outcomes exchanges).filterMap Outcome.result? := by
  simp only [outcomes, List.filterMap_flatMap, List.flatMap_map, Answer.results_eq]

theorem errors_eq (exchanges : List (Exchange σ)) :
    total ((exchanges.map answer).map Answer.errors) =
      ((outcomes exchanges).filterMap Outcome.failure?).length := by
  induction exchanges with
  | nil => rfl
  | cons x xs ih =>
      rw [List.map_cons, List.map_cons, total_cons, ih, Answer.errors_eq, outcomes, outcomes,
        List.flatMap_cons, List.filterMap_append, List.length_append]

theorem total_outcomes (exchanges : List (Exchange σ)) (f : Outcome → Nat) :
    total ((outcomes exchanges).map f) =
      total (exchanges.map fun x => total (x.answer.outcomes.map f)) := by
  rw [outcomes, List.map_flatMap, total_flatMap]

end Exchange

structure Session (σ : Type) where
  trimmer : Trimmer
  store : σ

namespace Session

variable {σ : Type} [VersionStore σ]

def answer (x : Session σ) : Call σ → Answer × Session σ
  | .register table =>
    match x.trimmer.register (VersionStore.catalog x.store) table with
    | .error e => (.registered (.error e), x)
    | .ok (order, t) => (.registered (.ok order), { x with trimmer := t })
  | .trim current =>
    let (run, t, s) := x.trimmer.trim x.store current
    (.ran run, ⟨t, s⟩)
  | .trimFrom source =>
    match x.trimmer.trimFrom x.store source with
    | .error e => (.refused e, x)
    | .ok (run, t, s) => (.ran run, ⟨t, s⟩)
  | .trimTable name trimHeight =>
    match x.trimmer.trimTable x.store name trimHeight with
    | .error e => (.refused e, x)
    | .ok (a, t, s) => (.single a, ⟨t, s⟩)
  | .change f => (.changed, { x with store := f x.store })

/-- The exchanges of some calls, and the session after them. -/
def run (x : Session σ) : List (Call σ) → List (Exchange σ) × Session σ
  | [] => ([], x)
  | call :: calls =>
    let (answer, x') := x.answer call
    let (exchanges, last) := x'.run calls
    (⟨answer, x.store, x'.store⟩ :: exchanges, last)

/-- All that a call can do: a table is registered, all tables have an opportunity at some trim height,
    one of them has an attempt, nothing happens, or the store is changed from outside. -/
inductive Step (x : Session σ) : Answer × Session σ → Prop where
  | registered {table : Table} {order : ScanOrder} {t : Trimmer}
      (done : x.trimmer.register (VersionStore.catalog x.store) table = .ok (order, t)) :
      x.Step (.registered (.ok order), { x with trimmer := t })
  | invalid (cause : TrimError) : x.Step (.registered (.error cause), x)
  | ran (trimHeight : Height) :
      x.Step (.ran (x.trimmer.run x.store trimHeight).1,
        ⟨(x.trimmer.run x.store trimHeight).2.1, (x.trimmer.run x.store trimHeight).2.2⟩)
  | single (e : Entry) (trimHeight : Height) :
      x.Step (.single (x.trimmer.attempt x.store e trimHeight).1,
        ⟨(x.trimmer.attempt x.store e trimHeight).2.1,
          (x.trimmer.attempt x.store e trimHeight).2.2⟩)
  | refused (cause : TrimError) : x.Step (.refused cause, x)
  | changed (f : σ → σ) : x.Step (.changed, { x with store := f x.store })

theorem step_answer (x : Session σ) (call : Call σ) : x.Step (x.answer call) := by
  cases call with
  | register table =>
      simp only [answer]
      split
      · exact .invalid _
      next done => exact .registered done
  | trim current => exact .ran _
  | trimFrom source =>
      simp only [answer, Trimmer.trimFrom]
      cases source.current with
      | error e => exact .refused _
      | ok current => exact .ran _
  | trimTable name trimHeight =>
      simp only [answer, Trimmer.trimTable]
      cases x.trimmer.find? name with
      | none => exact .refused _
      | some e => exact .single e trimHeight
  | change f => exact .changed f

theorem Step.names {x : Session σ} {after : Answer × Session σ} (step : x.Step after)
    (distinct : (Trimmer.names x.trimmer.entries).Nodup) :
    (Trimmer.names after.2.trimmer.entries).Nodup := by
  cases step with
  | registered done => exact Trimmer.names_register done distinct
  | ran trimHeight =>
      have setup : x.trimmer.SameSetup (x.trimmer.run x.store trimHeight).2.1 :=
        Trimmer.runEntries_sameSetup x.trimmer.entries x.trimmer x.store
      exact setup.entries.symm ▸ distinct
  | invalid | single | refused | changed => exact distinct

end Session

end HistoryTrim
