import HistoryTrim.Proofs.Registrations
import HistoryTrim.Proofs.Runs
import Mathlib.Logic.Function.Basic
import Mathlib.Logic.Relation

/-! # Calls at the same time

Any number of calls to one trimmer take turns, and each may be given up on its way. A call gives way
wherever it waits for something: the catalog, the registry, the scheduler, the lock of a table, a batch.
A run keeps the registered tables as it found them, whatever is registered meanwhile. Left alone, a call
does step by step what a session does for it at once.
-/

namespace HistoryTrim.Concurrency

/-- What a table is trimmed for. -/
inductive Errand where
  /-- The table was asked for by name. -/
  | single (trimHeight : Height)
  /-- A run over registered tables, with those that are still to come and what became of the others. -/
  | round (trimHeight : Height) (pending : List Entry) (outcomes : List Outcome)

namespace Errand

def trimHeight : Errand → Height
  | single trimHeight | round trimHeight _ _ => trimHeight

def pending : Errand → List Entry
  | single _ => []
  | round _ pending _ => pending

end Errand

/-- How far a call has come. -/
inductive Stage where
  | waiting
  /-- The column types were looked up, the indexes not yet. -/
  | probing (table : Table)
      (columnType : String → String → Except StoreError (Option ColumnType))
  | probed (table : Table) (order : ScanOrder)
  | offering (trimHeight : Height) (pending : List Entry) (outcomes : List Outcome)
  /-- The lock of a table is waited for. -/
  | queued (e : Entry) (errand : Errand)
  /-- The lock is held, and these batches were committed under it. -/
  | trimming (e : Entry) (errand : Errand) (selector : RowSelector) (batches : List BatchRecord)
  /-- The lock is held, and the work under it is done. -/
  | trimmed (e : Entry) (errand : Errand) (work : Work)
  | answered (answer : Answer)
  | abandoned

namespace Stage

/-- The entries that a call has taken from the registry and still needs. -/
def entries : Stage → List Entry
  | offering _ pending _ => pending
  | queued e errand | trimming e errand _ _ | trimmed e errand _ => e :: errand.pending
  | waiting | probing .. | probed .. | answered _ | abandoned => []

/-- The entry that a call is at work on: its lock was acquired and not yet released. -/
def held? : Stage → Option Entry
  | trimming e _ _ _ | trimmed e _ _ => some e
  | waiting | probing .. | probed .. | offering .. | queued .. | answered _ | abandoned => none

end Stage

/-- Where a call stands after the attempt on a table. -/
def Errand.next : Errand → Attempt → Stage
  | single _, a => .answered (.single a)
  | round trimHeight pending outcomes, a =>
    .offering trimHeight pending (outcomes ++ [.attempted a])

/-- A trimmer and its store, the calls that hold locks, and how far every call has come. -/
structure Shared (ι σ : Type) where
  trimmer : Trimmer
  store : σ
  holder : Nat → Option ι
  stage : ι → Stage

namespace Shared

variable {ι σ : Type}

def start (trimmer : Trimmer) (store : σ) : Shared ι σ :=
  { trimmer, store, holder := fun _ => none, stage := fun _ => .waiting }

def counted (x : Shared ι σ) (count : Metrics → Metrics) : Shared ι σ :=
  { x with trimmer := { x.trimmer with metrics := count x.trimmer.metrics } }

variable [DecidableEq ι]

def moveTo (x : Shared ι σ) (i : ι) (stage : Stage) : Shared ι σ :=
  { x with stage := Function.update x.stage i stage }

/-- A call is given up: the lock that it may hold is free again. -/
def abandon (x : Shared ι σ) (i : ι) : Shared ι σ :=
  { x with holder := fun lock => if x.holder lock = some i then none else x.holder lock }.moveTo i
    .abandoned

variable [VersionStore σ]

def begin (x : Shared ι σ) (i : ι) : Call σ → Shared ι σ
  | .register table =>
    match table.validate with
    | .error e => x.moveTo i (.answered (.registered (.error (.invalidTable e))))
    | .ok () => x.moveTo i (.probing table (VersionStore.catalog x.store).columnType)
  -- a run takes all entries with it, and does not look into the registry again
  | .trim current =>
    x.moveTo i (.offering (x.trimmer.clock.trimHeight current) x.trimmer.entries [])
  | .trimFrom source =>
    match source.current with
    | .error e => x.moveTo i (.answered (.refused (.store e)))
    | .ok current =>
      let clock := RetentionClock.ofDepth source.depth
      x.moveTo i (.offering (clock.trimHeight current) x.trimmer.entries [])
  | .trimTable name trimHeight =>
    match x.trimmer.find? name with
    | none => x.moveTo i (.answered (.refused (.unknownTable name)))
    | some e => x.moveTo i (.queued e (.single trimHeight))
  | .change f => { x with store := f x.store }.moveTo i (.answered .changed)

/-- A run offers an opportunity to its next table, or is done. -/
def offer (x : Shared ι σ) (i : ι) (trimHeight : Height) (pending : List Entry)
    (outcomes : List Outcome) : Shared ι σ :=
  match pending with
  | [] => x.moveTo i (.answered (.ran { trimHeight, outcomes }))
  | e :: es =>
    let offered := { x with trimmer := x.trimmer.offered e.table.name }
    if x.trimmer.isDue e.table.name then offered.moveTo i (.queued e (.round trimHeight es outcomes))
    else (offered.counted Metrics.countSkipped).moveTo i
      (.offering trimHeight es (outcomes ++ [.skipped e.table.name e.order.path]))

/-- Under the lock of a table: the next batch of an ordered trim, or the trim without an order. -/
def trim (x : Shared ι σ) (i : ι) (e : Entry) (errand : Errand) (selector : RowSelector)
    (batches : List BatchRecord) : Shared ι σ :=
  match e.order.path with
  | .fallback =>
    let (outcome, store) := VersionStore.trimUnordered x.store e.table
      ⟨errand.trimHeight, x.trimmer.retained⟩
    let work := Work.fallback outcome
    ({ x with store }.counted fun m => m.countAttempt work).moveTo i (.trimmed e errand work)
  | .ordered =>
    let batch := VersionStore.deleteBatch x.store e.table selector.restartGroup
      (x.trimmer.batchSize.map BatchSize.rows)
    let x := { x with store := batch.store }
    match batch.outcome with
    | .error failure =>
      (x.counted Metrics.countFailure).moveTo i
        (.trimmed e errand (.ordered batches (some failure)))
    | .ok deleted =>
      let x := x.counted fun m => m.countBatch deleted
      let batches := batches ++ [⟨deleted, batch.selector.marker⟩]
      if x.trimmer.batchSize.any (·.rows ≤ deleted) then
        x.moveTo i (.trimming e errand batch.selector batches)
      else (x.counted Metrics.countOrdered).moveTo i (.trimmed e errand (.ordered batches none))

/-- The next step of a call, unless it is at its end or the lock that it needs is held. -/
def step? (calls : ι → Call σ) (x : Shared ι σ) (i : ι) : Option (Shared ι σ) :=
  match x.stage i with
  | .waiting => some (x.begin i (calls i))
  | .probing table columnType =>
    let catalog : Catalog := ⟨columnType, (VersionStore.catalog x.store).indexes⟩
    some (x.moveTo i (.probed table (table.scanOrder catalog)))
  -- what is in the registry by now decides whether the name is new
  | .probed table order =>
    let entries := Trimmer.install table order x.trimmer.entries.length x.trimmer.entries
    some ({ x with trimmer := { x.trimmer with entries } }.moveTo i
      (.answered (.registered (.ok order))))
  | .offering trimHeight pending outcomes => some (x.offer i trimHeight pending outcomes)
  | .queued e errand =>
    if x.holder e.lock = none then
      let rule : RetentionRule := ⟨errand.trimHeight, x.trimmer.retained⟩
      some ({ x with holder := Function.update x.holder e.lock (some i) }.moveTo i
        (.trimming e errand (.start rule) []))
    else none
  | .trimming e errand selector batches => some (x.trim i e errand selector batches)
  | .trimmed e errand work =>
    some ({ x with holder := Function.update x.holder e.lock none }.moveTo i
      (errand.next ⟨e.table.name, work⟩))
  | .answered _ | .abandoned => none

end Shared

variable {ι σ : Type} [DecidableEq ι] [VersionStore σ]

/-- A call takes its next step, or is given up before it was answered. -/
inductive Turn (calls : ι → Call σ) : Shared ι σ → Shared ι σ → Prop where
  | proceed {x y : Shared ι σ} (i : ι) (step : x.step? calls i = some y) : Turn calls x y
  | abandon {x : Shared ι σ} (i : ι) (underway : ∀ answer, x.stage i ≠ .answered answer) :
      Turn calls x (x.abandon i)

abbrev Reached (calls : ι → Call σ) : Shared ι σ → Shared ι σ → Prop :=
  Relation.ReflTransGen (Turn calls)

namespace Shared

variable {calls : ι → Call σ} {x : Shared ι σ} {i : ι} {e : Entry} {errand : Errand}
  {selector : RowSelector} {batches : List BatchRecord}

theorem trim_failed {failure : StoreError} (path : e.order.path = .ordered)
    (failed : (VersionStore.deleteBatch x.store e.table selector.restartGroup
      (x.trimmer.batchSize.map BatchSize.rows)).outcome = .error failure) :
    x.trim i e errand selector batches =
      let batch := VersionStore.deleteBatch x.store e.table selector.restartGroup
        (x.trimmer.batchSize.map BatchSize.rows)
      ({ x with store := batch.store }.counted Metrics.countFailure).moveTo i
        (.trimmed e errand (.ordered batches (some failure))) := by
  simp only [trim, path, failed]

theorem trim_done {deleted : Nat} (path : e.order.path = .ordered)
    (done : (VersionStore.deleteBatch x.store e.table selector.restartGroup
      (x.trimmer.batchSize.map BatchSize.rows)).outcome = .ok deleted) :
    x.trim i e errand selector batches =
      let batch := VersionStore.deleteBatch x.store e.table selector.restartGroup
        (x.trimmer.batchSize.map BatchSize.rows)
      let y := { x with store := batch.store }.counted fun m => m.countBatch deleted
      let batches := batches ++ [⟨deleted, batch.selector.marker⟩]
      if x.trimmer.batchSize.any (·.rows ≤ deleted) then
        y.moveTo i (.trimming e errand batch.selector batches)
      else (y.counted Metrics.countOrdered).moveTo i (.trimmed e errand (.ordered batches none)) := by
  simp only [trim, path, done]
  rfl

end Shared

namespace Reached

open Shared (moveTo counted)

variable (calls : ι → Call σ) {x y : Shared ι σ} {i : ι} {e : Entry} {errand : Errand}

theorem step (moves : x.step? calls i = some y) : Reached calls x y := .single (.proceed i moves)

theorem trim {selector : RowSelector} {batches : List BatchRecord}
    (here : x.stage i = .trimming e errand selector batches) :
    Reached calls x (x.trim i e errand selector batches) :=
  .step calls (i := i) (by simp only [Shared.step?, here])

theorem runBatches {selector : RowSelector} {batches : List BatchRecord}
    (path : e.order.path = .ordered) (here : x.stage i = .trimming e errand selector batches) :
    let run := VersionStore.runBatches e.table x.trimmer.batchSize x.store selector
    Reached calls x
      (({ x with store := run.store }.counted fun m =>
          m.countAttempt (.ordered run.batches run.failure)).moveTo i
        (.trimmed e errand (.ordered (batches ++ run.batches) run.failure))) := by
  generalize sized : x.trimmer.batchSize = size
  generalize stored : x.store = s
  induction s, selector using VersionStore.runBatches_induct (σ := σ) e.table size
    generalizing x batches with
  | failed s selector failure refused run =>
      have last := trim calls here
      rw [Shared.trim_failed path (by rw [stored, sized]; exact refused), stored, sized] at last
      simp only [run, List.append_nil]
      exact last
  | last s selector deleted done few run =>
      have last := trim calls here
      rw [Shared.trim_done path (by rw [stored, sized]; exact done), stored, sized,
        if_neg (VersionStore.not_any_of_few few)] at last
      rw [run]
      exact last
  | full s selector n deleted limited done enough run ih =>
      subst limited
      have next := trim calls here
      rw [Shared.trim_done path (by rw [stored, sized]; exact done), stored, sized,
        if_pos (by simpa using enough)] at next
      let batch := VersionStore.deleteBatch s e.table selector.restartGroup (some n.rows)
      let y := ({ x with store := batch.store }.counted fun m => m.countBatch deleted).moveTo i
        (.trimming e errand batch.selector (batches ++ [BatchRecord.mk deleted batch.selector.marker]))
      have rest := ih (x := y) (Function.update_self i _ x.stage) sized rfl
      rw [run]
      refine Relation.ReflTransGen.trans (b := y) next ?_
      simp only [y, moveTo, counted, Function.update_idem, List.append_assoc] at rest ⊢
      exact rest

theorem work (here : x.stage i =
      .trimming e errand (.start ⟨errand.trimHeight, x.trimmer.retained⟩) []) :
    let done := x.trimmer.work x.store e errand.trimHeight
    Reached calls x
      (({ x with store := done.2 }.counted fun m => m.countAttempt done.1).moveTo i
        (.trimmed e errand done.1)) := by
  cases path : e.order.path with
  | ordered =>
      simp only [Trimmer.work, path]
      exact runBatches calls path here
  | fallback =>
      have only := trim calls here
      simp only [Shared.trim, path] at only
      simp only [Trimmer.work, path]
      exact only

theorem attempt (here : x.stage i = .queued e errand) (free : x.holder e.lock = none) :
    let done := x.trimmer.attempt x.store e errand.trimHeight
    Reached calls x
      ({ x with trimmer := done.2.1, store := done.2.2 }.moveTo i (errand.next done.1)) := by
  let rule : RetentionRule := ⟨errand.trimHeight, x.trimmer.retained⟩
  let locked := { x with holder := Function.update x.holder e.lock (some i) }.moveTo i
    (.trimming e errand (.start rule) [])
  let done := x.trimmer.work x.store e errand.trimHeight
  let worked := ({ locked with store := done.2 }.counted fun m => m.countAttempt done.1).moveTo i
    (.trimmed e errand done.1)
  have acquires : Reached calls x locked :=
    .step calls (i := i) (by simp only [Shared.step?, here, free, if_true]; rfl)
  have works : Reached calls locked worked := work calls (Function.update_self ..)
  have at_end : worked.stage i = .trimmed e errand done.1 := Function.update_self ..
  have releases := step calls (x := worked) (i := i) (by
    simp only [Shared.step?, at_end]
    rfl)
  have unlocked :
      Function.update (Function.update x.holder e.lock (some i)) e.lock none = x.holder := by
    rw [Function.update_idem, ← free, Function.update_eq_self]
  refine acquires.trans (works.trans ?_)
  simp only [worked, locked, moveTo, counted, Function.update_idem, unlocked] at releases ⊢
  exact releases

theorem opportunity {trimHeight : Height} {es : List Entry} {outcomes : List Outcome}
    (here : x.stage i = .offering trimHeight (e :: es) outcomes) (free : x.holder e.lock = none) :
    let done := x.trimmer.opportunity x.store e trimHeight
    Reached calls x ({ x with trimmer := done.2.1, store := done.2.2 }.moveTo i
      (.offering trimHeight es (outcomes ++ [done.1]))) := by
  have offers := step calls (x := x) (i := i) (by simp only [Shared.step?, here]; rfl)
  cases due : x.trimmer.isDue e.table.name with
  | false =>
      simp only [Shared.offer, due, Bool.false_eq_true, if_false] at offers
      simp only [Trimmer.opportunity, due, Bool.false_eq_true, if_false]
      exact offers
  | true =>
      let queued := { x with trimmer := x.trimmer.offered e.table.name }.moveTo i
        (.queued e (.round trimHeight es outcomes))
      simp only [Shared.offer, due, if_true] at offers
      have attempts := attempt calls (x := queued) (Function.update_self ..) free
      refine Relation.ReflTransGen.trans (b := queued) offers ?_
      simp only [Trimmer.opportunity, due, if_true]
      simp only [queued, moveTo, Function.update_idem] at attempts ⊢
      exact attempts

theorem round {trimHeight : Height} {pending : List Entry} {outcomes : List Outcome}
    (here : x.stage i = .offering trimHeight pending outcomes)
    (free : ∀ e ∈ pending, x.holder e.lock = none) :
    let done := Trimmer.runEntries trimHeight pending x.trimmer x.store
    Reached calls x ({ x with trimmer := done.2.1, store := done.2.2 }.moveTo i
      (.answered (.ran ⟨trimHeight, outcomes ++ done.1⟩))) := by
  induction pending generalizing x outcomes with
  | nil =>
      simp only [Trimmer.runEntries, List.append_nil]
      exact .step calls (i := i) (by simp only [Shared.step?, here]; rfl)
  | cons e es ih =>
      obtain ⟨own, others⟩ := List.forall_mem_cons.1 free
      let first := x.trimmer.opportunity x.store e trimHeight
      let passed := { x with trimmer := first.2.1, store := first.2.2 }.moveTo i
        (.offering trimHeight es (outcomes ++ [first.1]))
      have passes : Reached calls x passed := opportunity calls here own
      have rest := ih (x := passed) (Function.update_self ..) others
      rw [Trimmer.runEntries_cons]
      refine passes.trans ?_
      simp only [passed, moveTo, Function.update_idem, List.append_assoc] at rest ⊢
      exact rest

theorem registered {table : Table} (made : calls i = .register table)
    (waiting : x.stage i = .waiting) (valid : table.validate = .ok ()) :
    let order := table.scanOrder (VersionStore.catalog x.store)
    let entries := Trimmer.install table order x.trimmer.entries.length x.trimmer.entries
    Reached calls x ({ x with trimmer := { x.trimmer with entries } }.moveTo i
      (.answered (.registered (.ok order)))) := by
  let probing := x.moveTo i (.probing table (VersionStore.catalog x.store).columnType)
  let probed := x.moveTo i (.probed table (table.scanOrder (VersionStore.catalog x.store)))
  have begins : Reached calls x probing :=
    .step calls (i := i) (by simp only [Shared.step?, waiting, made, Shared.begin, valid]; rfl)
  have readFirst : probing.stage i = .probing table _ := Function.update_self ..
  have readAll : probed.stage i = .probed table _ := Function.update_self ..
  have probes := step calls (x := probing) (i := i) (by
    simp only [Shared.step?, readFirst]
    rfl)
  have installs := step calls (x := probed) (i := i) (by
    simp only [Shared.step?, readAll]
    rfl)
  refine begins.trans (Relation.ReflTransGen.trans (b := probed) ?_ ?_)
  · simp only [probing, probed, moveTo, Function.update_idem] at probes ⊢
    exact probes
  · simp only [probed, moveTo, Function.update_idem] at installs ⊢
    exact installs

theorem register {table : Table} (made : calls i = .register table) (waiting : x.stage i = .waiting) :
    let done := (⟨x.trimmer, x.store⟩ : Session σ).answer (.register table)
    Reached calls x ({ x with trimmer := done.2.trimmer, store := done.2.store }.moveTo i
      (.answered done.1)) := by
  cases valid : table.validate with
  | error cause =>
      rw [Session.answer_register_invalid _ valid]
      exact .step calls (i := i) (by simp only [Shared.step?, waiting, made, Shared.begin, valid])
  | ok =>
      rw [Session.answer_register _ valid]
      exact registered calls made waiting valid

/-- A call that is left alone, with no lock held that it needs, answers what a session answers and
    leaves the trimmer and the store as the session does. -/
theorem ran {trimHeight : Height} (waiting : x.stage i = .waiting)
    (begun : x.begin i (calls i) = x.moveTo i (.offering trimHeight x.trimmer.entries []))
    (free : ∀ e ∈ x.trimmer.entries, x.holder e.lock = none) :
    let done := x.trimmer.run x.store trimHeight
    Reached calls x ({ x with trimmer := done.2.1, store := done.2.2 }.moveTo i
      (.answered (.ran done.1))) := by
  have begins : Reached calls x (x.begin i (calls i)) :=
    .step calls (i := i) (by simp only [Shared.step?, waiting])
  have rest := round calls (x := x.moveTo i (.offering trimHeight x.trimmer.entries []))
    (Function.update_self ..) free
  refine (begun ▸ begins).trans ?_
  simp only [moveTo, Function.update_idem, List.nil_append] at rest ⊢
  exact rest

theorem answer (waiting : x.stage i = .waiting)
    (free : ∀ e ∈ x.trimmer.entries, x.holder e.lock = none) :
    let done := (⟨x.trimmer, x.store⟩ : Session σ).answer (calls i)
    Reached calls x ({ x with trimmer := done.2.trimmer, store := done.2.store }.moveTo i
      (.answered done.1)) := by
  have begins : Reached calls x (x.begin i (calls i)) :=
    .step calls (i := i) (by simp only [Shared.step?, waiting])
  cases made : calls i with
  | register table => exact register calls made waiting
  | trim current =>
      exact ran calls waiting (by rw [made]; rfl) free
  | trimFrom source =>
      cases known : source.current with
      | error e =>
          simp only [made, Shared.begin, known] at begins
          simp only [Session.answer, Trimmer.trimFrom, known]
          exact begins
      | ok current =>
          simp only [Session.answer, Trimmer.trimFrom, known]
          exact ran calls waiting (by simp only [made, Shared.begin, known]) free
  | trimTable name trimHeight =>
      simp only [made, Shared.begin] at begins
      cases found : x.trimmer.find? name with
      | none =>
          simp only [found] at begins
          simp only [Session.answer, Trimmer.trimTable, found]
          exact begins
      | some e =>
          simp only [found] at begins
          simp only [Session.answer, Trimmer.trimTable, found]
          let queued := x.moveTo i (.queued e (.single trimHeight))
          have attempts := attempt calls (x := queued) (Function.update_self ..)
            (free e (List.mem_of_find?_eq_some found))
          refine Relation.ReflTransGen.trans (b := queued) begins ?_
          simp only [queued, moveTo, Function.update_idem] at attempts ⊢
          exact attempts
  | change f =>
      rw [made] at begins
      exact begins

end Reached

end HistoryTrim.Concurrency
