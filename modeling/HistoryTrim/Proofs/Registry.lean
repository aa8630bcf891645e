import HistoryTrim.Proofs.Registrations
import Mathlib.Data.List.Forall2

/-! # The registry over whole histories

Whatever is called, the registered tables are a dictionary that the successful registrations have
written, one after the other. A run reads it from front to back: each table comes out once, with a
result or with an error, and the lists of results and of errors both keep its order.
-/

namespace HistoryTrim

/-- The listing that a call adds to the registry, if it registers a table and is not rejected. -/
def Call.registers? {σ : Type} (call : Call σ) (answer : Answer) : Option (String × ScanOrder) :=
  match call, answer with
  | register table, .registered (.ok order) => some (table.name, order)
  | _, _ => none

/-- The successful registrations among some calls, in their order, each with what was found then. -/
def Call.registered {σ : Type} (calls : List (Call σ)) (exchanges : List (Exchange σ)) :
    List (String × ScanOrder) :=
  (calls.zip exchanges).filterMap fun made => made.1.registers? made.2.answer

/-- How a listed table comes out of a run: with a result on the path that was found for it, or with an
    error that names it. -/
inductive ComesOut (name : String) (order : ScanOrder) : TableResult ⊕ String → Prop where
  /-- It was not due. -/
  | skipped : ComesOut name order (.inl ⟨name, order.path, true, 0, 0⟩)
  | trimmed (batches rowsDeleted : Nat) :
      ComesOut name order (.inl ⟨name, order.path, false, batches, rowsDeleted⟩)
  | failed (cause : StoreError) :
      ComesOut name order (.inr s!"Failed to trim table {name}: {(TrimError.store cause).message}")

/-- Every listed table comes out of a run once, in the order of the list. -/
def TrimRun.Covers (run : TrimRun) (tables : List (String × ScanOrder)) : Prop :=
  ∃ ends : List (TableResult ⊕ String),
    List.Forall₂ (fun table ending => ComesOut table.1 table.2 ending) tables ends ∧
      run.results = ends.filterMap Sum.getLeft? ∧ run.failures = ends.filterMap Sum.getRight? ∧
      run.results.length + run.failures.length = tables.length

namespace Outcome

/-- The result of a table, or its error. -/
def ending : Outcome → TableResult ⊕ String
  | skipped name path => .inl ⟨name, path, true, 0, 0⟩
  | attempted a =>
    match a.result with
    | .ok r => .inl r
    | .error e => .inr s!"Failed to trim table {a.table}: {(TrimError.store e).message}"

theorem result?_eq_ending (o : Outcome) : o.result? = o.ending.getLeft? := by
  cases o with
  | skipped => rfl
  | attempted a =>
      simp only [result?, ending]
      cases a.result <;> rfl

theorem failure?_eq_ending (o : Outcome) : o.failure? = o.ending.getRight? := by
  cases o with
  | skipped => rfl
  | attempted a => cases ended : a.work.failure? <;> simp [failure?, ending, Attempt.result, ended]

end Outcome

theorem length_endings {α β : Type} (ends : List (α ⊕ β)) :
    (ends.filterMap Sum.getLeft?).length + (ends.filterMap Sum.getRight?).length = ends.length := by
  induction ends with
  | nil => rfl
  | cons ending ends ih =>
      cases ending <;> simp only [List.filterMap_cons, Sum.getLeft?, Sum.getRight?, List.length_cons] <;>
        omega

namespace Trimmer

variable {σ : Type} [VersionStore σ] {trimHeight : Height}

theorem comesOut_opportunity (t : Trimmer) (s : σ) (e : Entry) (trimHeight : Height) :
    ComesOut e.table.name e.order (t.opportunity s e trimHeight).1.ending := by
  unfold opportunity
  split
  · have path := t.path_work s e trimHeight
    simp only [Outcome.ending, Attempt.result]
    cases (t.work s e trimHeight).1.failure? with
    | some cause => exact .failed cause
    | none =>
        rw [path]
        exact .trimmed _ _
  · exact .skipped

theorem runEntries_comesOut (es : List Entry) (t : Trimmer) (s : σ) :
    List.Forall₂ (fun e o => ComesOut e.table.name e.order (Outcome.ending o)) es
      (runEntries trimHeight es t s).1 := by
  induction es generalizing t s with
  | nil => exact .nil
  | cons e es ih =>
      rw [runEntries_cons]
      exact .cons (t.comesOut_opportunity s e trimHeight) (ih _ _)

theorem run_covers (t : Trimmer) (s : σ) (trimHeight : Height) :
    (t.run s trimHeight).1.Covers t.tables := by
  let ends := (t.run s trimHeight).1.outcomes.map Outcome.ending
  have out : List.Forall₂ (fun table ending => ComesOut table.1 table.2 ending) t.tables ends :=
    List.forall₂_map_left_iff.2 (List.forall₂_map_right_iff.2 (runEntries_comesOut t.entries t s))
  have results : (t.run s trimHeight).1.results = ends.filterMap Sum.getLeft? := by
    rw [List.filterMap_map]
    exact List.filterMap_congr fun o _ => o.result?_eq_ending
  have failures : (t.run s trimHeight).1.failures = ends.filterMap Sum.getRight? := by
    rw [List.filterMap_map]
    exact List.filterMap_congr fun o _ => o.failure?_eq_ending
  refine ⟨ends, out, results, failures, ?_⟩
  rw [results, failures, length_endings, out.length_eq]

/-- The registered tables by name. -/
def registry (t : Trimmer) : Dictionary ScanOrder := ⟨t.tables⟩

end Trimmer

namespace Session

variable {σ : Type} [VersionStore σ]

/-- A call writes to the registry what it registers, and nothing else. -/
theorem registry_answer (x : Session σ) (call : Call σ) :
    (x.answer call).2.trimmer.registry =
      (call.registers? (x.answer call).1).toList.foldl (fun d r => d.put r.1 r.2)
        x.trimmer.registry := by
  cases call with
  | register table =>
      cases valid : table.validate with
      | error cause => rw [x.answer_register_invalid valid]; rfl
      | ok =>
          rw [x.answer_register valid]
          exact congrArg Dictionary.mk (Trimmer.map_listed_install ..)
  | trim | trimFrom | trimTable | change =>
      rw [Trimmer.registry, Trimmer.tables, x.entries_answer (fun _ made => by cases made)]
      rfl

theorem registry_run (x : Session σ) (calls : List (Call σ)) :
    (x.run calls).2.trimmer.registry =
      (Call.registered calls (x.run calls).1).foldl (fun d r => d.put r.1 r.2)
        x.trimmer.registry := by
  induction calls generalizing x with
  | nil => rfl
  | cons call calls ih =>
      have first := x.registry_answer call
      simp only [run, ih, first, Call.registered, List.zip_cons_cons, List.filterMap_cons]
      cases call.registers? (x.answer call).1 <;> rfl

/-- After any calls to a new trimmer, the tables are listed once each, in the order in which their names
    were first registered, with what their last registrations found. A table is rejected without a
    trace or found to be trimmable as its catalog says, and every run covers the list. -/
theorem registry_and_outcomes (settings : TrimSettings) (metrics : Metrics) (store : σ)
    (calls : List (Call σ)) :
    let done := (⟨.withMetrics settings metrics, store⟩ : Session σ).run calls
    let registered := Call.registered calls done.1
    let x := done.2
    let tables := x.trimmer.tables
    (tables.map Prod.fst = (registered.map Prod.fst).eraseDups ∧ (tables.map Prod.fst).Nodup ∧
      ∀ name order, (name, order) ∈ tables ↔
        registered.findRev? (fun r => r.1 = name) = some (name, order)) ∧
    (∀ table cause, table.validate = .error cause →
      x.answer (.register table) = (.registered (.error (.invalidTable cause)), x)) ∧
    (∀ table, table.validate = .ok () →
      (x.answer (.register table)).1 =
        .registered (.ok (table.scanOrder (VersionStore.catalog x.store)))) ∧
    (∀ current, ∃ run x', x.answer (.trim current) = (.ran run, x') ∧ run.Covers tables) ∧
    ∀ source current, source.current = .ok current →
      ∃ run x', x.answer (.trimFrom source) = (.ran run, x') ∧ run.Covers tables := by
  intro done registered x tables
  have registry : x.trimmer.registry = Dictionary.ofPairs registered := registry_run _ calls
  have names : tables.map Prod.fst = (registered.map Prod.fst).eraseDups :=
    (congrArg Dictionary.names registry).trans (Dictionary.names_ofPairs registered)
  have distinct : x.trimmer.registry.names.Nodup := registry ▸ Dictionary.nodup_ofPairs registered
  refine ⟨⟨names, distinct, fun name order => ?_⟩, fun table cause invalid =>
    x.answer_register_invalid invalid, fun table valid => ?_, fun current => ?_,
    fun source current known => ?_⟩
  · have listed : (name, order) ∈ tables ↔ x.trimmer.registry.get? name = some order :=
      Dictionary.mem_entries_iff distinct
    rw [listed, registry, Dictionary.get?_ofPairs]
    constructor
    · intro found
      obtain ⟨last, here, rfl⟩ := Option.map_eq_some_iff.1 found
      have named : last.1 = name := by
        rw [List.findRev?_eq_find?_reverse] at here
        simpa using List.find?_some here
      rw [here, ← named]
    · intro here
      rw [here, Option.map_some]
  · rw [x.answer_register valid]
  · exact ⟨_, _, rfl, x.trimmer.run_covers x.store _⟩
  · obtain ⟨height, depth⟩ := source
    obtain rfl : height = .ok current := known
    exact ⟨_, _, rfl, x.trimmer.run_covers x.store _⟩

end Session

end HistoryTrim
