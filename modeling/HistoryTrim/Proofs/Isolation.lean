import HistoryTrim.Proofs.Alike
import HistoryTrim.Proofs.Throttling

/-! # Isolation of tables

Over whole histories of calls, two systems that are alike at a table show the same there: what the other
tables hold, how often they are due and whether they fail has no effect on it. What a call changes it
has attempted.
-/

namespace HistoryTrim

variable {name other : String}

namespace Trimmer

variable {trimHeight : Height}

theorem opportunity_unattempted (t : Trimmer) (s : MemoryStore) (e : Entry) (trimHeight : Height)
    (idle : (t.opportunity s e trimHeight).1.attempts other = false) :
    (t.opportunity s e trimHeight).2.2.tables.get? other = s.tables.get? other := by
  cases due : t.isDue e.table.name with
  | false => simp only [opportunity, due, Bool.false_eq_true, if_false]
  | true =>
      simp only [opportunity, due, if_true, Outcome.attempts, decide_eq_false_iff_not] at idle
      exact (t.opportunity_takes s e trimHeight).others other fun same => idle same.symm

theorem runEntries_unattempted (es : List Entry) (t : Trimmer) (s : MemoryStore)
    (idle : ∀ o ∈ (runEntries trimHeight es t s).1, o.attempts other = false) :
    (runEntries trimHeight es t s).2.2.tables.get? other = s.tables.get? other := by
  induction es generalizing t s with
  | nil => rfl
  | cons e es ih =>
      rw [runEntries_cons] at idle ⊢
      obtain ⟨first, rest⟩ := List.forall_mem_cons.1 idle
      exact (ih _ _ rest).trans (t.opportunity_unattempted s e trimHeight first)

end Trimmer

theorem Outcome.table_of_attempts {o : Outcome} (attempted : o.attempts name = true) :
    o.table = name := by
  cases o with
  | skipped table path => cases attempted
  | attempted a => exact of_decide_eq_true attempted

/-- What is said about the table of a name. -/
def Answer.about (name : String) : Answer → List (Except TrimError Outcome)
  | ran run => (run.outcomes.filter fun o => o.table = name).map .ok
  | single a => if a.table = name then [.ok (.attempted a)] else []
  | refused (.unknownTable other) => if other = name then [.error (.unknownTable other)] else []
  | refused cause => [.error cause]
  | registered _ | changed => []

/-- The table of a name was not due. -/
def Answer.Skips (name : String) (a : Answer) : Prop := ∃ path, .skipped name path ∈ a.outcomes

namespace Session

variable {x y : Session MemoryStore}

/-- Two systems are alike at one table, and may be anything elsewhere. -/
structure AlikeAt (name : String) (x y : Session MemoryStore) : Prop where
  trimmers : x.trimmer.AlikeAt name y.trimmer
  stores : x.store.AlikeAt name y.store

theorem run_alike (alike : x.AlikeAt name y) (trimHeight : Height) :
    let run := x.trimmer.run x.store trimHeight
    let run' := y.trimmer.run y.store trimHeight
    (Answer.ran run.1).about name = (Answer.ran run'.1).about name ∧
      AlikeAt name ⟨run.2.1, run.2.2⟩ ⟨run'.2.1, run'.2.2⟩ := by
  obtain ⟨outcomes, trimmers, stores⟩ := Trimmer.run_alike alike.trimmers alike.stores trimHeight
  simp only [Answer.about, outcomes, true_and]
  exact ⟨trimmers, stores⟩

theorem attempt_alike {e e' : Entry} (alike : x.AlikeAt name y)
    (same : e.registration = e'.registration) (own : e.table.name = name) (trimHeight : Height) :
    let attempt := x.trimmer.attempt x.store e trimHeight
    let attempt' := y.trimmer.attempt y.store e' trimHeight
    attempt.1 = attempt'.1 ∧
      AlikeAt name ⟨attempt.2.1, attempt.2.2⟩ ⟨attempt'.2.1, attempt'.2.2⟩ := by
  intro attempt attempt'
  obtain ⟨work, stores⟩ := Trimmer.work_alike alike.trimmers alike.stores same own trimHeight
  have table : e.table = e'.table := congrArg Prod.fst same
  refine ⟨?_, ?_, stores⟩
  · simp only [attempt, attempt', Trimmer.attempt, work, table]
  · exact alike.trimmers.after ⟨rfl, rfl, rfl, rfl⟩ ⟨rfl, rfl, rfl, rfl⟩ alike.trimmers.multiplier
      alike.trimmers.counter

theorem trimTable_apart (quiet : x.store.Untroubled) (differ : name ≠ other)
    (trimHeight : Height) :
    (x.answer (.trimTable other trimHeight)).1.about name = [] ∧
      x.AlikeAt name (x.answer (.trimTable other trimHeight)).2 := by
  simp only [answer, Trimmer.trimTable]
  cases found : x.trimmer.find? other with
  | none => exact ⟨if_neg differ.symm, .refl name _, rfl, quiet, quiet⟩
  | some e =>
      have own : e.table.name = other := Trimmer.name_of_find? found
      have takes := x.trimmer.work_takes x.store e trimHeight
      rw [own] at takes
      refine ⟨if_neg fun same => differ (same.symm.trans own), ?_, .of_takes takes differ quiet⟩
      exact (Trimmer.AlikeAt.refl name _).after ⟨rfl, rfl, rfl, rfl⟩ ⟨rfl, rfl, rfl, rfl⟩ rfl rfl

theorem trimTable_alike (alike : x.AlikeAt name y) (other : String) (trimHeight : Height) :
    (x.answer (.trimTable other trimHeight)).1.about name =
        (y.answer (.trimTable other trimHeight)).1.about name ∧
      AlikeAt name (x.answer (.trimTable other trimHeight)).2
        (y.answer (.trimTable other trimHeight)).2 := by
  by_cases differ : name = other
  · subst differ
    have entries := alike.trimmers.find?
    simp only [answer, Trimmer.trimTable]
    cases found : x.trimmer.find? name with
    | none =>
        rw [found] at entries
        rw [Option.map_eq_none_iff.1 entries.symm]
        exact ⟨rfl, alike⟩
    | some e =>
        rw [found] at entries
        obtain ⟨e', found', same⟩ := Option.map_eq_some_iff.1 entries.symm
        obtain ⟨attempt, after⟩ :=
          attempt_alike alike same.symm (Trimmer.name_of_find? found) trimHeight
        rw [found']
        exact ⟨congrArg (fun a => Answer.about name (.single a)) attempt, after⟩
  · obtain ⟨nothing, trimmers, stores⟩ := trimTable_apart alike.stores.quiet differ trimHeight
    obtain ⟨nothing', trimmers', stores'⟩ := trimTable_apart alike.stores.quiet' differ trimHeight
    exact ⟨nothing.trans nothing'.symm, trimmers.symm.trans (alike.trimmers.trans trimmers'),
      stores.symm.trans (alike.stores.trans stores')⟩

/-- No call tells two systems apart at a table at which they are alike. -/
theorem answer_alike (alike : x.AlikeAt name y) {call : Call MemoryStore} (trims : call.Trims) :
    (x.answer call).1.about name = (y.answer call).1.about name ∧
      AlikeAt name (x.answer call).2 (y.answer call).2 := by
  cases call with
  | trim current =>
      have ran := run_alike alike (x.trimmer.clock.trimHeight current)
      simp only [answer, Trimmer.trim]
      rw [← alike.trimmers.clock]
      exact ran
  | trimFrom source =>
      simp only [answer, Trimmer.trimFrom]
      cases source.current with
      | error e => exact ⟨rfl, alike⟩
      | ok current => exact run_alike alike ((RetentionClock.ofDepth source.depth).trimHeight current)
  | trimTable other trimHeight => exact trimTable_alike alike other trimHeight
  | register table => cases trims
  | change f => cases trims

/-- What a history of calls shows at a table: what each call said about it, and its rows then. -/
def shown (name : String) (exchanges : List (Exchange MemoryStore)) :
    List (List (Except TrimError Outcome) × Option History) :=
  exchanges.map fun exchange => (exchange.answer.about name, exchange.after.history? name)

theorem calls_alike (calls : List (Call MemoryStore)) (trims : ∀ call ∈ calls, call.Trims)
    (alike : x.AlikeAt name y) :
    shown name (x.run calls).1 = shown name (y.run calls).1 ∧
      AlikeAt name (x.run calls).2 (y.run calls).2 := by
  induction calls generalizing x y with
  | nil => exact ⟨rfl, alike⟩
  | cons call calls ih =>
      obtain ⟨first, others⟩ := List.forall_mem_cons.1 trims
      obtain ⟨said, after⟩ := answer_alike alike first
      obtain ⟨rest, last⟩ := ih others after
      refine ⟨?_, last⟩
      simp only [run, shown, List.map_cons] at rest ⊢
      rw [said, after.stores.rows, rest]

/-- A table that changes in a call was attempted in it. -/
theorem answer_unattempted (x : Session MemoryStore) {call : Call MemoryStore} (trims : call.Trims)
    (idle : ∀ o ∈ (x.answer call).1.outcomes, o.attempts other = false) :
    (x.answer call).2.store.tables.get? other = x.store.tables.get? other := by
  rcases x.answer_cases call with ⟨-, same⟩ | ⟨trimHeight, ran⟩ | ⟨e, -, trimHeight, single⟩
  · rw [same trims]
  · rw [ran] at idle ⊢
    exact Trimmer.runEntries_unattempted _ _ _ idle
  · rw [single] at idle ⊢
    have differ : e.table.name ≠ other := of_decide_eq_false (idle _ (List.mem_singleton_self _))
    exact (x.trimmer.work_takes x.store e trimHeight).others other differ.symm

theorem answer_tables (x : Session MemoryStore) (call : Call MemoryStore) :
    ((x.answer call).1.outcomes.map Outcome.table).Sublist (Trimmer.names x.trimmer.entries) := by
  rcases x.answer_cases call with ⟨none, -⟩ | ⟨trimHeight, ran⟩ | ⟨e, he, trimHeight, single⟩
  · rw [none]
    exact List.nil_sublist _
  · rw [ran]
    have tables : (Answer.ran (x.trimmer.run x.store trimHeight).1).outcomes.map Outcome.table =
      Trimmer.names x.trimmer.entries := Trimmer.tables_runEntries _ _ _
    exact tables ▸ List.Sublist.refl _
  · rw [single]
    exact List.singleton_sublist.2 (List.mem_map_of_mem he)

theorem unattempted_of_unregistered (call : Call MemoryStore)
    (unknown : x.trimmer.find? other = none) :
    ∀ o ∈ (x.answer call).1.outcomes, o.attempts other = false := by
  intro o ho
  rw [Bool.eq_false_iff]
  intro attempted
  have met := (x.answer_tables call).subset (List.mem_map_of_mem ho)
  obtain ⟨e, he, name⟩ := List.mem_map.1 met
  have passes := List.find?_eq_none.1 unknown e he
  rw [o.table_of_attempts attempted] at name
  exact passes (decide_eq_true name)

theorem unattempted_of_skips {call : Call MemoryStore}
    (distinct : (Trimmer.names x.trimmer.entries).Nodup)
    (skipped : (x.answer call).1.Skips other) :
    ∀ o ∈ (x.answer call).1.outcomes, o.attempts other = false := by
  intro o ho
  rw [Bool.eq_false_iff]
  intro attempted
  obtain ⟨path, met⟩ := skipped
  have once := distinct.sublist (x.answer_tables call)
  have same := List.inj_on_of_nodup_map once ho met (o.table_of_attempts attempted)
  rw [same] at attempted
  cases attempted

theorem unattempted_of_trimTable (x : Session MemoryStore) (differ : other ≠ name)
    (trimHeight : Height) :
    ∀ o ∈ (x.answer (.trimTable name trimHeight)).1.outcomes, o.attempts other = false := by
  intro o ho
  simp only [answer, Trimmer.trimTable] at ho
  cases found : x.trimmer.find? name with
  | none =>
      rw [found] at ho
      cases ho
  | some e =>
      rw [found] at ho
      rw [List.mem_singleton.1 ho]
      exact decide_eq_false fun same => differ (same.symm.trans (Trimmer.name_of_find? found))

/-- What calls say about a table, and what they leave of it, depends on the settings and on the table
    alone: other tables may hold anything, be registered in any way and number, or be missing from the
    store, so that their attempts fail. And a call changes no table that is not registered or, as each
    name is registered once, not due; one that names a table changes no other. -/
theorem tables_isolated (x : Session MemoryStore) :
    (∀ (name : String) (y : Session MemoryStore), x.AlikeAt name y →
      ∀ calls : List (Call MemoryStore), (∀ call ∈ calls, call.Trims) →
        shown name (x.run calls).1 = shown name (y.run calls).1 ∧
          AlikeAt name (x.run calls).2 (y.run calls).2) ∧
    (∀ call : Call MemoryStore, call.Trims → ∀ other : String,
      (x.trimmer.find? other = none ∨
        (Trimmer.names x.trimmer.entries).Nodup ∧ (x.answer call).1.Skips other) →
      (x.answer call).2.store.tables.get? other = x.store.tables.get? other) ∧
    ∀ (name : String) (trimHeight : Height) (other : String), other ≠ name →
      (x.answer (.trimTable name trimHeight)).2.store.tables.get? other =
        x.store.tables.get? other := by
  refine ⟨?_, ?_, ?_⟩
  · intro name y alike calls trims
    exact calls_alike calls trims alike
  · rintro call trims other (unknown | ⟨distinct, skipped⟩)
    · exact x.answer_unattempted trims (unattempted_of_unregistered call unknown)
    · exact x.answer_unattempted trims (unattempted_of_skips distinct skipped)
  · intro name trimHeight other differ
    exact x.answer_unattempted trivial (x.unattempted_of_trimTable differ trimHeight)

open MemoryStore (accounts accountHistory accountStore columnTypes untroubled_accountStore)

/-- A trimmer of accounts alone. -/
def accountsAlone : Session MemoryStore where
  trimmer := { Trimmer.withMetrics { depth := 4 } {} with
    entries := [⟨accounts, .unavailable (.noCandidateIndex "id"), 0⟩] }
  store := accountStore

/-- Accounts between a table that the store does not have, one that is due at every second trim and
    one that is not registered. -/
def accountsAmongOthers : Session MemoryStore where
  trimmer := { Trimmer.withMetrics { depth := 4, frequency := ⟨[("token", 2)]⟩ } {} with
    entries :=
      [⟨{ accounts with name := "ghost" }, .available "ghost_id", 0⟩,
        ⟨accounts, .unavailable (.noCandidateIndex "id"), 1⟩,
        ⟨{ accounts with name := "token" }, .available "token_id", 2⟩] }
  store := { tables := ⟨["token", "account", "order"].map fun name =>
    (name, ⟨columnTypes accounts, [], accountHistory⟩)⟩ }

theorem tables_isolated_accounts :
    let calls : List (Call MemoryStore) := [.trim 10, .trimTable "ghost" 3, .trim 12]
    let x := accountsAmongOthers
    accountsAlone.AlikeAt "account" x ∧ (∀ call ∈ calls, call.Trims) ∧
      shown "account" (accountsAlone.run calls).1 = shown "account" (x.run calls).1 ∧
      (x.answer (.trim 10)).1.errors = 1 ∧ (x.answer (.trim 10)).1.Skips "token" ∧
      (x.answer (.trim 10)).2.store.tables.get? "token" = x.store.tables.get? "token" ∧
      x.trimmer.find? "order" = none ∧
      (x.answer (.trim 10)).2.store.tables.get? "order" = x.store.tables.get? "order" ∧
      (x.answer (.trimTable "account" 6)).2.store.tables.get? "token" =
        x.store.tables.get? "token" := by
  intro calls x
  have alike : accountsAlone.AlikeAt "account" x := by
    refine ⟨⟨rfl, rfl, rfl, rfl, rfl, rfl⟩, rfl, untroubled_accountStore, ?_⟩
    intro n arranged
    cases arranged
  have trims : ∀ call ∈ calls, call.Trims := by
    simp only [calls, List.forall_mem_cons, Call.Trims, true_and]
    exact List.forall_mem_nil _
  have skipped : (x.answer (.trim 10)).1.Skips "token" := ⟨_, .tail _ (.tail _ (.head _))⟩
  have unknown : x.trimmer.find? "order" = none := by decide
  have distinct : (Trimmer.names x.trimmer.entries).Nodup := by decide
  have ghostFails : (x.answer (.trim 10)).1.errors = 1 := by decide +kernel
  obtain ⟨same, -, -⟩ := accountsAlone.tables_isolated
  obtain ⟨-, untouched, single⟩ := x.tables_isolated
  exact ⟨alike, trims, (same _ x alike calls trims).1, ghostFails, skipped,
    untouched (.trim 10) trivial "token" (.inr ⟨distinct, skipped⟩), unknown,
    untouched (.trim 10) trivial "order" (.inl unknown), single "account" 6 "token" (by decide)⟩

end Session

end HistoryTrim
