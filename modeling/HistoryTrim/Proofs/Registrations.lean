import HistoryTrim.Proofs.Sessions

/-! # Registrations

A name has one registration, the last one. It outlasts every call that does not renew it, and what any
later call attempts on the table is work on that registration.
-/

namespace HistoryTrim

/-- What was registered, and how it can be trimmed. -/
def Entry.registration (e : Entry) : Table × ScanOrder := (e.table, e.order)

/-- A call that registers nothing and leaves the trimmer alone with its store. -/
def Call.Trims {σ : Type} : Call σ → Prop
  | trim _ | trimFrom _ | trimTable .. => True
  | register _ | change _ => False

/-- The call registers a table of the name. -/
def Call.Renews {σ : Type} (name : String) : Call σ → Prop
  | register table => table.name = name
  | trim _ | trimFrom _ | trimTable .. | change _ => False

namespace Trimmer

variable {name : String} {table : Table} {order : ScanOrder} {es : List Entry}

/-- The registrations under a name. -/
def registrations (t : Trimmer) (name : String) : List (Table × ScanOrder) :=
  (t.entries.filter fun e => e.table.name = name).map Entry.registration

theorem mem_registrations {t : Trimmer} {e : Entry} (he : e ∈ t.entries) :
    e.registration ∈ t.registrations e.table.name :=
  List.mem_map_of_mem (List.mem_filter.2 ⟨he, decide_eq_true rfl⟩)

theorem filter_eq_nil (new : name ∉ names es) :
    (es.filter fun e => e.table.name = name) = [] := by
  refine List.filter_eq_nil_iff.2 fun e he same => new ?_
  rw [← of_decide_eq_true same]
  exact List.mem_map_of_mem he

theorem filter_install (distinct : (names es).Nodup) (table : Table) (order : ScanOrder)
    (lock : Nat) :
    ((install table order lock es).filter fun e => e.table.name = table.name).map
      Entry.registration = [(table, order)] := by
  induction es with
  | nil => simp [install, Entry.registration]
  | cons e es ih =>
      obtain ⟨new, rest⟩ := List.nodup_cons.1 distinct
      by_cases same : e.table.name = table.name
      · have absent : e.table.name ∉ names es := new
        rw [same] at absent
        have others := filter_eq_nil absent
        simp [install, same, others, Entry.registration]
      · simp only [install, same, if_false, List.filter_cons, decide_false, Bool.false_eq_true]
        exact ih rest

theorem filter_install_ne (differ : table.name ≠ name) (order : ScanOrder) (lock : Nat)
    (es : List Entry) :
    ((install table order lock es).filter fun e => e.table.name = name) =
      es.filter fun e => e.table.name = name := by
  induction es with
  | nil => simp [install, differ]
  | cons e es ih =>
      by_cases same : e.table.name = table.name
      · have other : e.table.name ≠ name := fun here => differ (same.symm.trans here)
        simp [install, same, differ]
      · simp only [install, same, if_false, List.filter_cons, ih]

section Runs

variable {σ : Type} [VersionStore σ] {trimHeight : Height}

theorem path_work (t : Trimmer) (s : σ) (e : Entry) (trimHeight : Height) :
    (t.work s e trimHeight).1.path = e.order.path := by
  unfold work
  cases e.order.path <;> rfl

theorem exists_work_of_attempted (es : List Entry) (t : Trimmer) (s : σ) {a : Attempt}
    (met : .attempted a ∈ (runEntries trimHeight es t s).1) :
    ∃ e ∈ es, ∃ (u : Trimmer) (r : σ), a = ⟨e.table.name, (u.work r e trimHeight).1⟩ := by
  induction es generalizing t s with
  | nil => cases met
  | cons e es ih =>
      rw [runEntries_cons] at met
      rcases List.mem_cons.1 met with first | later
      · refine ⟨e, List.mem_cons_self, t, s, ?_⟩
        unfold opportunity at first
        split at first
        · exact Outcome.attempted.inj first
        · cases first
      · obtain ⟨e', he', work⟩ := ih _ _ later
        exact ⟨e', List.mem_cons_of_mem _ he', work⟩

end Runs

end Trimmer

namespace Session

variable {σ : Type} [VersionStore σ] {x : Session σ} {name : String}

theorem names_run (distinct : (Trimmer.names x.trimmer.entries).Nodup) (calls : List (Call σ)) :
    (Trimmer.names (x.run calls).2.trimmer.entries).Nodup := by
  induction calls generalizing x with
  | nil => exact distinct
  | cons call calls ih => exact ih ((x.step_answer call).names distinct)

theorem answer_register (x : Session σ) {table : Table} (valid : table.validate = .ok ()) :
    x.answer (.register table) =
      let order := table.scanOrder (VersionStore.catalog x.store)
      let entries := Trimmer.install table order x.trimmer.entries.length x.trimmer.entries
      (.registered (.ok order), { x with trimmer := { x.trimmer with entries } }) := by
  simp only [answer, Trimmer.register, valid]

theorem answer_register_invalid (x : Session σ) {table : Table} {cause : DefinitionError}
    (invalid : table.validate = .error cause) :
    x.answer (.register table) = (.registered (.error (.invalidTable cause)), x) := by
  simp only [answer, Trimmer.register, invalid]

theorem registrations_register (distinct : (Trimmer.names x.trimmer.entries).Nodup) {table : Table}
    {order : ScanOrder} {x' : Session σ}
    (done : x.answer (.register table) = (.registered (.ok order), x')) :
    x'.trimmer.registrations table.name = [(table, order)] ∧ table.validate = .ok () ∧
      order = table.scanOrder (VersionStore.catalog x'.store) := by
  cases valid : table.validate with
  | error e =>
      simp only [answer, Trimmer.register, valid] at done
      cases done
  | ok =>
      rw [x.answer_register valid] at done
      cases done
      exact ⟨Trimmer.filter_install distinct .., rfl, rfl⟩

theorem entries_answer (x : Session σ) {call : Call σ} (other : ∀ table, call ≠ .register table) :
    (x.answer call).2.trimmer.entries = x.trimmer.entries := by
  have ran (trimHeight : Height) : (x.trimmer.run x.store trimHeight).2.1.entries =
      x.trimmer.entries := (Trimmer.runEntries_sameSetup _ x.trimmer x.store).entries
  cases call with
  | register table => exact absurd rfl (other table)
  | trim current => exact ran _
  | trimFrom source =>
      simp only [answer, Trimmer.trimFrom]
      cases source.current with
      | error e => rfl
      | ok current => exact ran _
  | trimTable name trimHeight =>
      simp only [answer, Trimmer.trimTable]
      cases x.trimmer.find? name <;> rfl
  | change f => rfl

theorem registrations_answer {call : Call σ} (keeps : ¬ call.Renews name) :
    (x.answer call).2.trimmer.registrations name = x.trimmer.registrations name := by
  cases call with
  | register table =>
      simp only [answer]
      split
      · rfl
      next done =>
        have other := Trimmer.filter_install_ne keeps
        rw [Trimmer.registrations, Trimmer.register_eq_ok done, other, Trimmer.registrations]
  | trim | trimFrom | trimTable | change =>
      rw [Trimmer.registrations, x.entries_answer (fun _ made => by cases made), Trimmer.registrations]

/-- A call has no outcome, or all registered tables have an opportunity at some trim height, or one of
    them has an attempt. -/
theorem answer_cases (x : Session σ) (call : Call σ) :
    ((x.answer call).1.outcomes = [] ∧ (call.Trims → (x.answer call).2 = x)) ∨
      (∃ trimHeight, x.answer call = (.ran (x.trimmer.run x.store trimHeight).1,
        ⟨(x.trimmer.run x.store trimHeight).2.1, (x.trimmer.run x.store trimHeight).2.2⟩)) ∨
      ∃ e ∈ x.trimmer.entries, ∃ trimHeight,
        x.answer call = (.single (x.trimmer.attempt x.store e trimHeight).1,
          ⟨(x.trimmer.attempt x.store e trimHeight).2.1,
            (x.trimmer.attempt x.store e trimHeight).2.2⟩) := by
  cases call with
  | register table =>
      refine .inl ⟨?_, False.elim⟩
      simp only [answer]
      split <;> rfl
  | change f => exact .inl ⟨rfl, False.elim⟩
  | trim current => exact .inr (.inl ⟨_, rfl⟩)
  | trimFrom source =>
      simp only [answer, Trimmer.trimFrom]
      cases source.current with
      | error e => exact .inl ⟨rfl, fun _ => rfl⟩
      | ok current => exact .inr (.inl ⟨_, rfl⟩)
  | trimTable name trimHeight =>
      simp only [answer, Trimmer.trimTable]
      cases found : x.trimmer.find? name with
      | none => exact .inl ⟨rfl, fun _ => rfl⟩
      | some e => exact .inr (.inr ⟨e, List.mem_of_find?_eq_some found, trimHeight, rfl⟩)

theorem exists_work_of_answer (x : Session σ) (call : Call σ) {a : Attempt}
    (met : .attempted a ∈ (x.answer call).1.outcomes) :
    ∃ e ∈ x.trimmer.entries, ∃ (t : Trimmer) (s : σ) (trimHeight : Height),
      a = ⟨e.table.name, (t.work s e trimHeight).1⟩ := by
  rcases x.answer_cases call with ⟨none, -⟩ | ⟨trimHeight, ran⟩ | ⟨e, he, trimHeight, single⟩
  · rw [none] at met
    cases met
  · rw [ran] at met
    obtain ⟨e, he, t, s, work⟩ := Trimmer.exists_work_of_attempted _ _ _ met
    exact ⟨e, he, t, s, trimHeight, work⟩
  · rw [single] at met
    have same := Outcome.attempted.inj (List.mem_singleton.1 met)
    exact ⟨e, he, x.trimmer, x.store, trimHeight, same⟩

/-- As long as a registration is not renewed, what is attempted on its table is work on it. -/
theorem exists_work_of_run {table : Table} {order : ScanOrder}
    (registered : x.trimmer.registrations table.name = [(table, order)]) (calls : List (Call σ))
    (keeps : ∀ call ∈ calls, ¬ call.Renews table.name) {a : Attempt}
    (met : .attempted a ∈ Exchange.outcomes (x.run calls).1) (own : a.table = table.name) :
    ∃ (e : Entry) (t : Trimmer) (s : σ) (trimHeight : Height), e.table = table ∧ e.order = order ∧
      a.work = (t.work s e trimHeight).1 := by
  induction calls generalizing x with
  | nil => cases met
  | cons call calls ih =>
      obtain ⟨first, others⟩ := List.forall_mem_cons.1 keeps
      simp only [run, Exchange.outcomes, List.flatMap_cons, List.mem_append] at met
      rcases met with now | later
      · obtain ⟨e, he, t, s, trimHeight, rfl⟩ := x.exists_work_of_answer call now
        have name : e.table.name = table.name := own
        have known := Trimmer.mem_registrations he
        rw [name, registered, List.mem_singleton] at known
        exact ⟨e, t, s, trimHeight, congrArg Prod.fst known, congrArg Prod.snd known, rfl⟩
      · exact ih ((registrations_answer first).trans registered) others later

end Session

end HistoryTrim
