import HistoryTrim.Proofs.Alike
import HistoryTrim.Proofs.Throttling

/-! # Every n-th opportunity

The counter of a table is what its opportunities leave when they are divided by its multiplier, so it stays
below the multiplier and an offer never wraps it around. Offers to other tables do not touch it. Nor do
the calls of a trimmer, but for the trims that find the table registered; what a due attempt comes to is
not asked.
-/

namespace HistoryTrim

/-- At which opportunities a table is due: every one, every second one and so on. -/
def Dictionary.every (multipliers : Dictionary UInt32) (name : String) : Nat :=
  max ((multipliers.get? name).elim 1 UInt32.toNat) 1

theorem Dictionary.every_pos (multipliers : Dictionary UInt32) (name : String) :
    0 < multipliers.every name := Nat.le_max_right _ 1

theorem succ_mod_cases (n : Nat) {m : Nat} (positive : 0 < m) :
    n % m + 1 = m ∧ m ∣ n + 1 ∨ n % m + 1 < m ∧ (n + 1) % m = n % m + 1 := by
  have parts := Nat.div_add_mod n m
  rcases Nat.lt_or_eq_of_le (Nat.mod_lt n positive) with inside | last
  · refine .inr ⟨inside, ?_⟩
    have next : n + 1 = m * (n / m) + (n % m + 1) := by omega
    rw [next, Nat.mul_add_mod, Nat.mod_eq_of_lt inside]
  · have next : n + 1 = m * (n / m) + m := by omega
    exact .inl ⟨last, next ▸ Nat.dvd_add (Nat.dvd_mul_right m _) (Nat.dvd_refl m)⟩

theorem count_cons_name (name table : String) (tables : List String) :
    (table :: tables).count name = (if name = table then 1 else 0) + tables.count name := by
  by_cases same : name = table
  · rw [same, List.count_cons_self, if_pos rfl, Nat.add_comm]
  · rw [List.count_cons_of_ne fun same' => same same'.symm, if_neg same, Nat.zero_add]

namespace Scheduler

variable {s : Scheduler} {multipliers : Dictionary UInt32} {n : String → Nat} {name other : String}

/-- The answers to opportunities that are offered one after the other. -/
def offers (s : Scheduler) : List String → List Bool × Scheduler
  | [] => ([], s)
  | table :: tables =>
    let first := s.offer table
    let rest := first.2.offers tables
    (first.1 :: rest.1, rest.2)

theorem offers_append (s : Scheduler) (front back : List String) :
    s.offers (front ++ back) =
      ((s.offers front).1 ++ ((s.offers front).2.offers back).1, ((s.offers front).2.offers back).2) := by
  induction front generalizing s with
  | nil => rfl
  | cons table tables ih => simp only [List.cons_append, offers, ih]

theorem length_offers (s : Scheduler) (names : List String) : (s.offers names).1.length = names.length := by
  induction names generalizing s with
  | nil => rfl
  | cons table tables ih => exact congrArg (· + 1) (ih _)

theorem toNat_multiplier (s : Scheduler) (name : String) :
    (s.multiplier name).toNat = s.multipliers.every name := by
  unfold multiplier Dictionary.every
  cases s.multipliers.get? name with
  | none => rfl
  | some m =>
      by_cases zero : m = 0
      · subst zero
        rfl
      · have positive : 0 < m.toNat := Nat.pos_of_ne_zero fun same => zero (UInt32.toNat_inj.1 same)
        simp only [if_neg zero, Option.elim_some, Nat.max_eq_left positive]

theorem counter_offer_self (s : Scheduler) (table : String) :
    (s.offer table).2.counter table =
      if s.multiplier table ≤ s.counter table + 1 then 0 else s.counter table + 1 := by
  simp only [offer]
  split <;> simp only [counter, Dictionary.get?_put, if_true, Option.getD_some]

/-- So many opportunities have passed for each table since the scheduler was made. -/
structure Passed (multipliers : Dictionary UInt32) (n : String → Nat) (s : Scheduler) : Prop where
  made : s.multipliers = multipliers
  counted : s.counters.names.Nodup
  counter : ∀ name, (s.counter name).toNat = n name % multipliers.every name

theorem passed_ofMultipliers (multipliers : Dictionary UInt32) :
    (ofMultipliers multipliers).Passed multipliers fun _ => 0 where
  made := rfl
  counted := .nil
  counter _ := (Nat.zero_mod _).symm

namespace Passed

theorem congr {n' : String → Nat} (passed : s.Passed multipliers n) (same : ∀ name, n name = n' name) :
    s.Passed multipliers n' :=
  funext same ▸ passed

theorem counter_lt (passed : s.Passed multipliers n) (name : String) :
    (s.counter name).toNat < multipliers.every name := by
  rw [passed.counter]
  exact Nat.mod_lt _ (multipliers.every_pos name)

/-- The next opportunity does not wrap a counter around. -/
theorem toNat_counter_succ (passed : s.Passed multipliers n) (name : String) :
    (s.counter name + 1).toNat = (s.counter name).toNat + 1 := by
  have below := passed.counter_lt name
  rw [← passed.made, ← toNat_multiplier] at below
  have small := (s.multiplier name).toNat_lt
  rw [UInt32.toNat_add]
  exact Nat.mod_eq_of_lt (by rw [UInt32.toNat_one]; omega)

theorem le_counter_iff (passed : s.Passed multipliers n) (name : String) :
    s.multiplier name ≤ s.counter name + 1 ↔
      multipliers.every name ≤ n name % multipliers.every name + 1 := by
  rw [UInt32.le_iff_toNat_le, toNat_multiplier, passed.toNat_counter_succ, passed.counter,
    passed.made]

/-- A table is due whenever its opportunities fill another period. -/
theorem isDue_iff (passed : s.Passed multipliers n) (name : String) :
    (s.offer name).1 = true ↔ multipliers.every name ∣ n name + 1 := by
  have due : (s.offer name).1 = true ↔ s.multiplier name ≤ s.counter name + 1 := by
    simp only [Scheduler.offer]
    split <;> simp [*]
  rw [due, passed.le_counter_iff]
  rcases succ_mod_cases (n name) (multipliers.every_pos name) with
    ⟨last, divides⟩ | ⟨inside, next⟩
  · exact ⟨fun _ => divides, fun _ => Nat.le_of_eq last.symm⟩
  · constructor
    · intro full
      omega
    · intro divides
      rw [Nat.mod_eq_zero_of_dvd divides] at next
      cases next

theorem offer (passed : s.Passed multipliers n) (name : String) :
    (s.offer name).2.Passed multipliers fun other => n other + if other = name then 1 else 0 where
  made := by
    rw [← passed.made]
    simp only [Scheduler.offer]
    split <;> rfl
  counted := by
    simp only [Scheduler.offer]
    split <;> exact Dictionary.nodup_put passed.counted _ _
  counter other := by
    by_cases same : other = name
    · subst same
      rw [if_pos rfl, counter_offer_self]
      have full := passed.le_counter_iff other
      rcases succ_mod_cases (n other) (multipliers.every_pos other) with
        ⟨last, divides⟩ | ⟨inside, after⟩
      · rw [if_pos (full.2 (Nat.le_of_eq last.symm)), Nat.mod_eq_zero_of_dvd divides]
        rfl
      · rw [if_neg fun due => Nat.not_le.2 inside (full.1 due), after, passed.toNat_counter_succ,
          passed.counter]
    · rw [if_neg same, Nat.add_zero, counter_offer s same, passed.counter]

theorem offers (passed : s.Passed multipliers n) (names : List String) :
    (s.offers names).2.Passed multipliers fun name => n name + names.count name := by
  induction names generalizing s n with
  | nil => exact passed
  | cons table tables ih =>
      refine (ih (passed.offer table)).congr fun name => ?_
      rw [count_cons_name, Nat.add_assoc]

end Passed

end Scheduler

namespace Trimmer

variable {σ : Type} [VersionStore σ] {t : Trimmer} {s : σ} {es : List Entry} {name : String}
  {multipliers : Dictionary UInt32} {n : String → Nat} {trimHeight : Height}

theorem attempts_opportunity (t : Trimmer) (s : σ) (e : Entry) (trimHeight : Height) :
    (t.opportunity s e trimHeight).1.attempts e.table.name = (t.scheduler.offer e.table.name).1 := by
  cases due : t.isDue e.table.name with
  | false =>
      simp only [opportunity, due, Bool.false_eq_true, if_false, Outcome.attempts]
      exact due.symm
  | true =>
      simp only [opportunity, due, if_true, Outcome.attempts, decide_true]
      exact due.symm

theorem passed_opportunity (passed : t.scheduler.Passed multipliers n) (s : σ) (e : Entry)
    (trimHeight : Height) :
    (t.opportunity s e trimHeight).2.1.scheduler.Passed multipliers fun name =>
      n name + if name = e.table.name then 1 else 0 := by
  rw [scheduler_opportunity]
  exact passed.offer e.table.name

theorem passed_runEntries (passed : t.scheduler.Passed multipliers n) (es : List Entry) (s : σ) :
    (runEntries trimHeight es t s).2.1.scheduler.Passed multipliers fun name =>
      n name + (names es).count name := by
  induction es generalizing t s n with
  | nil => exact passed
  | cons e es ih =>
      rw [runEntries_cons]
      refine (ih (passed_opportunity passed s e trimHeight) _).congr fun name => ?_
      have first : (names (e :: es)).count name = _ := count_cons_name name e.table.name (names es)
      rw [first, Nat.add_assoc]

theorem runEntries_due (trimHeight : Height) (distinct : (names es).Nodup) (listed : name ∈ names es)
    (passed : t.scheduler.Passed multipliers n) (s : σ) :
    ∃ outcome, (runEntries trimHeight es t s).1.filter (fun o => o.table = name) = [outcome] ∧
      (outcome.attempts name = true ↔ multipliers.every name ∣ n name + 1) := by
  induction es generalizing t s n with
  | nil => cases listed
  | cons e es ih =>
      obtain ⟨new, rest⟩ := List.nodup_cons.1 distinct
      have table := t.table_opportunity s e trimHeight
      rw [runEntries_cons, List.filter_cons, table]
      by_cases here : e.table.name = name
      · have later : (runEntries trimHeight es (t.opportunity s e trimHeight).2.1
            (t.opportunity s e trimHeight).2.2).1.filter (fun o => o.table = name) = [] := by
          refine List.filter_eq_nil_iff.2 fun o ho same => new ?_
          have known := List.mem_map_of_mem (f := Outcome.table) ho
          rw [tables_runEntries, of_decide_eq_true same, ← here] at known
          exact known
        rw [later, if_pos (decide_eq_true here)]
        refine ⟨_, rfl, ?_⟩
        rw [← here, attempts_opportunity, passed.isDue_iff]
      · have elsewhere : name ≠ e.table.name := fun same => here same.symm
        have below := (List.mem_cons.1 listed).resolve_left elsewhere
        obtain ⟨outcome, only, due⟩ := ih rest below (passed_opportunity passed s e trimHeight)
          (t.opportunity s e trimHeight).2.2
        rw [if_neg elsewhere, Nat.add_zero] at due
        exact ⟨outcome, by simpa [here] using only, due⟩

end Trimmer

namespace Call

variable {σ : Type}

/-- The call is a trim of all registered tables, at a height that is known. -/
def offers : Call σ → Bool
  | trim _ => true
  | trimFrom source => source.current.isOk
  | register _ | trimTable .. | change _ => false

/-- The call registers a table of the name, and its definition is usable. -/
def lists (name : String) : Call σ → Bool
  | register table => table.name = name && table.validate.isOk
  | trim _ | trimFrom _ | trimTable .. | change _ => false

/-- The opportunities of a table: the trims since it was first registered. -/
def opportunities (name : String) : List (Call σ) → Nat
  | [] => 0
  | call :: calls => if call.lists name then calls.countP offers else opportunities name calls

end Call

namespace Session

variable {σ : Type} [VersionStore σ] {x : Session σ} {name : String} {multipliers : Dictionary UInt32}
  {n : String → Nat}

theorem answer_offers (x : Session σ) {call : Call σ} (trims : call.offers = true) :
    ∃ trimHeight, x.answer call = (.ran (x.trimmer.run x.store trimHeight).1,
      ⟨(x.trimmer.run x.store trimHeight).2.1, (x.trimmer.run x.store trimHeight).2.2⟩) := by
  cases call with
  | register | trimTable | change => cases trims
  | trim current => exact ⟨_, rfl⟩
  | trimFrom source =>
      cases known : source.current with
      | error e =>
          rw [Call.offers, known] at trims
          cases trims
      | ok current =>
          simp only [answer, Trimmer.trimFrom, known]
          exact ⟨_, rfl⟩

theorem scheduler_answer (x : Session σ) {call : Call σ} (other : call.offers = false) :
    (x.answer call).2.trimmer.scheduler = x.trimmer.scheduler := by
  cases call with
  | register table =>
      cases valid : table.validate with
      | error cause => rw [x.answer_register_invalid valid]
      | ok => rw [x.answer_register valid]
  | trim current => cases other
  | trimFrom source =>
      cases known : source.current with
      | error e => simp only [answer, Trimmer.trimFrom, known]
      | ok current =>
          rw [Call.offers, known] at other
          cases other
  | trimTable table trimHeight =>
      simp only [answer, Trimmer.trimTable]
      cases x.trimmer.find? table <;> rfl
  | change f => rfl

theorem mem_names_answer (x : Session σ) (name : String) (call : Call σ) :
    name ∈ Trimmer.names (x.answer call).2.trimmer.entries ↔
      name ∈ Trimmer.names x.trimmer.entries ∨ call.lists name = true := by
  cases call with
  | register table =>
      cases valid : table.validate with
      | error cause =>
          simp [x.answer_register_invalid valid, Call.lists, valid, Except.isOk, Except.toBool]
      | ok =>
          rw [x.answer_register valid, Trimmer.names_eq, Trimmer.names_eq, Trimmer.map_listed_install,
            Dictionary.map_fst_putEntry]
          simp only [Call.lists, valid, Except.isOk, Except.toBool, Bool.and_true, decide_eq_true_eq]
          split
          next known => exact (or_iff_left_of_imp fun same => same ▸ known).symm
          next => rw [List.mem_append, List.mem_singleton, eq_comm]
  | trim | trimFrom | trimTable | change =>
      rw [x.entries_answer (fun _ made => by cases made)]
      exact (or_iff_left Bool.false_ne_true).symm

theorem passed_answer (distinct : (Trimmer.names x.trimmer.entries).Nodup)
    (passed : x.trimmer.scheduler.Passed multipliers n) (call : Call σ) :
    (x.answer call).2.trimmer.scheduler.Passed multipliers fun name =>
      n name + if name ∈ Trimmer.names x.trimmer.entries ∧ call.offers = true then 1 else 0 := by
  cases trims : call.offers with
  | false =>
      rw [scheduler_answer x trims]
      exact passed.congr fun name => by simp
  | true =>
      obtain ⟨trimHeight, ran⟩ := x.answer_offers trims
      rw [ran]
      refine (Trimmer.passed_runEntries passed x.trimmer.entries x.store).congr fun name => ?_
      rw [distinct.count]
      simp

/-- Calls count as opportunities of a table while it is registered. -/
theorem passed_run (distinct : (Trimmer.names x.trimmer.entries).Nodup)
    (passed : x.trimmer.scheduler.Passed multipliers n) (calls : List (Call σ)) :
    (x.run calls).2.trimmer.scheduler.Passed multipliers fun name =>
      n name + if name ∈ Trimmer.names x.trimmer.entries then calls.countP Call.offers
        else Call.opportunities name calls := by
  induction calls generalizing x n with
  | nil => exact passed.congr fun name => by simp [Call.opportunities]
  | cons call calls ih =>
      have step := passed_answer distinct passed call
      refine (ih ((x.step_answer call).names distinct) step).congr fun name => ?_
      have entered := x.mem_names_answer name call
      rw [Call.opportunities, List.countP_cons]
      grind

theorem mem_names_run (x : Session σ) (name : String) (calls : List (Call σ)) :
    name ∈ Trimmer.names (x.run calls).2.trimmer.entries ↔
      name ∈ Trimmer.names x.trimmer.entries ∨ calls.any (Call.lists name) = true := by
  induction calls generalizing x with
  | nil => simp [run]
  | cons call calls ih =>
      have later := ih (x.answer call).2
      rw [mem_names_answer, or_assoc] at later
      rw [List.any_cons, Bool.or_eq_true]
      exact later

/-- Of the offers to a table every n-th one is taken, whatever other tables are offered in between; the
    counters stay below the multipliers, so none of them wraps around. A trimmer's table is offered what
    the trims since its first registration are, and no other call counts: whether it is registered again,
    trimmed by itself, or fails when it is due, every n-th of these trims attempts it. -/
theorem due_at_every_nth_opportunity (settings : TrimSettings) (metrics : Metrics) (store : σ) :
    let every := settings.frequency.every
    let fresh := Scheduler.ofMultipliers settings.frequency
    (∀ (before after : List String) (name : String),
      (fresh.offers (before ++ name :: after)).1[before.length]? =
        some (decide (every name ∣ before.count name + 1))) ∧
    (∀ (names : List String) (name : String) (count : UInt32),
      (name, count) ∈ (fresh.offers names).2.counters.entries →
        count.toNat < every name ∧ (count + 1).toNat = count.toNat + 1) ∧
    ∀ (calls : List (Call σ)) (name : String),
      let x := ((⟨.withMetrics settings metrics, store⟩ : Session σ).run calls).2
      let passed := Call.opportunities name calls
      (x.trimmer.scheduler.counter name).toNat = passed % every name ∧
      (∀ call, call.offers = true → calls.any (Call.lists name) = true →
        ∃ run outcome, (x.answer call).1 = .ran run ∧
          run.outcomes.filter (fun o => o.table = name) = [outcome] ∧
          (outcome.attempts name = true ↔ every name ∣ passed + 1)) ∧
      (∀ call, call.offers = true → calls.any (Call.lists name) = false →
        ∃ run, (x.answer call).1 = .ran run ∧ ∀ o ∈ run.outcomes, o.table ≠ name) ∧
      ∀ call, call.offers = false → (x.answer call).2.trimmer.scheduler = x.trimmer.scheduler := by
  intro every fresh
  have start : fresh.Passed settings.frequency fun _ => 0 := Scheduler.passed_ofMultipliers _
  refine ⟨fun before after name => ?_, fun names name count stored => ?_, fun calls name => ?_⟩
  · have due := (start.offers before).isDue_iff name
    rw [Nat.zero_add] at due
    rw [Scheduler.offers_append, List.getElem?_append_right (by rw [Scheduler.length_offers]),
      Scheduler.length_offers, Nat.sub_self]
    exact congrArg some (Bool.eq_iff_iff.2 (due.trans decide_eq_true_iff.symm))
  · have passed := start.offers names
    have here : (fresh.offers names).2.counter name = count := by
      rw [Scheduler.counter, (Dictionary.mem_entries_iff passed.counted).1 stored, Option.getD_some]
    rw [← here]
    exact ⟨passed.counter_lt name, passed.toNat_counter_succ name⟩
  · intro x passed
    let blank : Session σ := ⟨.withMetrics settings metrics, store⟩
    have empty : Trimmer.names blank.trimmer.entries = [] := rfl
    have distinct : (Trimmer.names x.trimmer.entries).Nodup :=
      names_run (x := blank) (empty ▸ .nil) calls
    have known : name ∈ Trimmer.names x.trimmer.entries ↔ calls.any (Call.lists name) = true := by
      have listed := blank.mem_names_run name calls
      rwa [empty, or_iff_right List.not_mem_nil] at listed
    have counts : x.trimmer.scheduler.Passed settings.frequency fun name =>
        Call.opportunities name calls :=
      (passed_run (x := blank) (empty ▸ .nil) start calls).congr fun name => by
        rw [empty, if_neg List.not_mem_nil, Nat.zero_add]
    refine ⟨counts.counter name, fun call trims listed => ?_, fun call trims unlisted => ?_, fun call =>
      scheduler_answer x⟩
    · obtain ⟨trimHeight, ran⟩ := x.answer_offers trims
      obtain ⟨outcome, only, due⟩ := Trimmer.runEntries_due trimHeight distinct
        (known.2 listed) counts x.store
      exact ⟨_, outcome, congrArg Prod.fst ran, only, due⟩
    · obtain ⟨trimHeight, ran⟩ := x.answer_offers trims
      refine ⟨_, congrArg Prod.fst ran, fun o ho same => ?_⟩
      have outcome := List.mem_map_of_mem (f := Outcome.table) ho
      have tables : (x.trimmer.run x.store trimHeight).1.outcomes.map Outcome.table =
        Trimmer.names x.trimmer.entries := Trimmer.tables_runEntries ..
      rw [tables, same, known, unlisted] at outcome
      cases outcome

open MemoryStore (accounts accountStore)

/-- Three trims find the table registered, so the next one is its fourth opportunity, though the second
    one failed, the table was registered again and was trimmed by itself. -/
theorem due_at_every_nth_opportunity_accounts :
    let settings : TrimSettings := { frequency := ⟨[("account", 2), ("rare", 4294967295)]⟩ }
    let calls : List (Call MemoryStore) := [.trim 10, .register accounts, .trim 12,
      .change fun s => s.failOnBatch 1, .trim 14, .register accounts, .trimTable "account" 6,
      .trimFrom ⟨.error (.unavailable "no height"), 4⟩, .trimFrom ⟨.ok 15, 4⟩]
    let x := ((⟨.withMetrics settings {}, accountStore⟩ : Session MemoryStore).run calls).2
    ((Scheduler.ofMultipliers settings.frequency).offers ["account", "rare", "account"]).1[2]? =
        some true ∧
      Call.opportunities "account" calls = 3 ∧
      (Call.trim 20 : Call MemoryStore).offers = true ∧ calls.any (Call.lists "account") = true ∧
      ∃ run outcome, (x.answer (.trim 20)).1 = .ran run ∧
        run.outcomes.filter (fun o => o.table = "account") = [outcome] ∧
        outcome.attempts "account" = true := by
  intro settings calls x
  obtain ⟨offers, -, trimmed⟩ := due_at_every_nth_opportunity settings {} accountStore
  obtain ⟨-, due, -⟩ := trimmed calls "account"
  have three : Call.opportunities "account" calls = 3 := by decide
  have listed : calls.any (Call.lists "account") = true := by decide
  obtain ⟨run, outcome, ran, only, attempts⟩ := due (.trim 20) rfl listed
  have second := offers ["account", "rare"] [] "account"
  rw [three] at attempts
  exact ⟨second.trans (by decide), three, rfl, listed, run, outcome, ran, only,
    attempts.2 (by decide)⟩

end Session

end HistoryTrim
