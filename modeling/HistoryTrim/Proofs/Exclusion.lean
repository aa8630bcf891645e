import HistoryTrim.Proofs.Concurrency
import HistoryTrim.Proofs.OrderedTrim

/-! # Exclusion

Every registered name has a lock of its own, which a registration that takes its place inherits. So an
entry that a run took before shares the lock with the one that came after it, and of all calls at most
one at a time is at work on a table, whatever is registered meanwhile.
-/

namespace HistoryTrim

/-- What all registrations of one name have in common. -/
def Entry.place (e : Entry) : String × Nat := (e.table.name, e.lock)

namespace Trimmer

def places (es : List Entry) : List (String × Nat) := es.map Entry.place

theorem place_mem {e : Entry} {es : List Entry} (he : e ∈ es) : e.place ∈ places es :=
  List.mem_map_of_mem he

theorem map_fst_places (es : List Entry) : (places es).map Prod.fst = names es := by
  rw [places, List.map_map]
  rfl

theorem places_install (table : Table) (order : ScanOrder) (lock : Nat) (es : List Entry) :
    places (install table order lock es) =
      if table.name ∈ names es then places es else places es ++ [(table.name, lock)] := by
  induction es with
  | nil => rfl
  | cons e es ih =>
      by_cases same : e.table.name = table.name
      · simp [install, places, names, Entry.place, same]
      · have other : table.name ≠ e.table.name := fun same' => same same'.symm
        rw [places, names] at ih
        simp only [install, places, names, same, if_false, List.map_cons, ih, List.mem_cons, other,
          false_or]
        split <;> rfl

theorem places_prefix_install (table : Table) (order : ScanOrder) (lock : Nat) (es : List Entry) :
    places es <+: places (install table order lock es) := by
  rw [places_install]
  split
  · exact List.prefix_refl _
  · exact List.prefix_append _ _

/-- No name has two places, and locks are counted in the order of the places. -/
structure Numbered (places : List (String × Nat)) : Prop where
  names : (places.map Prod.fst).Nodup
  locks : places.map Prod.snd = List.range places.length

namespace Numbered

variable {places : List (String × Nat)}

theorem snoc (numbered : Numbered places) {name : String} (new : name ∉ places.map Prod.fst) :
    Numbered (places ++ [(name, places.length)]) where
  names := by
    rw [List.map_append, List.nodup_append]
    refine ⟨numbered.names, List.pairwise_singleton _ _, fun known old added here same => ?_⟩
    have added_eq : added = name := List.mem_singleton.1 here
    exact new (added_eq ▸ same ▸ old)
  locks := by
    rw [List.map_append, numbered.locks, List.length_append, List.length_singleton,
      List.range_succ]
    rfl

theorem install {es : List Entry} (numbered : Numbered (Trimmer.places es)) (table : Table)
    (order : ScanOrder) : Numbered (Trimmer.places (install table order es.length es)) := by
  rw [places_install]
  split
  · exact numbered
  next new =>
    rw [← map_fst_places] at new
    have length : es.length = (Trimmer.places es).length := (List.length_map _).symm
    exact length ▸ numbered.snoc new

theorem name_eq_iff (numbered : Numbered places) {a b : String × Nat} (ha : a ∈ places)
    (hb : b ∈ places) : a.1 = b.1 ↔ a.2 = b.2 := by
  have locks : (places.map Prod.snd).Nodup := numbered.locks ▸ List.nodup_range
  constructor
  · intro same
    rw [List.inj_on_of_nodup_map numbered.names ha hb same]
  · intro same
    rw [List.inj_on_of_nodup_map locks ha hb same]

end Numbered

end Trimmer

namespace Concurrency

open Trimmer (places Numbered)

theorem Stage.mem_entries_of_held? {stage : Stage} {e : Entry} (held : stage.held? = some e) :
    e ∈ stage.entries := by
  cases stage <;> cases held <;> exact List.mem_cons_self

namespace Errand

theorem entries_next (errand : Errand) (a : Attempt) : (errand.next a).entries = errand.pending := by
  cases errand <;> rfl

theorem held?_next (errand : Errand) (a : Attempt) : (errand.next a).held? = none := by
  cases errand <;> rfl

end Errand

variable {ι σ : Type} {x y : Shared ι σ} {i : ι}

namespace Shared

/-- The entry is registered, or a call still has it from earlier. -/
def Has (x : Shared ι σ) (e : Entry) : Prop :=
  e ∈ x.trimmer.entries ∨ ∃ i, e ∈ (x.stage i).entries

/-- Every entry that a call has taken stands for a place in the registry, and who is at work on an
    entry is the holder of its lock. -/
structure Sound (x : Shared ι σ) : Prop where
  numbered : Numbered (places x.trimmer.entries)
  taken : ∀ i, ∀ e ∈ (x.stage i).entries, e.place ∈ places x.trimmer.entries
  holds : ∀ i e, (x.stage i).held? = some e → x.holder e.lock = some i

theorem sound_start (settings : TrimSettings) (metrics : Metrics) (store : σ) :
    (start (.withMetrics settings metrics) store : Shared ι σ).Sound where
  numbered := ⟨.nil, rfl⟩
  taken _ _ none := by cases none
  holds _ _ none := by cases none

theorem Sound.place_mem (sound : x.Sound) {e : Entry} (has : x.Has e) :
    e.place ∈ places x.trimmer.entries := by
  rcases has with listed | ⟨i, taken⟩
  · exact Trimmer.place_mem listed
  · exact sound.taken i e taken

theorem Sound.install (sound : x.Sound) (table : Table) (order : ScanOrder) :
    let entries := Trimmer.install table order x.trimmer.entries.length x.trimmer.entries
    Sound { x with trimmer := { x.trimmer with entries } } where
  numbered := sound.numbered.install table order
  taken i e taken := (Trimmer.places_prefix_install ..).subset (sound.taken i e taken)
  holds := sound.holds

variable [DecidableEq ι]

/-- A call moves on, past no other call that holds a lock. -/
theorem Sound.move {stage : Stage} (sound : x.Sound) (entries : y.trimmer.entries = x.trimmer.entries)
    (stages : y.stage = Function.update x.stage i stage)
    (takes : ∀ e ∈ stage.entries, e ∈ x.trimmer.entries ∨ e ∈ (x.stage i).entries)
    (own : ∀ e, stage.held? = some e → y.holder e.lock = some i)
    (others : ∀ j lock, j ≠ i → x.holder lock = some j → y.holder lock = some j) : y.Sound where
  numbered := entries ▸ sound.numbered
  taken j e taken := by
    rw [stages] at taken
    rw [entries]
    by_cases same : j = i
    · subst same
      rw [Function.update_self] at taken
      exact sound.place_mem ((takes e taken).imp id fun before => ⟨j, before⟩)
    · rw [Function.update_of_ne same] at taken
      exact sound.taken j e taken
  holds j e held := by
    rw [stages] at held
    by_cases same : j = i
    · subst same
      rw [Function.update_self] at held
      exact own e held
    · rw [Function.update_of_ne same] at held
      exact others j e.lock same (sound.holds j e held)

/-- What a step of a call can do to registry and locks. -/
inductive Effect (x : Shared ι σ) (i : ι) : Shared ι σ → Prop where
  /-- Both stay as they are: the call goes on with entries that it has, or finds registered. -/
  | moves {y : Shared ι σ} {stage : Stage} (entries : y.trimmer.entries = x.trimmer.entries)
      (holder : y.holder = x.holder) (stages : y.stage = Function.update x.stage i stage)
      (takes : ∀ e ∈ stage.entries, e ∈ x.trimmer.entries ∨ e ∈ (x.stage i).entries)
      (held : stage.held? = (x.stage i).held?) : Effect x i y
  | installs (table : Table) (order : ScanOrder) : Effect x i
      ({ x with trimmer := { x.trimmer with
          entries := Trimmer.install table order x.trimmer.entries.length x.trimmer.entries } }.moveTo i
        (.answered (.registered (.ok order))))
  | acquires {e : Entry} {errand : Errand} (queued : x.stage i = .queued e errand)
      (free : x.holder e.lock = none) (selector : RowSelector) : Effect x i
      ({ x with holder := Function.update x.holder e.lock (some i) }.moveTo i
        (.trimming e errand selector []))
  | releases {e : Entry} {errand : Errand} {work : Work} (done : x.stage i = .trimmed e errand work) :
      Effect x i ({ x with holder := Function.update x.holder e.lock none }.moveTo i
        (errand.next ⟨e.table.name, work⟩))

namespace Effect

theorem idle {stage : Stage} (entries : y.trimmer.entries = x.trimmer.entries)
    (holder : y.holder = x.holder) (stages : y.stage = Function.update x.stage i stage)
    (empty : stage.entries = []) (free : stage.held? = none) (before : (x.stage i).held? = none) :
    Effect x i y :=
  .moves entries holder stages (fun _ he => absurd (empty ▸ he) List.not_mem_nil)
    (free.trans before.symm)

theorem places_grow (effect : Effect x i y) :
    places x.trimmer.entries <+: places y.trimmer.entries := by
  cases effect with
  | moves entries => exact entries ▸ List.prefix_refl _
  | installs => exact Trimmer.places_prefix_install ..
  | acquires | releases => exact List.prefix_refl _

theorem sound (effect : Effect x i y) (sound : x.Sound) : y.Sound := by
  cases effect with
  | moves entries holder stages takes held =>
      refine sound.move entries stages takes (fun e here => ?_) fun j lock _ holds => holder ▸ holds
      exact holder ▸ sound.holds i e (held ▸ here)
  | installs table order =>
      exact (sound.install table order).move rfl rfl (fun e he => absurd he List.not_mem_nil)
        (fun e held => by cases held) fun _ _ _ holds => holds
  | @acquires e errand queued free selector =>
      have taken : (x.stage i).entries = e :: errand.pending := by rw [queued]; rfl
      refine sound.move rfl rfl (fun e' he => .inr (taken ▸ he)) (fun e' held => ?_)
        fun j lock _ holds => ?_
      · cases held
        exact Function.update_self ..
      · have other : lock ≠ e.lock := by
          rintro rfl
          cases free.symm.trans holds
        exact (Function.update_of_ne other ..).trans holds
  | @releases e errand work done =>
      have taken : (x.stage i).entries = e :: errand.pending := by rw [done]; rfl
      have own : x.holder e.lock = some i := sound.holds i e (by rw [done]; rfl)
      refine sound.move rfl rfl (fun e' he => .inr ?_) (fun e' held => ?_)
        fun j lock differ holds => ?_
      · rw [taken]
        exact List.mem_cons_of_mem e (by rwa [errand.entries_next] at he)
      · rw [errand.held?_next] at held
        cases held
      · have other : lock ≠ e.lock := by
          rintro rfl
          exact differ (Option.some.inj (holds.symm.trans own))
        exact (Function.update_of_ne other ..).trans holds

end Effect

theorem Sound.abandon (sound : x.Sound) (i : ι) : (x.abandon i).Sound := by
  refine sound.move rfl rfl (fun e he => absurd he List.not_mem_nil) (fun e held => by cases held)
    fun j lock differ holds => ?_
  have other : x.holder lock ≠ some i := fun own =>
    differ (Option.some.inj (holds.symm.trans own))
  exact (if_neg other).trans holds

theorem effect_offer {trimHeight : Height} {pending : List Entry} {outcomes : List Outcome}
    (here : x.stage i = .offering trimHeight pending outcomes) :
    Effect x i (x.offer i trimHeight pending outcomes) := by
  have taken : (x.stage i).entries = pending := by rw [here]; rfl
  have free : (x.stage i).held? = none := by rw [here]; rfl
  cases pending with
  | nil => exact .idle rfl rfl rfl rfl rfl free
  | cons e es =>
      simp only [offer]
      split
      · exact .moves rfl rfl rfl (fun e' he => .inr (taken ▸ he)) free.symm
      · exact .moves rfl rfl rfl (fun e' he => .inr (taken ▸ List.mem_cons_of_mem e he)) free.symm

variable [VersionStore σ] {calls : ι → Call σ}

theorem effect_begin (waiting : x.stage i = .waiting) (call : Call σ) :
    Effect x i (x.begin i call) := by
  have free : (x.stage i).held? = none := by rw [waiting]; rfl
  have run (trimHeight : Height) :
      Effect x i (x.moveTo i (.offering trimHeight x.trimmer.entries [])) :=
    .moves rfl rfl rfl (fun e he => .inl he) free.symm
  cases call with
  | register table =>
      simp only [begin]
      cases table.validate with
      | error cause => exact .idle rfl rfl rfl rfl rfl free
      | ok => exact .idle rfl rfl rfl rfl rfl free
  | trim current => exact run _
  | trimFrom source =>
      simp only [begin]
      cases source.current with
      | error cause => exact .idle rfl rfl rfl rfl rfl free
      | ok current => exact run _
  | trimTable name trimHeight =>
      simp only [begin]
      cases found : x.trimmer.find? name with
      | none => exact .idle rfl rfl rfl rfl rfl free
      | some e =>
          refine .moves rfl rfl rfl (fun e' he => .inl ?_) free.symm
          obtain rfl : e' = e := List.mem_singleton.1 he
          exact List.mem_of_find?_eq_some found
  | change f => exact .idle rfl rfl rfl rfl rfl free

theorem effect_trim {e : Entry} {errand : Errand} {selector : RowSelector}
    {batches : List BatchRecord} (here : x.stage i = .trimming e errand selector batches) :
    Effect x i (x.trim i e errand selector batches) := by
  have taken : (x.stage i).entries = e :: errand.pending := by rw [here]; rfl
  have held : some e = (x.stage i).held? := by rw [here]; rfl
  have same (e' : Entry) (he : e' ∈ e :: errand.pending) :
      e' ∈ x.trimmer.entries ∨ e' ∈ (x.stage i).entries := .inr (taken ▸ he)
  unfold trim
  split
  · exact .moves rfl rfl rfl same held
  · simp only
    split
    · exact .moves rfl rfl rfl same held
    · split
      · exact .moves rfl rfl rfl same held
      · exact .moves rfl rfl rfl same held

theorem effect_step (step : x.step? calls i = some y) : Effect x i y := by
  cases here : x.stage i with
  | waiting =>
      simp only [step?, here, Option.some.injEq] at step
      exact step ▸ effect_begin here _
  | probing table columnType =>
      simp only [step?, here, Option.some.injEq] at step
      have free : (x.stage i).held? = none := by rw [here]; rfl
      exact step ▸ .idle rfl rfl rfl rfl rfl free
  | probed table order =>
      simp only [step?, here, Option.some.injEq] at step
      exact step ▸ .installs table order
  | offering trimHeight pending outcomes =>
      simp only [step?, here, Option.some.injEq] at step
      exact step ▸ effect_offer here
  | queued e errand =>
      simp only [step?, here] at step
      split at step
      next free =>
        cases step
        exact .acquires here free _
      · cases step
  | trimming e errand selector batches =>
      simp only [step?, here, Option.some.injEq] at step
      exact step ▸ effect_trim here
  | trimmed e errand work =>
      simp only [step?, here, Option.some.injEq] at step
      exact step ▸ .releases here
  | answered | abandoned =>
      simp only [step?, here, reduceCtorEq] at step

end Shared

variable [DecidableEq ι] [VersionStore σ] {calls : ι → Call σ}

namespace Reached

theorem sound (reached : Reached calls x y) (start : x.Sound) : y.Sound := by
  induction reached with
  | refl => exact start
  | tail _ turn ih =>
      cases turn with
      | proceed i step => exact (Shared.effect_step step).sound ih
      | abandon i => exact ih.abandon i

theorem places_grow (reached : Reached calls x y) :
    places x.trimmer.entries <+: places y.trimmer.entries := by
  induction reached with
  | refl => exact List.prefix_refl _
  | tail _ turn ih =>
      cases turn with
      | proceed i step => exact ih.trans (Shared.effect_step step).places_grow
      | abandon i => exact ih

end Reached

/-- The entry was registered, or a call still had it, at some time on the way. -/
def Existed (calls : ι → Call σ) (first now : Shared ι σ) (e : Entry) : Prop :=
  ∃ earlier, Reached calls first earlier ∧ Reached calls earlier now ∧ earlier.Has e

theorem Existed.place_mem {e : Entry} (existed : Existed calls x y e) (start : x.Sound) :
    e.place ∈ places y.trimmer.entries := by
  obtain ⟨earlier, before, after, has⟩ := existed
  exact after.places_grow.subset ((before.sound start).place_mem has)

/-- However calls to a new trimmer take turns, and whichever of them are given up: the entries that
    existed share a lock exactly if they share a name, no name is listed twice, and of all calls at most
    one is at work on a table. -/
theorem one_run_per_table (settings : TrimSettings) (metrics : Metrics) (store : σ)
    (calls : ι → Call σ) {now : Shared ι σ}
    (reached : Reached calls (.start (.withMetrics settings metrics) store) now) :
    let existed := Existed calls (.start (.withMetrics settings metrics) store) now
    (∀ e₁ e₂, existed e₁ → existed e₂ → (e₁.table.name = e₂.table.name ↔ e₁.lock = e₂.lock)) ∧
    (now.trimmer.tables.map Prod.fst).Nodup ∧
    ∀ i j e₁ e₂, (now.stage i).held? = some e₁ → (now.stage j).held? = some e₂ →
      e₁.table.name = e₂.table.name → i = j := by
  intro existed
  have start : Shared.Sound (.start (.withMetrics settings metrics) store : Shared ι σ) :=
    Shared.sound_start settings metrics store
  have sound := reached.sound start
  have has {i : ι} {e : Entry} (held : (now.stage i).held? = some e) : now.Has e :=
    .inr ⟨i, Stage.mem_entries_of_held? held⟩
  refine ⟨fun e₁ e₂ existed₁ existed₂ => ?_, ?_, fun i j e₁ e₂ held₁ held₂ same => ?_⟩
  · exact sound.numbered.name_eq_iff (existed₁.place_mem start) (existed₂.place_mem start)
  · have listed : now.trimmer.tables.map Prod.fst = Trimmer.names now.trimmer.entries :=
      List.map_map
    rw [listed, ← Trimmer.map_fst_places]
    exact sound.numbered.names
  · have locks : e₁.lock = e₂.lock :=
      (sound.numbered.name_eq_iff (sound.place_mem (has held₁)) (sound.place_mem (has held₂))).1 same
    have holder := sound.holds i e₁ held₁
    rw [locks, sound.holds j e₂ held₂] at holder
    exact (Option.some.inj holder).symm

open MemoryStore (accounts accountStore validate_accounts)

/-- Accounts with another key. -/
def renewedAccounts : Table := { accounts with keys := [⟨"account", .text⟩] }

/-- The accounts are registered and trimmed, and registered anew while the trim still goes on; the trim
    that is asked for after this has to wait. -/
def renewal : Fin 4 → Call MemoryStore
  | 0 => .register accounts
  | 1 => .trimTable "account" 6
  | 2 => .register renewedAccounts
  | 3 => .trimTable "account" 6

theorem one_run_per_table_renewed :
    let first : Shared (Fin 4) MemoryStore := .start (.withMetrics {} {}) accountStore
    ∃ now, Reached renewal first now ∧
      ∃ before after, (now.stage 1).held? = some before ∧ (now.stage 3).entries = [after] ∧
        now.step? renewal 3 = none ∧
        before.table = accounts ∧ after.table = renewedAccounts ∧ before.lock = after.lock ∧
        ∀ i e, (now.stage i).held? = some e → e.table.name = "account" → i = 1 := by
  intro first
  have registers := Reached.registered renewal (x := first) (i := 0) rfl rfl validate_accounts
  have begins := registers.tail (.proceed 1 rfl)
  have acquires := begins.tail (.proceed 1 rfl)
  have renews := acquires.trans (Reached.registered renewal (i := 2) rfl rfl (by decide))
  have waits := renews.tail (.proceed 3 rfl)
  obtain ⟨locks, -, alone⟩ := one_run_per_table {} {} accountStore renewal waits
  refine ⟨_, waits, _, _, rfl, rfl, rfl, rfl, rfl, ?_, fun i e held name => ?_⟩
  · exact (locks _ _ ⟨_, waits, .refl, .inr ⟨1, List.mem_cons_self⟩⟩
      ⟨_, waits, .refl, .inr ⟨3, List.mem_cons_self⟩⟩).1 rfl
  · exact alone i 1 e _ held rfl name

end Concurrency

end HistoryTrim
