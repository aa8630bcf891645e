import HistoryTrim.Proofs.OrderedTrim
import Mathlib.Logic.Function.Basic
import Mathlib.Logic.Relation

/-! # Trims that run at the same time

Any number of trims of one table take turns: a run of batches gives way after every batch and may be
given up there, a trim without an order is one step. They may follow rules of different heights, as
long as one height is retained. However the turns fall, the trim of greatest height decides what is
left: the others take nothing that it keeps, and do not make it leave more behind.
-/

namespace HistoryTrim.Interleaving

open VersionStore (runBatches runBatches_induct trimOrdered)
open MemoryStore (accounts accountHistory accountStore)

/-- How a trim goes over its table. -/
inductive Method where
  /-- In batches, along the scan order. -/
  | batches (size : Option BatchSize)
  /-- In one step that needs no order. -/
  | atOnce

structure Participant where
  rule : RetentionRule
  method : Method

/-- How far a trim has come. -/
inductive Stage where
  /-- It goes on with this selector. -/
  | underway (selector : RowSelector)
  | finished
  /-- It was given up, or a batch failed. -/
  | abandoned

def Stage.ofFailure : Option StoreError → Stage
  | none => .finished
  | some _ => .abandoned

/-- A store and the stages of all trims. -/
structure Situation (ι : Type) where
  store : MemoryStore
  stage : ι → Stage

/-- The next step of a trim: the store after it, and how far it comes. -/
def Participant.step (p : Participant) (t : Table) (s : MemoryStore) (selector : RowSelector) :
    MemoryStore × Stage :=
  match p.method with
  | .batches size =>
    let batch := s.deleteBatch t selector.restartGroup (size.map BatchSize.rows)
    match batch.outcome with
    | .error _ => (batch.store, .abandoned)
    | .ok deleted =>
      (batch.store, if size.any (·.rows ≤ deleted) then .underway batch.selector else .finished)
  | .atOnce =>
    match s.trimUnordered t p.rule with
    | (.error _, s) => (s, .abandoned)
    | (.ok _, s) => (s, .finished)

theorem Participant.step_failed {p : Participant} {size : Option BatchSize} {t : Table}
    {s : MemoryStore} {selector : RowSelector} {e : StoreError} (method : p.method = .batches size)
    (failed : (s.deleteBatch t selector.restartGroup (size.map BatchSize.rows)).outcome = .error e) :
    p.step t s selector =
      ((s.deleteBatch t selector.restartGroup (size.map BatchSize.rows)).store, .abandoned) := by
  simp only [step, method, failed]

theorem Participant.step_done {p : Participant} {size : Option BatchSize} {t : Table}
    {s : MemoryStore} {selector : RowSelector} {deleted : Nat} (method : p.method = .batches size)
    (done : (s.deleteBatch t selector.restartGroup (size.map BatchSize.rows)).outcome = .ok deleted) :
    p.step t s selector =
      ((s.deleteBatch t selector.restartGroup (size.map BatchSize.rows)).store,
        if size.any (·.rows ≤ deleted) then
          .underway (s.deleteBatch t selector.restartGroup (size.map BatchSize.rows)).selector
        else .finished) := by
  simp only [step, method, done]

variable {ι : Type}

def Situation.begin (s : MemoryStore) (trims : ι → Participant) : Situation ι where
  store := s
  stage i := .underway (RowSelector.start (trims i).rule)

def Situation.proceed [DecidableEq ι] (now : Situation ι) (t : Table) (trims : ι → Participant)
    (i : ι) (selector : RowSelector) : Situation ι where
  store := ((trims i).step t now.store selector).1
  stage := Function.update now.stage i ((trims i).step t now.store selector).2

def Situation.abandon [DecidableEq ι] (now : Situation ι) (i : ι) : Situation ι where
  store := now.store
  stage := Function.update now.stage i .abandoned

/-- One of the trims that are underway takes a turn, or is given up. -/
inductive Turn [DecidableEq ι] (t : Table) (trims : ι → Participant) :
    Situation ι → Situation ι → Prop where
  | proceed {now : Situation ι} (i : ι) {selector : RowSelector}
      (underway : now.stage i = .underway selector) :
      Turn t trims now (now.proceed t trims i selector)
  | abandon {now : Situation ι} (i : ι) {selector : RowSelector}
      (underway : now.stage i = .underway selector) : Turn t trims now (now.abandon i)

/-- What can come about when trims take turns. -/
abbrev Reached [DecidableEq ι] (t : Table) (trims : ι → Participant) :
    Situation ι → Situation ι → Prop :=
  Relation.ReflTransGen (Turn t trims)

/-- A run of batches is what a trim does whose turns follow one another. -/
theorem reached_runBatches [DecidableEq ι] {t : Table} {trims : ι → Participant} {i : ι}
    {size : Option BatchSize} (method : (trims i).method = .batches size) (now : Situation ι)
    {selector : RowSelector} (underway : now.stage i = .underway selector) :
    Reached t trims now
      { store := (runBatches t size now.store selector).store
        stage := Function.update now.stage i
          (Stage.ofFailure (runBatches t size now.store selector).failure) } := by
  obtain ⟨s, stage⟩ := now
  have turn {s : MemoryStore} {stage : ι → Stage} {selector : RowSelector}
      (underway : stage i = .underway selector) :
      Turn t trims ⟨s, stage⟩ (Situation.proceed ⟨s, stage⟩ t trims i selector) :=
    .proceed i underway
  simp only [Situation.proceed] at turn underway ⊢
  induction s, selector using runBatches_induct (σ := MemoryStore) t size generalizing stage with
  | failed s selector e refused run =>
      have last := @turn s stage selector underway
      rw [Participant.step_failed method refused] at last
      rw [run]
      exact .single last
  | last s selector deleted done few run =>
      have last := @turn s stage selector underway
      rw [Participant.step_done method done, if_neg (VersionStore.not_any_of_few few)] at last
      rw [run]
      exact .single last
  | full s selector n deleted sized done enough run ih =>
      subst sized
      have next := @turn s stage selector underway
      rw [Participant.step_done method done, if_pos (by simpa using enough)] at next
      have rest := ih _ (Function.update_self i (.underway _) stage)
      rw [Function.update_idem] at rest
      rw [run]
      exact .head next rest

/-! ## The invariant

The trim at the greatest height, the bound, is on its way whoever takes a turn. A trim that follows
the bound itself has moreover settled everything behind its marker, and others cannot unsettle it.
-/

variable {t : Table} {trims : ι → Participant} {bound : RetentionRule} {start h h' : History}

/-- What a trim under a rule can count on at a stage, all trims having started on one history. -/
def Stage.Sound (bound rule : RetentionRule) (start h : History) : Stage → Prop
  | .underway selector =>
      selector.rule = rule ∧ (rule = bound → bound.Between start h selector.marker)
  | .finished => rule = bound → h = start.trimmed bound
  | .abandoned => True

/-- The trims have not done wrong so far, and the table holds this history. -/
structure Situation.Sound (t : Table) (trims : ι → Participant) (bound : RetentionRule)
    (start h : History) (now : Situation ι) : Prop where
  stored : now.store.history? t.name = some h
  partway : bound.Partway start h
  stages : ∀ i, (now.stage i).Sound bound (trims i).rule start h

theorem Stage.Sound.shrink {rule : RetentionRule} {stage : Stage}
    (sound : stage.Sound bound rule start h) (partway : bound.Partway start h')
    (sub : ∀ v ∈ h', v ∈ h) : stage.Sound bound rule start h' := by
  cases stage with
  | underway selector =>
      obtain ⟨follows, between⟩ := sound
      exact ⟨follows, fun isBound => (between isBound).shrink partway sub⟩
  | finished =>
      intro isBound
      refine partway.eq_trimmed fun v hv => ?_
      have kept : v ∈ start.trimmed bound := sound isBound ▸ sub v hv
      exact (RetentionRule.mem_trimmed.1 kept).2
  | abandoned => trivial

theorem Participant.step_batches {p : Participant} {size : Option BatchSize} {s : MemoryStore}
    {selector : RowSelector} (method : p.method = .batches size)
    (newestOnly : start.LatestIsNewest) (retained : p.rule.retained = bound.retained)
    (height : p.rule.trimHeight ≤ bound.trimHeight) (stored : s.history? t.name = some h)
    (partway : bound.Partway start h)
    (sound : (Stage.underway selector).Sound bound p.rule start h) :
    ∃ h', (p.step t s selector).1.history? t.name = some h' ∧ bound.Partway start h' ∧
      (∀ v ∈ h', v ∈ h) ∧ (p.step t s selector).2.Sound bound p.rule start h' := by
  obtain ⟨follows, between⟩ := sound
  rcases MemoryStore.deleteBatch_restartGroup stored selector (size.map BatchSize.rows) with
    ⟨⟨e, failed⟩, untouched, -⟩ | ⟨deleted, h', done, left, batched, same, -⟩
  · rw [step_failed method failed]
    exact ⟨h, untouched, partway, fun v hv => hv, trivial⟩
  · rw [step_done method done]
    rw [follows] at batched same
    refine ⟨h', left, partway.step retained height batched.sub batched.gone, batched.sub, ?_⟩
    by_cases full : size.any (·.rows ≤ deleted)
    · rw [if_pos full]
      refine ⟨same, fun isBound => ?_⟩
      exact (between isBound).next newestOnly (isBound ▸ batched)
    · rw [if_neg full]
      intro isBound
      refine (between isBound).last newestOnly (isBound ▸ batched) fun n limited => ?_
      obtain ⟨b, rfl, rfl⟩ := Option.map_eq_some_iff.1 limited
      simpa using full

theorem Participant.step_atOnce {p : Participant} {s : MemoryStore} {selector : RowSelector}
    (method : p.method = .atOnce) (newestOnly : start.LatestIsNewest)
    (retained : p.rule.retained = bound.retained)
    (height : p.rule.trimHeight ≤ bound.trimHeight) (stored : s.history? t.name = some h)
    (partway : bound.Partway start h) :
    ∃ h', (p.step t s selector).1.history? t.name = some h' ∧ bound.Partway start h' ∧
      (∀ v ∈ h', v ∈ h) ∧ (p.step t s selector).2.Sound bound p.rule start h' := by
  obtain ⟨counted, left⟩ := MemoryStore.trimUnordered_eq stored p.rule
  have step : p.step t s selector = ((s.trimUnordered t p.rule).2, .finished) := by
    simp only [step, method]
    split
    next failed =>
      rw [failed] at counted
      cases counted
    next done => rw [done]
  have sub : ∀ v ∈ h.trimmed p.rule, v ∈ h := fun v hv => RetentionRule.mem_of_mem_trimmed hv
  have gone : ∀ v ∈ h, v ∉ h.trimmed p.rule → ¬ p.rule.Keeps h v := fun v hv gone =>
    RetentionRule.not_keeps_of_not_mem_trimmed hv gone
  rw [step]
  refine ⟨h.trimmed p.rule, left, partway.step retained height sub gone, sub, fun isBound => ?_⟩
  rw [isBound]
  exact partway.trimmed_eq newestOnly

theorem Situation.begin_sound {s : MemoryStore} (stored : s.history? t.name = some start) :
    (Situation.begin s trims).Sound t trims bound start start where
  stored := stored
  partway := .refl bound start
  stages _ := ⟨rfl, fun _ => .first (.refl bound start)⟩

variable [DecidableEq ι]

theorem Turn.sound {now next : Situation ι} (turn : Turn t trims now next)
    (newestOnly : start.LatestIsNewest)
    (retained : ∀ i, (trims i).rule.retained = bound.retained)
    (height : ∀ i, (trims i).rule.trimHeight ≤ bound.trimHeight)
    (sound : now.Sound t trims bound start h) : ∃ h', next.Sound t trims bound start h' := by
  obtain ⟨stored, partway, stages⟩ := sound
  cases turn with
  | @proceed i selector underway =>
      have own := stages i
      rw [underway] at own
      obtain ⟨h', stored', partway', sub, own'⟩ :
          ∃ h', ((trims i).step t now.store selector).1.history? t.name = some h' ∧
            bound.Partway start h' ∧ (∀ v ∈ h', v ∈ h) ∧
            ((trims i).step t now.store selector).2.Sound bound (trims i).rule start h' := by
        cases method : (trims i).method with
        | batches size =>
            exact Participant.step_batches method newestOnly (retained i) (height i) stored
              partway own
        | atOnce =>
            exact Participant.step_atOnce method newestOnly (retained i) (height i) stored partway
      refine ⟨h', stored', partway', fun j => ?_⟩
      by_cases same : j = i
      · subst same
        simpa [Situation.proceed] using own'
      · simpa [Situation.proceed, same] using (stages j).shrink partway' sub
  | @abandon i selector underway =>
      refine ⟨h, stored, partway, fun j => ?_⟩
      by_cases same : j = i
      · subst same
        simp [Situation.abandon, Stage.Sound]
      · simpa [Situation.abandon, same] using stages j

theorem Reached.sound {first now : Situation ι} (reached : Reached t trims first now)
    (newestOnly : start.LatestIsNewest)
    (retained : ∀ i, (trims i).rule.retained = bound.retained)
    (height : ∀ i, (trims i).rule.trimHeight ≤ bound.trimHeight)
    (sound : first.Sound t trims bound start h) : ∃ h', now.Sound t trims bound start h' := by
  induction reached with
  | refl => exact ⟨h, sound⟩
  | tail _ turn ih =>
      obtain ⟨h', sound'⟩ := ih
      exact turn.sound newestOnly retained height sound'

/-- However trims of one table fall between each other, at every point the table holds all that a
    single trim at the greatest height leaves, and nothing that it did not hold at first. Once a
    trim of that height has finished, the table holds exactly what the single trim leaves, whether
    the others go on, have finished or were given up. -/
theorem table_eq_trimmed {s : MemoryStore} {now : Situation ι} (bound : RetentionRule)
    (stored : s.history? t.name = some start) (newestOnly : start.LatestIsNewest)
    (retained : ∀ i, (trims i).rule.retained = bound.retained)
    (height : ∀ i, (trims i).rule.trimHeight ≤ bound.trimHeight)
    (reached : Reached t trims (Situation.begin s trims) now) :
    ∃ rest h : History,
      (s.trimUnordered t bound).2.history? t.name = some rest ∧
      (∀ size, (trimOrdered s t size bound).failure = none →
        (trimOrdered s t size bound).store.history? t.name = some rest) ∧
      now.store.history? t.name = some h ∧ (∀ v ∈ rest, v ∈ h) ∧ (∀ v ∈ h, v ∈ start) ∧
      ∀ i, (trims i).rule.trimHeight = bound.trimHeight → now.stage i = .finished → h = rest := by
  obtain ⟨h, stored', partway, stages⟩ :=
    reached.sound newestOnly retained height (Situation.begin_sound stored)
  refine ⟨start.trimmed bound, h, (MemoryStore.trimUnordered_eq stored bound).2, ?_, stored', ?_,
    partway.sub, ?_⟩
  · intro size
    exact MemoryStore.runBatches_eq_trimmed newestOnly stored (.first (.refl bound start))
  · intro v hv
    obtain ⟨there, keeps⟩ := RetentionRule.mem_trimmed.1 hv
    exact partway.kept v there keeps
  · intro i greatest finished
    have isBound : (trims i).rule = bound := RetentionRule.ext greatest (retained i)
    have sound := stages i
    rw [finished] at sound
    exact sound isBound

/-- Two trims of the accounts: one in small batches, and a higher one without an order. -/
def accountTrims : Bool → Participant
  | false => ⟨⟨5, some (-1)⟩, .batches (some ⟨1, by decide⟩)⟩
  | true => ⟨⟨6, some (-1)⟩, .atOnce⟩

/-- The lower trim is given up after one batch, and the higher one has finished. -/
theorem table_eq_trimmed_accounts :
    accountStore.history? accounts.name = some accountHistory ∧ accountHistory.LatestIsNewest ∧
      (∀ i, (accountTrims i).rule.retained = some (-1)) ∧
      (∀ i, (accountTrims i).rule.trimHeight ≤ 6) ∧
      ∃ now rest, Reached accounts accountTrims (Situation.begin accountStore accountTrims) now ∧
        now.stage true = .finished ∧ now.stage false = .abandoned ∧
        (accountStore.trimUnordered accounts ⟨6, some (-1)⟩).2.history? "account" = some rest ∧
        now.store.history? "account" = some rest := by
  have stored : accountStore.history? accounts.name = some accountHistory := rfl
  have newestOnly : accountHistory.LatestIsNewest := by decide
  have retained : ∀ i, (accountTrims i).rule.retained = some (-1) := by decide
  have height : ∀ i, (accountTrims i).rule.trimHeight ≤ 6 := by decide
  let first := Situation.begin accountStore accountTrims
  let second := first.proceed accounts accountTrims false (.start ⟨5, some (-1)⟩)
  let third := second.proceed accounts accountTrims true (.start ⟨6, some (-1)⟩)
  have batch : Turn accounts accountTrims first second := .proceed false rfl
  have higher : Turn accounts accountTrims second third := .proceed true rfl
  obtain ⟨selector, going⟩ : ∃ selector, third.stage false = .underway selector := ⟨_, rfl⟩
  have reached : Reached accounts accountTrims first (third.abandon false) :=
    ((Relation.ReflTransGen.single batch).tail higher).tail (.abandon false going)
  have finished : (third.abandon false).stage true = .finished := rfl
  obtain ⟨rest, h, single, -, left, -, -, ends⟩ :=
    table_eq_trimmed ⟨6, some (-1)⟩ stored newestOnly retained height reached
  have same : h = rest := ends true rfl finished
  exact ⟨stored, newestOnly, retained, height, _, rest, reached, finished, rfl, single, same ▸ left⟩

end HistoryTrim.Interleaving
