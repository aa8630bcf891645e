import HistoryTrim.Proofs.OrderedTrim
import Mathlib.Data.List.Induction

/-! # Reads in the window

Readers ask for the state of an entity at a height. As long as they stay in the windows of all trims
so far, they are answered as if there had been no trim, whatever was written meanwhile, and however
many trims were begun, cut into batches or left half way. Only an entity that was gone before the
window of some trim may be lost to them.
-/

namespace HistoryTrim.Window

open MemoryStore (accounts accountHistory accountStore)

/-- What is stored of a key at a height: its newest version up to there. -/
def lookup (h : History) (key : Key) (height : Height) : Option Version :=
  h.rows.find? fun v => v.key = key && v.height ≤ height

theorem lookup_eq_some_iff {h : History} {key : Key} {height : Height} {v : Version} :
    lookup h key height = some v ↔
      v ∈ h ∧ v.key = key ∧ v.height ≤ height ∧
        ∀ w ∈ h, w.key = key → w.height ≤ height → w.height ≤ v.height := by
  unfold lookup
  simpa using @History.find?_eq_some_iff h key (fun w => w.height ≤ height) v

theorem lookup_eq_none_iff {h : History} {key : Key} {height : Height} :
    lookup h key height = none ↔ ∀ v ∈ h, v.key = key → ¬ v.height ≤ height := by
  simp [lookup, History.mem_def]

/-- One thing that happens to a table. A batch may belong to any run, at any point of it: its
    selector says under which rule it stands and where it resumes. -/
inductive Step where
  | write (v : Version)
  | batch (selector : RowSelector) (limit : Option Nat)
  | trim (rule : RetentionRule)

namespace Step

def apply (t : Table) (s : MemoryStore) : Step → MemoryStore
  | .write v => (s.insert t.name v).toOption.getD s
  | .batch selector limit => (s.deleteBatch t selector.restartGroup limit).store
  | .trim rule => (s.trimUnordered t rule).2

/-- The rule of a step that trims. -/
def rule? : Step → Option RetentionRule
  | .write _ => none
  | .batch selector _ => some selector.rule
  | .trim rule => some rule

end Step

def run (t : Table) (s : MemoryStore) (steps : List Step) : MemoryStore :=
  steps.foldl (Step.apply t) s

def writes (steps : List Step) : List Step := steps.filter fun step => step.rule?.isNone

/-- The entity of a key was gone before the window. -/
def FullyObsolete (rule : RetentionRule) (h : History) (key : Key) : Prop :=
  ∃ top, h.IsNewest top ∧ top.key = key ∧ top.latest = false ∧ top.height < rule.trimHeight

theorem fullyObsolete_iff {rule : RetentionRule} {h : History} {key : Key} :
    FullyObsolete rule h key ↔ (RetentionRule.newest? h.rows key).any rule.outlives = true := by
  rw [Option.any_eq_true]
  constructor
  · rintro ⟨top, newest, topKey, gone, below⟩
    exact ⟨top, History.newest?_eq_some_iff.2 ⟨newest, topKey⟩,
      RetentionRule.outlives_iff.2 ⟨below, gone⟩⟩
  · rintro ⟨top, found, outlives⟩
    obtain ⟨newest, topKey⟩ := History.newest?_eq_some_iff.1 found
    obtain ⟨below, gone⟩ := RetentionRule.outlives_iff.1 outlives
    exact ⟨top, newest, topKey, gone, below⟩

instance (rule : RetentionRule) (h : History) (key : Key) : Decidable (FullyObsolete rule h key) :=
  decidable_of_iff _ fullyObsolete_iff.symm

/-! ## The invariant

A version is needed if all newer ones of its key lie in the windows of all trims so far: a reader in
these windows may meet it. What was trimmed still has every version that is needed.
-/

/-- What a table under trims has in common, for one key, with the table without them. -/
structure StandsFor (key : Key) (rules : List RetentionRule) (full h : History) : Prop where
  sub : ∀ v ∈ h, v ∈ full
  kept : ∀ v ∈ full, v.key = key →
    (∀ w ∈ full, w.key = key → v.height < w.height → ∀ rule ∈ rules, rule.trimHeight ≤ w.height) →
    v ∈ h

namespace StandsFor

variable {key : Key} {rules : List RetentionRule} {rule : RetentionRule} {full h h' : History}

theorem refl (key : Key) (rules : List RetentionRule) (h : History) : StandsFor key rules h h where
  sub _ hv := hv
  kept _ hv _ _ := hv

theorem lookup_eq (stands : StandsFor key rules full h) {height : Height}
    (window : ∀ rule ∈ rules, rule.trimHeight ≤ height) :
    lookup h key height = lookup full key height := by
  cases found : lookup full key height with
  | none =>
      rw [lookup_eq_none_iff] at found ⊢
      intro v hv
      exact found v (stands.sub v hv)
  | some v =>
      obtain ⟨hv, vKey, upTo, top⟩ := lookup_eq_some_iff.1 found
      refine lookup_eq_some_iff.2 ⟨?_, vKey, upTo, fun w hw => top w (stands.sub w hw)⟩
      refine stands.kept v hv vKey fun w hw wKey newer rule used => ?_
      have above : ¬ w.height ≤ height := fun upTo' => Int64.not_le.2 newer (top w hw wKey upTo')
      exact Int64.le_trans (window rule used) (Int64.le_of_lt (Int64.not_le.1 above))

theorem write (stands : StandsFor key rules full h) (v : Version) :
    StandsFor key rules (full.insert v) (h.insert v) where
  sub w hw := by
    rw [History.mem_insert] at hw ⊢
    exact hw.imp_right fun old => ⟨stands.sub w old.1, old.2⟩
  kept w hw wKey needed := by
    rw [History.mem_insert] at hw ⊢
    rcases hw with same | ⟨old, elsewhere⟩
    · exact .inl same
    · refine .inr ⟨stands.kept w old wKey fun u hu uKey newer rule used => ?_, elsewhere⟩
      by_cases replaced : u.key = v.key ∧ u.height = v.height
      · rw [replaced.2] at newer ⊢
        exact needed v (History.mem_insert.2 (.inl rfl)) (replaced.1 ▸ uKey) newer rule used
      · exact needed u (History.mem_insert.2 (.inr ⟨hu, replaced⟩)) uKey newer rule used

/-- The version of a key that is needed is never one that a trim may take. -/
theorem trim (stands : StandsFor key rules full h) (lives : ¬ FullyObsolete rule h key)
    (sub : ∀ v ∈ h', v ∈ h) (gone : ∀ v ∈ h, v ∉ h' → ¬ rule.Keeps h v) :
    StandsFor key (rule :: rules) full h' where
  sub v hv := stands.sub v (sub v hv)
  kept v hv vKey needed := by
    have there : v ∈ h := by
      refine stands.kept v hv vKey fun w hw wKey newer other used => ?_
      exact needed w hw wKey newer other (List.mem_cons_of_mem rule used)
    by_cases stays : v ∈ h'
    · exact stays
    · refine absurd ?_ (gone v there stays)
      obtain ⟨top, newest, topKey⟩ := History.exists_newest there
      by_cases reach : rule.Reaches v
      · refine .inr (.inr ⟨⟨top, newest, topKey, ?_⟩, reach, ?_⟩)
        · rw [← Bool.not_eq_false, ← Int64.not_lt, ← Classical.not_and_iff_not_or_not]
          rintro ⟨hidden, below⟩
          exact lives ⟨top, newest, topKey.trans vKey, hidden, below⟩
        · intro w hw wKey wReach
          refine Int64.not_lt.1 fun newer => ?_
          have inWindow := needed w (stands.sub w hw) (wKey.trans vKey) newer rule List.mem_cons_self
          exact Int64.not_le.2 wReach.1 inWindow
      · exact RetentionRule.keeps_of_not_reaches reach

end StandsFor

namespace Step

variable {t : Table} {s : MemoryStore} {h : History}

theorem history?_write (stored : s.history? t.name = some h) (v : Version) :
    (Step.apply t s (.write v)).history? t.name = some (h.insert v) := by
  obtain ⟨table, found, rfl⟩ := Option.map_eq_some_iff.1 stored
  simp [apply, MemoryStore.insert, found, Except.toOption, MemoryStore.history?_withHistory]

theorem history?_trims (stored : s.history? t.name = some h) {step : Step} {rule : RetentionRule}
    (trims : step.rule? = some rule) :
    ∃ h', (step.apply t s).history? t.name = some h' ∧ (∀ v ∈ h', v ∈ h) ∧
      ∀ v ∈ h, v ∉ h' → ¬ rule.Keeps h v := by
  cases step with
  | write v => cases trims
  | batch selector limit =>
      cases trims
      rcases MemoryStore.deleteBatch_restartGroup stored selector limit with
        ⟨-, untouched, -⟩ | ⟨deleted, h', -, left, batched, -⟩
      · exact ⟨h, untouched, fun v hv => hv, fun v hv gone => absurd hv gone⟩
      · exact ⟨h', left, batched.sub, batched.gone⟩
  | trim other =>
      cases trims
      exact ⟨h.trimmed rule, (MemoryStore.trimUnordered_eq stored rule).2,
        fun v hv => RetentionRule.mem_of_mem_trimmed hv,
        fun v hv gone => RetentionRule.not_keeps_of_not_mem_trimmed hv gone⟩

end Step

variable {t : Table} {s : MemoryStore} {start : History}

theorem run_snoc (t : Table) (s : MemoryStore) (past : List Step) (step : Step) :
    run t s (past ++ [step]) = step.apply t (run t s past) := by
  simp [run, List.foldl_append]

/-- After any steps the table stands for the one that saw only the writes. -/
theorem run_standsFor (stored : s.history? t.name = some start) (key : Key) (steps : List Step)
    (lives : ∀ past step rest rule h, steps = past ++ step :: rest → step.rule? = some rule →
      (run t s past).history? t.name = some h → ¬ FullyObsolete rule h key) :
    ∃ full h, (run t s (writes steps)).history? t.name = some full ∧
      (run t s steps).history? t.name = some h ∧
      StandsFor key (steps.filterMap Step.rule?).reverse full h := by
  induction steps using List.reverseRecOn with
  | nil => exact ⟨start, start, stored, stored, .refl key [] start⟩
  | append_singleton past step ih =>
      obtain ⟨full, h, storedFull, storedHere, stands⟩ := ih fun before middle rest rule h split =>
        lives before middle (rest ++ [step]) rule h (by simp [split])
      cases trims : step.rule? with
      | none =>
          cases step with
          | write v =>
              have wrote : writes (past ++ [.write v]) = writes past ++ [.write v] := by
                simp [writes, trims]
              rw [wrote, run_snoc, run_snoc, List.filterMap_append]
              refine ⟨full.insert v, h.insert v, Step.history?_write storedFull v,
                Step.history?_write storedHere v, ?_⟩
              simpa [trims] using stands.write v
          | batch | trim => cases trims
      | some rule =>
          have wrote : writes (past ++ [step]) = writes past := by simp [writes, trims]
          obtain ⟨h', left, sub, gone⟩ := Step.history?_trims storedHere trims
          have alive := lives past step [] rule h rfl trims storedHere
          rw [wrote, run_snoc, List.filterMap_append]
          refine ⟨full, h', storedFull, left, ?_⟩
          simpa [trims] using stands.trim alive sub gone

/-- At every point of any history of writes, batches and trims, a key whose entity was never gone
    before the window of a trim reads as if there had been no trim, at every height that lies in
    the windows of all trims so far. Writers need not keep out of the windows for that, and the
    trims may retain different heights. -/
theorem lookup_eq_untrimmed (stored : s.history? t.name = some start) (key : Key)
    (steps : List Step)
    (lives : ∀ past step rest rule h, steps = past ++ step :: rest → step.rule? = some rule →
      (run t s past).history? t.name = some h → ¬ FullyObsolete rule h key) :
    ∀ past, past <+: steps → ∃ h full, (run t s past).history? t.name = some h ∧
      (run t s (writes past)).history? t.name = some full ∧
      ∀ height : Height,
        (∀ step ∈ past, ∀ rule, step.rule? = some rule → rule.trimHeight ≤ height) →
        lookup h key height = lookup full key height := by
  rintro past ⟨later, rfl⟩
  obtain ⟨full, h, storedFull, storedHere, stands⟩ :=
    run_standsFor stored key past fun before middle rest rule h split =>
      lives before middle (rest ++ later) rule h (by simp [split])
  refine ⟨h, full, storedHere, storedFull, fun height window => stands.lookup_eq ?_⟩
  intro rule used
  rw [List.mem_reverse, List.mem_filterMap] at used
  obtain ⟨step, taken, trims⟩ := used
  exact window step taken rule trims

/-- A batch of a run that is left half way, a write, and a higher trim. -/
def accountSteps : List Step :=
  [.batch (.start ⟨5, some (-1)⟩) (some 1), .write ⟨⟨1, []⟩, 12, true⟩, .trim ⟨6, some (-1)⟩]

theorem lookup_eq_untrimmed_accounts :
    accountStore.history? accounts.name = some accountHistory ∧
      (∀ past step rest rule h, accountSteps = past ++ step :: rest → step.rule? = some rule →
        (run accounts accountStore past).history? accounts.name = some h →
        ¬ FullyObsolete rule h ⟨1, []⟩) ∧
      ∃ h full, (run accounts accountStore accountSteps).history? accounts.name = some h ∧
        (run accounts accountStore (writes accountSteps)).history? accounts.name = some full ∧
        h.size < full.size ∧ lookup h ⟨1, []⟩ 6 = lookup full ⟨1, []⟩ 6 := by
  have stored : accountStore.history? accounts.name = some accountHistory := rfl
  have lives : ∀ past step rest rule h, accountSteps = past ++ step :: rest →
      step.rule? = some rule → (run accounts accountStore past).history? accounts.name = some h →
      ¬ FullyObsolete rule h ⟨1, []⟩ := by
    intro past step rest rule h split trims here
    rcases past with _ | ⟨first, _ | ⟨second, _ | ⟨third, past⟩⟩⟩
    · cases split
      cases trims
      cases Option.some.inj here
      decide
    · cases split
      cases trims
    · cases split
      cases trims
      cases Option.some.inj here
      decide
    · cases past <;> cases split
  obtain ⟨h, full, left, whole, same⟩ :=
    lookup_eq_untrimmed stored ⟨1, []⟩ accountSteps lives accountSteps (List.prefix_refl _)
  have fewer : h.size < full.size := by
    cases Option.some.inj left
    cases Option.some.inj whole
    decide
  exact ⟨stored, lives, h, full, left, whole, fewer, same 6 (by decide)⟩

end HistoryTrim.Window
