import HistoryTrim.Config
import HistoryTrim.Store.Memory
import HistoryTrim.Proofs.Definitions
import HistoryTrim.Proofs.RollbackWindow

/-! # Consistent options

Options become settings if they are consistent: no history is cut short, every table is due now and then,
the height that is always kept is off the chain, and the tables are usable. Otherwise the first of these
checks that fails is reported. Of several multipliers of zero any one may be, since they have no order.
-/

namespace HistoryTrim

theorem RetentionClock.trimHeight_nonneg (clock : RetentionClock) (current : Height) :
    0 ≤ clock.trimHeight current := by
  rw [Int64.le_iff_toInt_le, trimHeight, Height.toInt_max]
  omega

namespace TrimOptions

/-- What options have to be for a trimmer to be made of them. -/
structure Consistent (o : TrimOptions) : Prop where
  deep : 0 ≤ o.maxRollback
  due : ∀ e ∈ o.frequency.entries, 1 ≤ e.2
  sentinel : o.retainedHeightEnabled = true → o.retainedHeight < 0
  usable : ∀ t ∈ o.tables, t.Usable

/-- The first thing that is wrong with options. Tables come in the order in which they are configured. -/
inductive FirstFault (o : TrimOptions) : OptionsError → Prop where
  | shallow (negative : o.maxRollback < 0) : FirstFault o (.negativeRollback o.maxRollback)
  | neverDue {name : String} (deep : 0 ≤ o.maxRollback)
      (zero : (name, 0) ∈ o.frequency.entries) : FirstFault o (.zeroFrequency name)
  | onChain (deep : 0 ≤ o.maxRollback) (due : ∀ e ∈ o.frequency.entries, 1 ≤ e.2)
      (enabled : o.retainedHeightEnabled = true) (onChain : 0 ≤ o.retainedHeight) :
      FirstFault o (.retainedHeightNotSentinel o.retainedHeight)
  | unusable {before after : List Table} {t : Table} {e : DefinitionError}
      (deep : 0 ≤ o.maxRollback) (due : ∀ e ∈ o.frequency.entries, 1 ≤ e.2)
      (sentinel : o.retainedHeightEnabled = true → o.retainedHeight < 0)
      (tables : o.tables = before ++ t :: after) (earlier : ∀ u ∈ before, u.Usable)
      (defect : t.FirstDefect e) : FirstFault o (.invalidTable t.name e)

theorem checkTables_unusable {before after : List Table} {t : Table} {e : DefinitionError}
    (earlier : ∀ u ∈ before, u.Usable) (defect : t.FirstDefect e) :
    checkTables (before ++ t :: after) = .error (.invalidTable t.name e) := by
  induction before with
  | nil => simp only [List.nil_append, checkTables, Table.validate_of_firstDefect defect]
  | cons u before ih =>
      obtain ⟨first, others⟩ := List.forall_mem_cons.1 earlier
      simp only [List.cons_append, checkTables, Table.validate_of_usable first, ih others]

theorem usable_or_unusable (tables : List Table) :
    (∀ t ∈ tables, t.Usable) ∨ ∃ before t after e, tables = before ++ t :: after ∧
      (∀ u ∈ before, u.Usable) ∧ t.FirstDefect e := by
  induction tables with
  | nil => exact .inl fun _ ht => by cases ht
  | cons t tables ih =>
      rcases t.usable_or_firstDefect with usable | ⟨e, defect⟩
      · rcases ih with others | ⟨before, u, after, e, rfl, earlier, defect⟩
        · exact .inl (List.forall_mem_cons.2 ⟨usable, others⟩)
        · exact .inr ⟨t :: before, u, after, e, rfl, List.forall_mem_cons.2 ⟨usable, earlier⟩, defect⟩
      · exact .inr ⟨[], t, tables, e, rfl, fun _ hu => (List.not_mem_nil hu).elim, defect⟩

variable {o : TrimOptions}

theorem checkTables_of_usable {tables : List Table} (usable : ∀ t ∈ tables, t.Usable) :
    checkTables tables = .ok () := by
  induction tables with
  | nil => rfl
  | cons t tables ih =>
      obtain ⟨first, others⟩ := List.forall_mem_cons.1 usable
      simp only [checkTables, Table.validate_of_usable first, ih others]

theorem find?_zero_eq_none_iff {entries : List (String × UInt32)} :
    entries.find? (fun e => e.2 = 0) = none ↔ ∀ e ∈ entries, 1 ≤ e.2 := by
  rw [List.find?_eq_none]
  refine forall₂_congr fun e _ => ?_
  rw [decide_eq_true_iff, ← UInt32.lt_one_iff, UInt32.not_lt]

theorem filter_onChain_eq_none_iff :
    (o.effectiveRetained.filter fun h => 0 ≤ h) = none ↔
      (o.retainedHeightEnabled = true → o.retainedHeight < 0) := by
  unfold effectiveRetained
  cases o.retainedHeightEnabled <;> simp [Int64.not_le]

theorem check_of_consistent (consistent : o.Consistent) : o.check = .ok () := by
  have deep : ¬ o.maxRollback < 0 := Int64.not_lt.2 consistent.deep
  simp only [check, deep, if_false, find?_zero_eq_none_iff.2 consistent.due,
    filter_onChain_eq_none_iff.2 consistent.sentinel, checkTables_of_usable consistent.usable]

/-- The first fault is reported, except that it may be another multiplier of zero. -/
theorem check_of_firstFault {e : OptionsError} (first : o.FirstFault e) :
    ∃ e', o.check = .error e' ∧ o.FirstFault e' ∧
      (e' = e ∨ ∃ a b, e = .zeroFrequency a ∧ e' = .zeroFrequency b) := by
  cases first with
  | shallow negative =>
      refine ⟨_, ?_, .shallow negative, .inl rfl⟩
      simp only [check, negative, if_true]
  | @neverDue name deep zero =>
      cases found : o.frequency.entries.find? fun e => e.2 = 0 with
      | none =>
          have positive : (1 : UInt32) ≤ 0 := find?_zero_eq_none_iff.1 found _ zero
          exact absurd positive (by decide)
      | some other =>
          obtain ⟨other, multiplier⟩ := other
          obtain rfl : multiplier = 0 := by simpa using List.find?_some found
          refine ⟨.zeroFrequency other, ?_, .neverDue deep (List.mem_of_find?_eq_some found),
            .inr ⟨name, other, rfl, rfl⟩⟩
          simp only [check, Int64.not_lt.2 deep, if_false, found]
  | onChain deep due enabled onChain =>
      refine ⟨_, ?_, .onChain deep due enabled onChain, .inl rfl⟩
      simp only [check, Int64.not_lt.2 deep, if_false, find?_zero_eq_none_iff.2 due,
        effectiveRetained, enabled, if_true, Option.filter_some, onChain, decide_true]
  | unusable deep due sentinel tables earlier defect =>
      refine ⟨_, ?_, .unusable deep due sentinel tables earlier defect, .inl rfl⟩
      simp only [check, Int64.not_lt.2 deep, if_false, find?_zero_eq_none_iff.2 due,
        filter_onChain_eq_none_iff.2 sentinel, tables, checkTables_unusable earlier defect]

theorem consistent_or_firstFault (o : TrimOptions) : o.Consistent ∨ ∃ e, o.FirstFault e := by
  rcases Int64.lt_or_le o.maxRollback 0 with negative | deep
  · exact .inr ⟨_, .shallow negative⟩
  cases zero : o.frequency.entries.find? fun e => e.2 = 0 with
  | some e =>
      obtain ⟨name, multiplier⟩ := e
      obtain rfl : multiplier = 0 := by simpa using List.find?_some zero
      exact .inr ⟨_, .neverDue deep (List.mem_of_find?_eq_some zero)⟩
  | none =>
      have due := find?_zero_eq_none_iff.1 zero
      by_cases sentinel : o.retainedHeightEnabled = true → o.retainedHeight < 0
      · rcases usable_or_unusable o.tables with usable | ⟨_, _, _, _, tables, earlier, defect⟩
        · exact .inl ⟨deep, due, sentinel, usable⟩
        · exact .inr ⟨_, .unusable deep due sentinel tables earlier defect⟩
      · obtain ⟨enabled, onChain⟩ := Classical.not_imp.1 sentinel
        exact .inr ⟨_, .onChain deep due enabled (Int64.not_lt.1 onChain)⟩

theorem check_eq_ok_iff : o.check = .ok () ↔ o.Consistent := by
  refine ⟨fun checked => o.consistent_or_firstFault.resolve_right ?_, check_of_consistent⟩
  rintro ⟨e, first⟩
  obtain ⟨e', refused, -⟩ := check_of_firstFault first
  rw [refused] at checked
  cases checked

theorem firstFault_of_check {e : OptionsError} (refused : o.check = .error e) : o.FirstFault e := by
  rcases o.consistent_or_firstFault with consistent | ⟨e', first⟩
  · rw [check_of_consistent consistent] at refused
    cases refused
  · obtain ⟨e'', reported, first', -⟩ := check_of_firstFault first
    rw [reported] at refused
    cases refused
    exact first'

theorem settings_eq_ok_iff {s : TrimSettings} :
    o.settings = .ok s ↔ o.Consistent ∧
      s = ⟨o.maxRollback, o.batchLimit, o.effectiveRetained, o.frequency⟩ := by
  rw [← check_eq_ok_iff, settings]
  cases o.check with
  | error e => simp
  | ok => simp [eq_comm]

theorem settings_eq_error_iff {e : OptionsError} :
    o.settings = .error e ↔ o.check = .error e := by
  rw [settings]
  cases o.check <;> simp

theorem Consistent.retained_neg (consistent : o.Consistent) {h : Height}
    (kept : o.effectiveRetained = some h) : h < 0 := by
  unfold effectiveRetained at kept
  split at kept
  next enabled =>
    cases kept
    exact consistent.sentinel enabled
  next => cases kept

/-- Consistent options, and only these, become settings; of others the first fault is reported, where
    any one of several multipliers of zero may stand for them. A trim with the settings, at whatever
    current height, has its trim height above the height that is always kept. -/
theorem settings_iff_consistent (o : TrimOptions) :
    (∀ s, o.settings = .ok s ↔ o.Consistent ∧
      s = ⟨o.maxRollback, o.batchLimit, o.effectiveRetained, o.frequency⟩) ∧
    (∀ e, o.settings = .error e → o.FirstFault e) ∧
    (∀ e, o.FirstFault e → o.settings = .error e ∨
      ∃ a b, e = .zeroFrequency a ∧ o.settings = .error (.zeroFrequency b)) ∧
    ∀ s, o.settings = .ok s →
      ∀ {σ : Type} [VersionStore σ] (store : σ) (metrics : Metrics) (scheduler : Scheduler)
        (entries : List Entry) (current h : Height), s.retained = some h →
        h < ({ Trimmer.withMetrics s metrics with scheduler, entries }.trim store
          current).1.trimHeight := by
  refine ⟨fun s => settings_eq_ok_iff, fun e refused => ?_, fun e first => ?_, ?_⟩
  · exact firstFault_of_check (settings_eq_error_iff.1 refused)
  · obtain ⟨e', reported, -, same | ⟨a, b, rfl, rfl⟩⟩ := check_of_firstFault first
    · exact .inl (settings_eq_error_iff.2 (same ▸ reported))
    · exact .inr ⟨a, b, rfl, settings_eq_error_iff.2 reported⟩
  · intro s accepted σ _ store metrics scheduler entries current h kept
    obtain ⟨consistent, rfl⟩ := settings_eq_ok_iff.1 accepted
    exact Int64.lt_of_lt_of_le (consistent.retained_neg kept)
      (RetentionClock.trimHeight_nonneg _ current)

/-- Options with the defaults for everything but the tables. -/
def ofTables (tables : List Table) : TrimOptions := { tables }

theorem settings_iff_consistent_account :
    let account : Table := { name := "account", keys := [⟨"id", .integer⟩] }
    let tower : Table := { name := "tower", keys := [⟨"height", .integer⟩] }
    (ofTables [account]).Consistent ∧
    -1 < ((Trimmer.new {}).trim ({} : MemoryStore) 10).1.trimHeight ∧
    (ofTables [account, tower, tower]).FirstFault
      (.invalidTable "tower" (.duplicateColumn "tower" "height")) := by
  intro account tower
  have accepted : (ofTables [account]).settings = .ok {} := by decide
  have decided := settings_iff_consistent (ofTables [account])
  have refused := settings_iff_consistent (ofTables [account, tower, tower])
  exact ⟨((decided.1 _).1 accepted).1, decided.2.2.2 _ accepted ({} : MemoryStore) {} _ _ 10 (-1) rfl,
    refused.2.1 _ (by decide)⟩

end TrimOptions

end HistoryTrim
