import HistoryTrim.Proofs.Attempts
import HistoryTrim.Proofs.Sessions

/-! # The rollback window

A rollback from the current height may need every version down to the depth below it. Trim heights
are computed with a saturating difference and two clamps; among heights that versions of the chain
have, none of these is ever off. No attempt reaches a version at its trim height or above, so no
opportunity takes one that a rollback may need, whatever it skips and wherever it fails.
-/

namespace HistoryTrim

namespace Height

theorem toInt_max (a b : Height) : (Height.max a b).toInt = Max.max a.toInt b.toInt := by
  unfold Height.max
  split
  next upTo =>
    rw [Int64.le_iff_toInt_le] at upTo
    omega
  next above =>
    rw [Int64.le_iff_toInt_le] at above
    omega

theorem toInt_saturatingSub (a b : Height) :
    (saturatingSub a b).toInt =
      Max.max Int64.minValue.toInt (Min.min Int64.maxValue.toInt (a.toInt - b.toInt)) := by
  simp only [saturatingSub, Int64.toInt_minValue, Int64.toInt_maxValue]
  split
  · rw [Int64.toInt_minValue]
    omega
  split
  · rw [Int64.toInt_maxValue]
    omega
  · rw [Int64.toInt_ofInt_of_le (by omega) (by omega)]
    omega

end Height

/-- The heights from a trim height on are those of the chain within the depth of the current one, in
    exact integers. -/
theorem RetentionClock.trimHeight_le_iff (depth current h : Height) :
    (ofDepth depth).trimHeight current ≤ h ↔
      0 ≤ h ∧ current.toInt ≤ h.toInt + max depth.toInt 0 := by
  have clamped : (ofDepth depth).depth.toInt = max depth.toInt 0 := Height.toInt_max depth 0
  have least := current.le_toInt
  have most := current.toInt_lt
  rw [Int64.le_iff_toInt_le, Int64.le_iff_toInt_le, trimHeight, Height.toInt_max,
    Height.toInt_saturatingSub, clamped, Int64.toInt_zero, Int64.toInt_minValue,
    Int64.toInt_maxValue]
  omega

namespace MemoryStore

/-- Every table of the one store is in the other with all its versions from a height on. -/
def KeepsFrom (height : Height) (s s' : MemoryStore) : Prop :=
  ∀ name h, s.history? name = some h →
    ∃ h', s'.history? name = some h' ∧ ∀ v ∈ h, height ≤ v.height → v ∈ h'

variable {height : Height} {s s' s'' : MemoryStore}

theorem KeepsFrom.refl (height : Height) (s : MemoryStore) : KeepsFrom height s s :=
  fun _ h stored => ⟨h, stored, fun _ hv _ => hv⟩

theorem KeepsFrom.trans (first : KeepsFrom height s s') (second : KeepsFrom height s' s'') :
    KeepsFrom height s s'' := by
  intro name h stored
  obtain ⟨h', left, kept⟩ := first name h stored
  obtain ⟨h'', left', kept'⟩ := second name h' left
  exact ⟨h'', left', fun v hv above => kept' v (kept v hv above) above⟩

theorem Takes.keepsFrom {rule : RetentionRule} {name : String} {rows : Nat}
    (takes : Takes rule name s s' rows) : KeepsFrom rule.trimHeight s s' := by
  intro other h stored
  by_cases same : other = name
  · subst same
    obtain ⟨h', left, leaves, -⟩ := takes.here h stored
    exact ⟨h', left, fun v hv above => leaves.beyond v hv fun reach => Int64.not_le.2 reach.1 above⟩
  · refine ⟨h, ?_, fun v hv _ => hv⟩
    rw [history?, takes.others other same]
    exact stored

end MemoryStore

namespace Trimmer

open MemoryStore (KeepsFrom)

theorem opportunity_keepsFrom (t : Trimmer) (s : MemoryStore) (e : Entry) (trimHeight : Height) :
    KeepsFrom trimHeight s (t.opportunity s e trimHeight).2.2 := by
  unfold opportunity
  split
  · exact (t.work_takes s e trimHeight).keepsFrom
  · exact .refl trimHeight s

theorem runEntries_keepsFrom (trimHeight : Height) (es : List Entry) (t : Trimmer)
    (s : MemoryStore) : KeepsFrom trimHeight s (runEntries trimHeight es t s).2.2 := by
  induction es generalizing t s with
  | nil => exact .refl trimHeight s
  | cons e es ih =>
      rw [runEntries_cons]
      exact (t.opportunity_keepsFrom s e trimHeight).trans (ih _ _)

/-- A trim at a current height leaves every table all its versions that a rollback from there may
    need: those of the chain no further back than the depth, computed in exact integers. This is so
    for all settings, registrations and states of the schedule, and if batches fail. -/
theorem trim_keeps_rollback_window (settings : TrimSettings) (metrics : Metrics)
    (scheduler : Scheduler) (entries : List Entry) (s : MemoryStore) (current : Height) :
    let trimmer := { withMetrics settings metrics with scheduler, entries }
    let needed (depth : Height) (v : Version) : Prop :=
      0 ≤ v.height ∧ current.toInt ≤ v.height.toInt + max depth.toInt 0
    (∀ name h, s.history? name = some h →
      ∃ h', (trimmer.trim s current).2.2.history? name = some h' ∧
        ∀ v ∈ h, needed settings.depth v → v ∈ h') ∧
    ∀ source : HeightSource, source.current = .ok current →
      ∃ run, trimmer.trimFrom s source = .ok run ∧
        ∀ name h, s.history? name = some h →
          ∃ h', run.2.2.history? name = some h' ∧ ∀ v ∈ h, needed source.depth v → v ∈ h' := by
  intro trimmer needed
  have run_keeps (depth : Height) (name : String) (h : History) (stored : s.history? name = some h) :
      ∃ h', (trimmer.run s ((RetentionClock.ofDepth depth).trimHeight current)).2.2.history? name =
        some h' ∧ ∀ v ∈ h, needed depth v → v ∈ h' := by
    obtain ⟨h', left, kept⟩ := runEntries_keepsFrom _ entries trimmer s name h stored
    refine ⟨h', left, fun v hv need => kept v hv ?_⟩
    exact (RetentionClock.trimHeight_le_iff depth current v.height).2 need
  refine ⟨run_keeps settings.depth, fun source known => ⟨_, ?_, run_keeps source.depth⟩⟩
  rw [trimFrom, known]

open MemoryStore (accounts accountHistory accountStore)

/-- The second batch fails, at a depth of four. -/
theorem trim_keeps_rollback_window_accounts :
    let trimmer := { withMetrics { depth := 4, batchSize := some 1 } {} with
      entries := [⟨accounts, .available "by_height", 0⟩] }
    let v : Version := ⟨⟨1, []⟩, 7, false⟩
    (accountStore.failOnBatch 2).history? accounts.name = some accountHistory ∧
      v ∈ accountHistory ∧
      (∃ h', (trimmer.trim (accountStore.failOnBatch 2) 10).2.2.history? accounts.name = some h' ∧
        v ∈ h') ∧
      ∃ run, trimmer.trimFrom (accountStore.failOnBatch 2) (.fixed 10 4) = .ok run ∧
        ∃ h', run.2.2.history? accounts.name = some h' ∧ v ∈ h' := by
  intro trimmer v
  have stored : (accountStore.failOnBatch 2).history? accounts.name = some accountHistory := rfl
  have there : v ∈ accountHistory := .tail _ (.head _)
  have needed : 0 ≤ v.height ∧ (10 : Height).toInt ≤ v.height.toInt + max (4 : Height).toInt 0 := by
    decide
  obtain ⟨trims, trimsFrom⟩ := trim_keeps_rollback_window { depth := 4, batchSize := some 1 } {}
    (.ofMultipliers ∅) [⟨accounts, .available "by_height", 0⟩] (accountStore.failOnBatch 2) 10
  obtain ⟨h', left, kept⟩ := trims accounts.name accountHistory stored
  obtain ⟨run, done, keepsFrom⟩ := trimsFrom (.fixed 10 4) rfl
  obtain ⟨h'', left', kept'⟩ := keepsFrom accounts.name accountHistory stored
  exact ⟨stored, there, ⟨h', left, kept v there needed⟩, run, done, h'', left',
    kept' v there needed⟩

end Trimmer

end HistoryTrim
