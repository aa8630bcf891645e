import HistoryTrim.Proofs.Scan
import HistoryTrim.Store.Memory
import Mathlib.Data.List.TakeWhile

/-! # One step of a trim

A step takes versions that are obsolete in the whole history, be it a batch that resumes at a leading
value or a single pass without an order. Nothing here asks which versions are latest.
-/

/-! ## What a pass over a table finds

A trim without an order notes for every key the greatest height, and the greatest one within reach,
in one pass over all rows. On a history that comes to the two searches of the rule, so the versions
that it dooms are the obsolete ones.
-/

namespace HistoryTrim.Tally

/-- What was noted is what the searches find among the rows met so far. -/
structure Knows (rule : RetentionRule) (tally : Tally) (seen : List Version) : Prop where
  newest : ∀ key, tally.newest key =
    (RetentionRule.newest? seen key).map fun v => (v.height, v.latest)
  boundary : ∀ key, tally.boundary key = (rule.boundary? seen key).map Version.height

variable {rule : RetentionRule} {tally : Tally} {seen rows : List Version} {v : Version}

theorem knows_empty (rule : RetentionRule) : empty.Knows rule [] :=
  ⟨fun _ => rfl, fun _ => rfl⟩

theorem newest_add (knows : tally.Knows rule seen)
    (sorted : (seen ++ [v]).Pairwise Version.Precedes) (key : Key) :
    (tally.add rule v).newest key =
      (RetentionRule.newest? (seen ++ [v]) key).map fun w => (w.height, w.latest) := by
  unfold RetentionRule.newest?
  rw [List.find?_append]
  by_cases same : key = v.key
  · subst same
    cases met : RetentionRule.newest? seen v.key with
    | none =>
        have noted := knows.newest v.key
        rw [met] at noted
        rw [RetentionRule.newest?] at met
        simp [add, noted, met]
    | some top =>
        have noted := knows.newest v.key
        rw [met] at noted
        rw [RetentionRule.newest?] at met
        have meets := List.find?_some met
        have newer := RowSelector.height_lt_of_met sorted (List.mem_of_find?_eq_some met)
          (by simpa using meets)
        have lower : ¬ top.height < v.height := Int64.not_lt.2 (Int64.le_of_lt newer)
        simp [add, noted, met, lower]
  · have other : [v].find? (fun w => decide (w.key = key)) = none := by
      simpa using fun same' => same same'.symm
    simp only [add, if_neg same, other, Option.or_none]
    exact knows.newest key

theorem boundary_add (knows : tally.Knows rule seen)
    (sorted : (seen ++ [v]).Pairwise Version.Precedes) (key : Key) :
    (tally.add rule v).boundary key = (rule.boundary? (seen ++ [v]) key).map Version.height := by
  by_cases noted : key = v.key ∧ rule.spares v.height = false
  · obtain ⟨rfl, reach⟩ := noted
    rw [RowSelector.boundary?_snoc]
    simp only [add, reach, knows.boundary]
    cases met : rule.boundary? seen v.key with
    | none => simp
    | some best =>
        have meets := List.find?_some met
        simp only [Bool.and_eq_true, decide_eq_true_eq] at meets
        have newer := RowSelector.height_lt_of_met sorted (List.mem_of_find?_eq_some met) meets.1
        have greatest : max best.height v.height = best.height :=
          if_neg (Int64.not_le.2 newer)
        simp [greatest]
  · have other : [v].find? (fun w => decide (w.key = key) && !rule.spares w.height) = none := by
      cases spared : rule.spares v.height <;> grind
    simp only [add, if_neg noted, RetentionRule.boundary?, List.find?_append, other, Option.or_none]
    exact knows.boundary key

theorem Knows.foldl (knows : tally.Knows rule seen)
    (sorted : (seen ++ rows).Pairwise Version.Precedes) :
    (rows.foldl (add rule) tally).Knows rule (seen ++ rows) := by
  induction rows generalizing tally seen with
  | nil => rwa [List.append_nil]
  | cons v vs ih =>
      rw [List.append_cons] at sorted ⊢
      have start := sorted.sublist (List.sublist_append_left (seen ++ [v]) vs)
      exact ih ⟨newest_add knows start, boundary_add knows start⟩ sorted

theorem dooms_eq_isObsolete {h : History} (hv : v ∈ h) :
    (ofRows rule h.rows).dooms rule v = rule.isObsolete h.rows v := by
  have knows : (ofRows rule h.rows).Knows rule h.rows := (knows_empty rule).foldl h.ordered
  have newest : ((ofRows rule h.rows).newest v.key).any
      (fun top => decide (top.1 < rule.trimHeight) && !top.2) =
        (RetentionRule.newest? h.rows v.key).any rule.outlives := by
    rw [knows.newest, Option.any_map]
    rfl
  rw [dooms, RetentionRule.isObsolete, newest, knows.boundary]
  cases spared : rule.spares v.height with
  | true => rfl
  | false =>
      obtain ⟨b, hb, key, boundary⟩ :=
        RetentionRule.exists_boundary hv (RetentionRule.reaches_iff.2 spared)
      rw [RetentionRule.boundary?_eq_some_iff.2 ⟨hb, key, boundary⟩]
      by_cases same : b.height = v.height <;> simp [same]

end HistoryTrim.Tally

/-! ## What a batch takes

A batch resumes at a leading value, which keeps all versions of a key together. So what it takes is
obsolete in the whole history, and what it leaves behind its new marker is not; the step of a trim
without an order is the same at once.
-/

namespace HistoryTrim

namespace History

theorem mem_before_or_since {h : History} (marker : Int64) {v : Version} :
    v ∈ h ↔ v ∈ h.before marker ∨ v ∈ h.since marker := by
  rw [← List.mem_append, before_append_since, mem_def]

theorem leading_lt_of_mem_before {h : History} {marker : Int64} {v : Version}
    (hv : v ∈ h.before marker) : v.key.leading < marker := by
  simpa using List.mem_takeWhile_imp hv

theorem le_leading_of_mem_since {h : History} {marker : Int64} {v : Version}
    (hv : v ∈ h.since marker) : marker ≤ v.key.leading := by
  have general : ∀ rows : List Version, rows.Pairwise Version.Precedes →
      v ∈ rows.dropWhile (fun w => w.key.leading < marker) → marker ≤ v.key.leading := by
    intro rows sorted hv
    induction rows with
    | nil => simp at hv
    | cons r rs ih =>
        obtain ⟨first, rest⟩ := List.pairwise_cons.1 sorted
        rw [List.dropWhile_cons] at hv
        split at hv
        · exact ih rest hv
        · rename_i reached
          have start : marker ≤ r.key.leading := by simpa [Int64.not_lt] using reached
          rcases List.mem_cons.1 hv with rfl | later
          · exact start
          · exact Int64.le_trans start (first v later).leading_le
  exact general h.rows h.ordered hv

theorem since_eq_filter (h : History) (marker : Int64) :
    h.since marker = h.rows.filter fun v => marker ≤ v.key.leading := by
  have before : (h.before marker).filter (fun v => decide (marker ≤ v.key.leading)) = [] := by
    refine List.filter_eq_nil_iff.2 fun v hv => ?_
    simpa [Int64.not_le] using leading_lt_of_mem_before hv
  have since : (h.since marker).filter (fun v => decide (marker ≤ v.key.leading)) =
      h.since marker :=
    List.filter_eq_self.2 fun v hv => by simpa using le_leading_of_mem_since hv
  rw [← h.before_append_since marker, List.filter_append, before, since, List.nil_append]

theorem afterSweep_perm (h : History) (s : RowSelector) (limit : Option Nat) :
    ((h.sweep s limit).doomed ++ (h.afterSweep s limit).rows).Perm h.rows := by
  have parts := RowSelector.sweep_perm id s limit (h.since s.marker)
  calc ((h.sweep s limit).doomed ++ (h.before s.marker ++ (h.sweep s limit).spared)).Perm
        (h.before s.marker ++ ((h.sweep s limit).doomed ++ (h.sweep s limit).spared)) :=
          List.perm_append_comm_assoc ..
    List.Perm _ (h.before s.marker ++ h.since s.marker) := parts.append_left _
    List.Perm _ h.rows := by rw [before_append_since]

/-- The versions of a key lie all on one side of a marker, so what is obsolete from the marker on
    is obsolete in the history. -/
theorem isObsolete_since {h : History} {marker : Int64} {v : Version} (rule : RetentionRule)
    (hv : v ∈ h.since marker) :
    rule.isObsolete (h.since marker) v = rule.isObsolete h.rows v := by
  have other : ∀ w ∈ h.before marker, w.key ≠ v.key := by
    intro w hw same
    have below := leading_lt_of_mem_before hw
    rw [same] at below
    exact absurd (le_leading_of_mem_since hv) (Int64.not_le.2 below)
  have newest : RetentionRule.newest? h.rows v.key =
      RetentionRule.newest? (h.since marker) v.key := by
    unfold RetentionRule.newest?
    rw [← h.before_append_since marker, List.find?_append,
      List.find?_eq_none.2 (fun w hw => by simpa using other w hw), Option.none_or]
  have boundary : rule.boundary? h.rows v.key = rule.boundary? (h.since marker) v.key := by
    unfold RetentionRule.boundary?
    rw [← h.before_append_since marker, List.find?_append,
      List.find?_eq_none.2 (fun w hw => by simp [other w hw]), Option.none_or]
  simp only [RetentionRule.isObsolete, newest, boundary]

end History

/-- What a batch does to a history, given the leading values at which it starts and ends. -/
structure Batched (rule : RetentionRule) (limit : Option Nat) (h h' : History)
    (start stop : Int64) (deleted : Nat) : Prop where
  sub : ∀ v ∈ h', v ∈ h
  gone : ∀ v ∈ h, v ∉ h' → ¬ rule.Keeps h v
  size : h'.size + deleted = h.size
  forward : start ≤ stop
  /-- Behind its marker the batch leaves only what the trim keeps. -/
  settled : ∀ v ∈ h', v.key.leading < stop → v.key.leading < start ∨ rule.Keeps h v
  /-- A batch that takes fewer rows than it may has seen them all. -/
  finished : (∀ n, limit = some n → deleted < n) →
    ∀ v ∈ h', v.key.leading < start ∨ rule.Keeps h v

/-- The versions that a scan met, those that it did not, and what that means for what it leaves. -/
structure History.ScanParts (h : History) (s : RowSelector) (limit : Option Nat)
    (met unmet : List Version) : Prop where
  split : h.since s.marker = met ++ unmet
  left : ∀ v, v ∈ h.afterSweep s.restartGroup limit ↔
    v ∈ h.before s.marker ∨ (v ∈ met ∧ s.rule.Keeps h v) ∨ v ∈ unmet
  stop : (h.sweep s.restartGroup limit).selector.marker =
    (met.getLast?.map fun v => v.key.leading).getD s.marker
  all : (h.sweep s.restartGroup limit).complete = true → unmet = []
  full : (h.sweep s.restartGroup limit).complete = false →
    (∃ front u, met = front ++ [u] ∧ ¬ s.rule.Keeps h u) ∧
      ∃ n, limit = some n ∧ (h.sweep s.restartGroup limit).doomed.length = max n 1

theorem History.exists_scanParts (h : History) (s : RowSelector) (limit : Option Nat) :
    ∃ met unmet, h.ScanParts s limit met unmet := by
  obtain ⟨met, unmet, split, doomed, spared, selector, all, full⟩ :=
    RowSelector.sweep_cut id s.restartGroup limit (h.since s.marker)
  have sorted : (h.since s.marker).Pairwise Version.Precedes :=
    h.ordered.sublist (List.dropWhile_sublist _)
  have sortedMet : met.Pairwise Version.Precedes := (List.pairwise_append.1 (split ▸ sorted)).1
  have verdict {v : Version} (hv : v ∈ met) :
      s.rule.isObsolete met v = true ↔ ¬ s.rule.Keeps h v := by
    have ahead : v ∈ h.since s.marker := by simp [split, hv]
    rw [RetentionRule.keeps_iff ((mem_before_or_since s.marker).2 (.inr ahead)),
      ← isObsolete_since _ ahead, split, RetentionRule.isObsolete_append hv, Bool.not_eq_false]
  obtain ⟨selects, leaves⟩ := s.knows_restartGroup.sweep sortedMet
  rw [leaves, List.nil_append] at spared
  refine ⟨met, unmet, split, ?_, ?_, all, fun incomplete => ?_⟩
  · intro v
    have parts : (h.afterSweep s.restartGroup limit).rows =
        h.before s.marker ++ (met.filter (fun v => !s.rule.isObsolete met v) ++ unmet) :=
      congrArg (h.before s.marker ++ ·) spared
    rw [mem_def, parts, List.mem_append, List.mem_append, List.mem_filter]
    refine or_congr_right (or_congr_left (and_congr_right fun hv => ?_))
    rw [Bool.not_eq_true', Bool.eq_false_iff, Ne, verdict hv, Classical.not_not]
  · exact (congrArg RowSelector.marker selector).trans (RowSelector.marker_sweep id _ met)
  · obtain ⟨⟨front, u, last, taken⟩, count⟩ := full incomplete
    rw [doomed, selects, List.nil_append] at taken
    obtain ⟨isMet, obsolete⟩ := List.mem_filter.1 taken
    exact ⟨⟨front, u, last, (verdict isMet).1 obsolete⟩, count⟩

namespace History.ScanParts

variable {h : History} {s : RowSelector} {limit : Option Nat} {met unmet : List Version}

theorem mem_iff (parts : h.ScanParts s limit met unmet) {v : Version} :
    v ∈ h ↔ v ∈ h.before s.marker ∨ v ∈ met ∨ v ∈ unmet := by
  rw [mem_before_or_since s.marker, parts.split, List.mem_append]

theorem stop_le_unmet (parts : h.ScanParts s limit met unmet) {v : Version} (hv : v ∈ unmet) :
    (h.sweep s.restartGroup limit).selector.marker ≤ v.key.leading := by
  rw [parts.stop]
  cases last : met.getLast? with
  | none => exact le_leading_of_mem_since (parts.split ▸ List.mem_append_right met hv)
  | some u =>
      have sorted : (met ++ unmet).Pairwise Version.Precedes :=
        parts.split ▸ h.ordered.sublist (List.dropWhile_sublist _)
      exact ((List.pairwise_append.1 sorted).2.2 u (List.mem_of_getLast? last) v hv).leading_le

theorem start_le_stop (parts : h.ScanParts s limit met unmet) :
    s.marker ≤ (h.sweep s.restartGroup limit).selector.marker := by
  rw [parts.stop]
  cases last : met.getLast? with
  | none => exact Int64.le_refl _
  | some v =>
      have hv := List.mem_append_left unmet (List.mem_of_getLast? last)
      exact le_leading_of_mem_since (parts.split ▸ hv)

theorem unmet_eq_nil (parts : h.ScanParts s limit met unmet)
    (few : ∀ n, limit = some n → (h.sweep s.restartGroup limit).doomed.length < n) :
    unmet = [] := by
  cases complete : (h.sweep s.restartGroup limit).complete with
  | true => exact parts.all complete
  | false =>
      obtain ⟨-, n, limited, count⟩ := parts.full complete
      have := few n limited
      omega

end History.ScanParts

theorem History.batched (h : History) (s : RowSelector) (limit : Option Nat) :
    Batched s.rule limit h (h.afterSweep s.restartGroup limit) s.marker
      (h.sweep s.restartGroup limit).selector.marker
      (h.sweep s.restartGroup limit).doomed.length := by
  obtain ⟨met, unmet, parts⟩ := h.exists_scanParts s limit
  refine ⟨?_, ?_, h.size_afterSweep s.restartGroup limit, parts.start_le_stop, ?_, ?_⟩
  · intro v hv
    exact parts.mem_iff.2 (((parts.left v).1 hv).imp_right (·.imp_left (·.1)))
  · intro v hv gone keeps
    exact gone ((parts.left v).2 ((parts.mem_iff.1 hv).imp_right (·.imp_left (⟨·, keeps⟩))))
  · intro v hv behind
    rcases (parts.left v).1 hv with before | ⟨-, keeps⟩ | ahead
    · exact .inl (leading_lt_of_mem_before before)
    · exact .inr keeps
    · exact absurd behind (Int64.not_lt.2 (parts.stop_le_unmet ahead))
  · intro few v hv
    rcases (parts.left v).1 hv with before | ⟨-, keeps⟩ | ahead
    · exact .inl (leading_lt_of_mem_before before)
    · exact .inr keeps
    · simp [parts.unmet_eq_nil few] at ahead

namespace MemoryStore

/-- The versions of a table, if there is one of that name. -/
def history? (s : MemoryStore) (name : String) : Option History :=
  (s.tables.get? name).map MemoryTable.history

/-- No failure is arranged for a batch that is still to come. -/
def Untroubled (s : MemoryStore) : Prop := ∀ n, s.failingBatch = some n → n ≤ s.batchesStarted

theorem history?_withHistory (s : MemoryStore) (name other : String) (table : MemoryTable)
    (h : History) : (s.withHistory name table h).history? other =
      if other = name then some h else s.history? other := by
  unfold history? withHistory
  rw [Dictionary.get?_put]
  split <;> rfl

theorem untroubled_deleteBatch {s : MemoryStore} (untroubled : s.Untroubled) (t : Table)
    (selector : RowSelector) (limit : Option Nat) :
    (s.deleteBatch t selector limit).store.Untroubled := by
  have later (n : Nat) (arranged : s.failingBatch = some n) : n ≤ s.batchesStarted + 1 :=
    Nat.le_succ_of_le (untroubled n arranged)
  cases s.batch_ends t selector limit with
  | refused _ _ ends | done _ _ _ ends =>
      rw [ends]
      exact later

theorem rule_deleteBatch (s : MemoryStore) (t : Table) (selector : RowSelector)
    (limit : Option Nat) :
    (VersionStore.deleteBatch s t selector limit).selector.rule = selector.rule := by
  change (s.deleteBatch t selector limit).selector.rule = selector.rule
  cases s.batch_ends t selector limit with
  | refused _ _ ends => rw [ends]
  | done _ _ _ ends =>
      rw [ends]
      exact RowSelector.rule_sweep ..

theorem deleteBatch_cases {s : MemoryStore} {t : Table} {h : History}
    (stored : s.history? t.name = some h) (selector : RowSelector) (limit : Option Nat) :
    ((∃ e, (s.deleteBatch t selector limit).outcome = .error e) ∧
        (s.deleteBatch t selector limit).selector = selector ∧
        (s.deleteBatch t selector limit).store.history? t.name = some h ∧ ¬ s.Untroubled) ∨
      ((s.deleteBatch t selector limit).outcome = .ok (h.sweep selector limit).doomed.length ∧
        (s.deleteBatch t selector limit).selector = (h.sweep selector limit).selector ∧
        (s.deleteBatch t selector limit).store.history? t.name =
          some (h.afterSweep selector limit) ∧
        (s.Untroubled → (s.deleteBatch t selector limit).store.Untroubled)) := by
  obtain ⟨table, found, rfl⟩ := Option.map_eq_some_iff.1 stored
  have quiet (untroubled : s.Untroubled) := untroubled_deleteBatch untroubled t selector limit
  cases s.batch_ends t selector limit with
  | refused e reason ends =>
      have due : s.failingBatch = some (s.batchesStarted + 1) :=
        reason.resolve_right fun missing => by cases found.symm.trans missing
      rw [ends]
      exact .inl ⟨⟨e, rfl⟩, rfl, stored, fun untroubled => Nat.not_succ_le_self _ (untroubled _ due)⟩
  | done table' found' _ ends =>
      cases found.symm.trans found'
      rw [ends] at quiet ⊢
      exact .inr ⟨rfl, rfl, by rw [history?_withHistory, if_pos rfl], quiet⟩

theorem deleteBatch_restartGroup {s : MemoryStore} {t : Table} {h : History}
    (stored : s.history? t.name = some h) (selector : RowSelector) (limit : Option Nat) :
    let batch := s.deleteBatch t selector.restartGroup limit
    ((∃ e, batch.outcome = .error e) ∧ batch.store.history? t.name = some h ∧ ¬ s.Untroubled) ∨
      ∃ deleted h', batch.outcome = .ok deleted ∧ batch.store.history? t.name = some h' ∧
        Batched selector.rule limit h h' selector.marker batch.selector.marker deleted ∧
        batch.selector.rule = selector.rule ∧ (s.Untroubled → batch.store.Untroubled) := by
  intro batch
  rcases deleteBatch_cases stored selector.restartGroup limit with
    ⟨failed, -, untouched, troubled⟩ | ⟨done, selected, left, untroubled⟩
  · exact .inl ⟨failed, untouched, troubled⟩
  · refine .inr ⟨_, _, done, left, ?_, rule_deleteBatch .., untroubled⟩
    rw [selected]
    exact h.batched selector limit

theorem deleteBatch_done {s : MemoryStore} {t : Table} {h : History}
    (stored : s.history? t.name = some h) {selector : RowSelector} {limit : Option Nat}
    {deleted : Nat} (done : (s.deleteBatch t selector.restartGroup limit).outcome = .ok deleted) :
    let batch := s.deleteBatch t selector.restartGroup limit
    ∃ h', batch.store.history? t.name = some h' ∧
      Batched selector.rule limit h h' selector.marker batch.selector.marker deleted ∧
      batch.selector.rule = selector.rule := by
  intro batch
  rcases deleteBatch_restartGroup stored selector limit with
    ⟨⟨e, failed⟩, -⟩ | ⟨count, h', done', left, batched, rule, -⟩
  · cases failed.symm.trans done
  · cases Except.ok.inj (done'.symm.trans done)
    exact ⟨h', left, batched, rule⟩

theorem trimUnordered_found {s : MemoryStore} {t : Table} {table : MemoryTable}
    (found : s.tables.get? t.name = some table) (rule : RetentionRule) :
    s.trimUnordered t rule = (.ok (table.history.size - (table.history.trimmed rule).size),
      s.withHistory t.name table (table.history.trimmed rule)) := by
  let dooms := (Tally.ofRows rule table.history.rows).dooms rule
  have rest : (table.history.filter fun v => !dooms v) = table.history.trimmed rule := by
    refine History.ext (List.filter_congr fun v hv => ?_)
    exact congrArg not (Tally.dooms_eq_isObsolete hv)
  have counted : (table.history.rows.filter dooms).length =
      table.history.size - (table.history.trimmed rule).size := by
    have parts := (List.filter_append_perm dooms table.history.rows).length_eq
    rw [List.length_append] at parts
    rw [← rest, History.size, History.size, History.rows_filter]
    omega
  simp only [trimUnordered, found]
  rw [← counted, ← rest]

/-- A trim without an order leaves what it keeps, and counts what goes. -/
theorem trimUnordered_eq {s : MemoryStore} {t : Table} {h : History}
    (stored : s.history? t.name = some h) (rule : RetentionRule) :
    (s.trimUnordered t rule).1 = .ok (h.size - (h.trimmed rule).size) ∧
      (s.trimUnordered t rule).2.history? t.name = some (h.trimmed rule) := by
  obtain ⟨table, found, rfl⟩ := Option.map_eq_some_iff.1 stored
  simp only [trimUnordered_found found, history?_withHistory, if_true, and_self]

end MemoryStore

end HistoryTrim
