import HistoryTrim.Proofs.Interruption
import HistoryTrim.Proofs.Window

/-! # Half-trimmed tables

A run deletes in scan order, so between two batches the table is known from the last version that is
gone: the trim is done up to there and has not begun behind. Scan order takes the newest versions of
an entity first. One that was gone before the window is thus shown as it was, or not at all, unless
the run stands in the midst of its versions.
-/

namespace HistoryTrim

/-- A batch that stopped at a row left what lies behind that one, and of the rows that it met what
    it keeps. -/
theorem History.ScanParts.left_iff {h : History} {s : RowSelector} {limit : Option Nat}
    {front unmet : List Version} {u : Version}
    (parts : h.ScanParts s limit (front ++ [u]) unmet) {v : Version} :
    v ∈ h.afterSweep s.restartGroup limit ↔
      v ∈ h ∧ (v.key.leading < s.marker ∨ s.rule.Keeps h v ∨ u.Precedes v) := by
  have sorted : (front ++ [u] ++ unmet).Pairwise Version.Precedes :=
    parts.split ▸ h.ordered.sublist (List.dropWhile_sublist _)
  obtain ⟨sortedMet, -, later⟩ := List.pairwise_append.1 sorted
  have earlier := (List.pairwise_append.1 sortedMet).2.2
  have ahead : u ∈ h.since s.marker := by simp [parts.split]
  have notMet (behind : u.Precedes v) : v ∉ front ++ [u] := by
    intro met
    rcases List.mem_append.1 met with early | last
    · exact Version.not_precedes_self u (behind.trans (earlier v early u (by simp)))
    · rw [List.mem_singleton.1 last] at behind
      exact Version.not_precedes_self u behind
  have notBefore {w : Version} (since : w ∈ h.since s.marker) : ¬ w.key.leading < s.marker :=
    Int64.not_lt.2 (le_leading_of_mem_since since)
  rw [parts.left v]
  constructor
  · rintro (before | ⟨met, keeps⟩ | unmet)
    · exact ⟨parts.mem_iff.2 (.inl before), .inl (leading_lt_of_mem_before before)⟩
    · exact ⟨parts.mem_iff.2 (.inr (.inl met)), .inr (.inl keeps)⟩
    · exact ⟨parts.mem_iff.2 (.inr (.inr unmet)), .inr (.inr (later u (by simp) v unmet))⟩
  · rintro ⟨hv, stays⟩
    rcases parts.mem_iff.1 hv with before | met | unmet
    · exact .inl before
    · have since : v ∈ h.since s.marker := parts.split ▸ List.mem_append_left unmet met
      rcases stays with before | keeps | behind
      · exact absurd before (notBefore since)
      · exact .inr (.inl ⟨met, keeps⟩)
      · exact absurd met (notMet behind)
    · exact .inr (.inr unmet)

namespace Window

theorem lookup_congr {a b : History} {key : Key}
    (same : ∀ v : Version, v.key = key → (v ∈ a ↔ v ∈ b)) (height : Height) :
    lookup a key height = lookup b key height := by
  refine Option.ext fun v => ?_
  simp only [lookup_eq_some_iff]
  constructor
  · rintro ⟨hv, vKey, upTo, top⟩
    exact ⟨(same v vKey).1 hv, vKey, upTo, fun w hw wKey => top w ((same w wKey).2 hw) wKey⟩
  · rintro ⟨hv, vKey, upTo, top⟩
    exact ⟨(same v vKey).2 hv, vKey, upTo, fun w hw wKey => top w ((same w wKey).1 hw) wKey⟩

theorem FullyObsolete.retained {rule : RetentionRule} {h : History} {v : Version}
    (gone : FullyObsolete rule h v.key) (hv : v ∈ h) (keeps : rule.Keeps h v) :
    rule.retained = some v.height := by
  obtain ⟨top, newest, topKey, notLatest, below⟩ := gone
  rcases keeps with inWindow | retained | ⟨⟨other, newest', otherKey, alive⟩, -⟩
  · have above := newest.2 v hv topKey.symm
    exact absurd (Int64.le_trans inWindow above) (Int64.not_le.2 below)
  · exact retained
  · cases newest'.unique newest (otherKey.trans topKey.symm)
    rcases alive with latest | inWindow
    · cases latest.symm.trans notLatest
    · exact absurd inWindow (Int64.not_le.2 below)

end Window

/-- How far a trim that started on a history has come: up to a version that it took, or nowhere. -/
structure RetentionRule.CutAt (rule : RetentionRule) (start h : History) (cut : Option Version) :
    Prop where
  mem_iff : ∀ v, v ∈ h ↔ v ∈ start ∧ (rule.Keeps start v ∨ ∀ u ∈ cut, u.Precedes v)
  taken : ∀ u ∈ cut, u ∈ start ∧ ¬ rule.Keeps start u

namespace RetentionRule.CutAt

variable {rule : RetentionRule} {start h : History} {cut : Option Version}

theorem first (rule : RetentionRule) (h : History) : rule.CutAt h h none where
  mem_iff v := ⟨fun hv => ⟨hv, .inr fun u none => by cases none⟩, And.left⟩
  taken u none := by cases none

theorem partway (at_cut : rule.CutAt start h cut) : rule.Partway start h where
  sub v hv := ((at_cut.mem_iff v).1 hv).1
  kept v hv keeps := (at_cut.mem_iff v).2 ⟨hv, .inl keeps⟩

theorem not_mem (at_cut : rule.CutAt start h cut) {u : Version} (last : u ∈ cut) : u ∉ h := by
  intro stays
  rcases ((at_cut.mem_iff u).1 stays).2 with keeps | after
  · exact (at_cut.taken u last).2 keeps
  · exact Version.not_precedes_self u (after u last)

/-- The leading value at which a trim that has come so far resumes. -/
def resume (cut : Option Version) : Int64 :=
  (cut.map fun u => u.key.leading).getD Int64.minValue

theorem keeps_of_passed (at_cut : rule.CutAt start h cut) {v : Version} (hv : v ∈ h)
    (passed : v.key.leading < resume cut) : rule.Keeps start v := by
  refine ((at_cut.mem_iff v).1 hv).2.resolve_right fun after => ?_
  cases cut with
  | none => exact Int64.not_le.2 passed (Int64.minValue_le _)
  | some u => exact Int64.not_le.2 passed (after u rfl).leading_le

/-- The next full batch moves the cut to the row at which it stopped. -/
theorem next (at_cut : rule.CutAt start h cut) (newestOnly : start.LatestIsNewest)
    {s : RowSelector} (same : s.rule = rule) (resumes : s.marker = resume cut)
    {limit : Option Nat} (incomplete : (h.sweep s.restartGroup limit).complete = false) :
    ∃ u, rule.CutAt start (h.afterSweep s.restartGroup limit) (some u) ∧
      (h.sweep s.restartGroup limit).selector.marker = resume (some u) := by
  subst same
  obtain ⟨met, unmet, parts⟩ := h.exists_scanParts s limit
  obtain ⟨⟨front, u, rfl, obsolete⟩, -⟩ := parts.full incomplete
  have there : u ∈ h := parts.mem_iff.2 (.inr (.inl (by simp)))
  have partway := at_cut.partway
  have obsoleteStart : ¬ s.rule.Keeps start u := fun keeps =>
    obsolete (partway.keeps_lower rfl (Int64.le_refl _) keeps)
  have beyond : ∀ w ∈ cut, w.Precedes u :=
    ((at_cut.mem_iff u).1 there).2.resolve_left obsoleteStart
  refine ⟨u, ⟨fun v => ?_, ?_⟩, ?_⟩
  · rw [parts.left_iff]
    constructor
    · rintro ⟨hv, before | keeps | behind⟩
      · exact ⟨partway.sub v hv, .inl (at_cut.keeps_of_passed hv (resumes ▸ before))⟩
      · exact ⟨partway.sub v hv, .inl (partway.keeps_start newestOnly hv keeps)⟩
      · exact ⟨partway.sub v hv, .inr fun w last => Option.mem_some.1 last ▸ behind⟩
    · rintro ⟨hv, keeps | behind⟩
      · exact ⟨partway.kept v hv keeps,
          .inr (.inl (partway.keeps_lower rfl (Int64.le_refl _) keeps))⟩
      · have behind := behind u rfl
        exact ⟨(at_cut.mem_iff v).2 ⟨hv, .inr fun w last => (beyond w last).trans behind⟩,
          .inr (.inr behind)⟩
  · rintro w ⟨⟩
    exact ⟨partway.sub u there, obsoleteStart⟩
  · rw [parts.stop]
    simp [resume]

theorem lookup (at_cut : rule.CutAt start h cut) {key : Key}
    (gone : Window.FullyObsolete rule start key) (elsewhere : ∀ u ∈ cut, u.key ≠ key)
    (height : Height) :
    Window.lookup h key height = Window.lookup start key height ∨
      Window.lookup h key height = none ∨
        ∃ v, Window.lookup h key height = some v ∧ rule.retained = some v.height := by
  by_cases ahead : ∀ u ∈ cut, compare u.key key = .lt
  · refine .inl (Window.lookup_congr (fun v vKey => ?_) height)
    rw [at_cut.mem_iff v, and_iff_left_iff_imp]
    exact fun _ => .inr fun u last => Version.precedes_iff.2 (.inl (vKey ▸ ahead u last))
  · refine .inr ?_
    obtain ⟨u, last, notAhead⟩ : ∃ u ∈ cut, compare u.key key ≠ .lt := by simpa using ahead
    cases found : Window.lookup h key height with
    | none => exact .inl rfl
    | some v =>
        obtain ⟨hv, rfl, -⟩ := Window.lookup_eq_some_iff.1 found
        obtain ⟨there, keeps | behind⟩ := (at_cut.mem_iff v).1 hv
        · exact .inr ⟨v, rfl, gone.retained there keeps⟩
        · rcases Version.precedes_iff.1 (behind u last) with before | ⟨same, -⟩
          · exact absurd before notAhead
          · exact absurd same (elsewhere u last)

end RetentionRule.CutAt

namespace Window

open VersionStore

variable {rule : RetentionRule} {start h : History} {t : Table} {s : MemoryStore}
  {size : Option BatchSize}

theorem afterBatches_cutAt (newestOnly : start.LatestIsNewest)
    (stored : s.history? t.name = some start) {count : Nat}
    (between : count < (trimOrdered s t size rule).batches.length) :
    ∃ h cut, (afterBatches t size count s (.start rule)).1.history? t.name = some h ∧
      rule.CutAt start h cut ∧ (cut = none ↔ count = 0) := by
  let motive : Nat → MemoryStore → RowSelector → Prop := fun count store here =>
    here.rule = rule ∧ ∃ h cut, store.history? t.name = some h ∧ rule.CutAt start h cut ∧
      (cut = none ↔ count = 0) ∧ here.marker = RetentionRule.CutAt.resume cut
  have first : motive 0 s (.start rule) :=
    ⟨rfl, start, none, stored, .first rule start, by simp, rfl⟩
  have last : motive count (afterBatches t size count s (.start rule)).1
      (afterBatches t size count s (.start rule)).2 := by
    refine afterBatches_induction first ?_ between
    rintro count store here n deleted limited ⟨rfl, h, cut, stored, at_cut, -, resumes⟩ full done
    rcases MemoryStore.deleteBatch_cases stored here.restartGroup (some n.rows) with
      ⟨⟨e, failed⟩, -⟩ | ⟨done', selected, left, -⟩
    · cases failed.symm.trans done
    · cases Except.ok.inj (done.symm.trans done')
      have incomplete : (h.sweep here.restartGroup (some n.rows)).complete = false := by
        refine Bool.eq_false_iff.2 fun complete => ?_
        have few := RowSelector.length_doomed_lt id here.restartGroup n.rows _ complete
        rw [Nat.max_eq_left n.rows_pos] at few
        exact Nat.not_le.2 few full
      obtain ⟨u, moved, marker⟩ := at_cut.next newestOnly rfl resumes incomplete
      have rule : (VersionStore.deleteBatch store t here.restartGroup (some n.rows)).selector.rule =
          here.rule := (congrArg RowSelector.rule selected).trans (RowSelector.rule_sweep ..)
      exact ⟨rule, _, some u, left, moved, by simp,
        (congrArg RowSelector.marker selected).trans marker⟩
  obtain ⟨-, h, cut, left, at_cut, begun, -⟩ := last
  exact ⟨h, cut, left, at_cut, begun⟩

/-- Between two batches a run has deleted just what it deletes up to a certain version, the last one
    that it took. An entity that was gone before the window is seen as before the run, at the
    retained height or not at all, unless that version is one of its own. -/
theorem lookup_between_batches (rule : RetentionRule) {size : Option Nat}
    (newestOnly : start.LatestIsNewest) (stored : s.history? t.name = some start) {count : Nat}
    (between : count < (trimOrdered s t (BatchSize.ofOption? size) rule).batches.length) :
    ∃ rest cut,
      (afterBatches t (BatchSize.ofOption? size) count s (.start rule)).1.history? t.name =
          some rest ∧
        (cut = none ↔ count = 0) ∧ (∀ u ∈ cut, u ∈ start ∧ u ∉ rest) ∧
        (∀ v, v ∈ rest ↔ v ∈ start ∧ (rule.Keeps start v ∨ ∀ u ∈ cut, u.Precedes v)) ∧
        ∀ key, FullyObsolete rule start key → (∀ u ∈ cut, u.key ≠ key) → ∀ height,
          lookup rest key height = lookup start key height ∨ lookup rest key height = none ∨
            ∃ v, lookup rest key height = some v ∧ rule.retained = some v.height := by
  obtain ⟨rest, cut, left, at_cut, begun⟩ := afterBatches_cutAt newestOnly stored between
  refine ⟨rest, cut, left, begun, fun u last => ?_, at_cut.mem_iff, fun key gone elsewhere => ?_⟩
  · exact ⟨(at_cut.taken u last).1, at_cut.not_mem last⟩
  · exact at_cut.lookup gone elsewhere

open MemoryStore (accounts accountHistory accountStore)

theorem lookup_between_batches_accounts :
    accountHistory.LatestIsNewest ∧ accountStore.history? accounts.name = some accountHistory ∧
      1 < (trimOrdered accountStore accounts (BatchSize.ofOption? (some 1))
        ⟨6, some (-1)⟩).batches.length ∧
      FullyObsolete ⟨6, some (-1)⟩ accountHistory ⟨2, []⟩ ∧
      ∃ rest,
        (afterBatches accounts (BatchSize.ofOption? (some 1)) 1 accountStore
          (.start ⟨6, some (-1)⟩)).1.history? accounts.name = some rest ∧
        rest.size < accountHistory.size ∧
        lookup rest ⟨2, []⟩ 6 = lookup accountHistory ⟨2, []⟩ 6 := by
  let size : BatchSize := ⟨1, by decide⟩
  let selector := (RowSelector.start ⟨6, some (-1)⟩).restartGroup
  let first := accountStore.deleteBatch accounts selector (some 1)
  let one := accountHistory.afterSweep selector (some 1)
  have newestOnly : accountHistory.LatestIsNewest := by decide
  have stored : accountStore.history? accounts.name = some accountHistory := rfl
  have gone : FullyObsolete ⟨6, some (-1)⟩ accountHistory ⟨2, []⟩ := by decide
  have full : first.outcome = .ok 1 :=
    congrArg Except.ok (by decide : (accountHistory.sweep selector (some 1)).doomed.length = 1)
  have more : 1 < (trimOrdered accountStore accounts (BatchSize.ofOption? (some 1))
      ⟨6, some (-1)⟩).batches.length := by
    have run : trimOrdered accountStore accounts (some size) ⟨6, some (-1)⟩ = _ :=
      runBatches_full full (Nat.le_refl 1)
    have rest : 0 < (runBatches accounts (some size) first.store first.selector).batches.length :=
      batches_pos (rfl : (first.store.deleteBatch accounts first.selector.restartGroup
        (some 1)).outcome = .ok (one.sweep first.selector.restartGroup (some 1)).doomed.length)
    exact run ▸ Nat.succ_lt_succ rest
  obtain ⟨rest, cut, left, -, taken, -, seen⟩ :=
    lookup_between_batches ⟨6, some (-1)⟩ newestOnly stored more
  obtain rfl : one = rest := Option.some.inj left
  have apart : ∀ u ∈ accountHistory.rows, u.key = ⟨2, []⟩ → u ∈ one.rows := by decide
  have elsewhere : ∀ u ∈ cut, u.key ≠ ⟨2, []⟩ := fun u last same =>
    (taken u last).2 (apart u (taken u last).1 same)
  have shown : lookup one ⟨2, []⟩ 6 = some ⟨⟨2, []⟩, 5, false⟩ := by decide
  refine ⟨newestOnly, stored, more, gone, one, left, by decide, ?_⟩
  rcases seen ⟨2, []⟩ gone elsewhere 6 with same | lost | ⟨v, found, retained⟩
  · exact same
  · cases shown.symm.trans lost
  · cases Option.some.inj (shown.symm.trans found)
    exact absurd retained (by decide)

/-- The account that was gone at 5 is shown as it was at 2 when a batch ends after its newest
    version. -/
theorem lookup_between_batches_stale :
    accountHistory.LatestIsNewest ∧ accountStore.history? accounts.name = some accountHistory ∧
      1 < (trimOrdered accountStore accounts (BatchSize.ofOption? (some 2))
        ⟨6, some (-1)⟩).batches.length ∧
      FullyObsolete ⟨6, some (-1)⟩ accountHistory ⟨2, []⟩ ∧
      lookup accountHistory ⟨2, []⟩ 6 = some ⟨⟨2, []⟩, 5, false⟩ ∧
      ∃ rest,
        (afterBatches accounts (BatchSize.ofOption? (some 2)) 1 accountStore
          (.start ⟨6, some (-1)⟩)).1.history? accounts.name = some rest ∧
        lookup rest ⟨2, []⟩ 6 = some ⟨⟨2, []⟩, 2, false⟩ := by
  have more : 1 < (trimOrdered accountStore accounts (BatchSize.ofOption? (some 2))
      ⟨6, some (-1)⟩).batches.length := by
    have count := congrArg List.length MemoryStore.committed_accounts
    rw [BatchRun.committed, List.length_map] at count
    exact Nat.lt_of_lt_of_eq Nat.one_lt_two count.symm
  exact ⟨by decide, rfl, more, by decide, by decide, _, rfl, by decide⟩

end Window

end HistoryTrim
