import HistoryTrim.Proofs.Histories
import HistoryTrim.RowSelector

/-! # The rule of a trim

What a trim keeps, said of the stored versions and without a scan: the window, the retained height,
and of every entity that lives at the trim height the newest version below it. The two searches of
the rule come to the same.
-/

namespace HistoryTrim

namespace RetentionRule

/-- The newest version of a key: the first one that a scan meets. -/
def newest? (rows : List Version) (key : Key) : Option Version :=
  rows.find? fun v => v.key = key

/-- The newest version of a key that a trim could delete. -/
def boundary? (rule : RetentionRule) (rows : List Version) (key : Key) : Option Version :=
  rows.find? fun v => v.key = key && !rule.spares v.height

/-- A version of a table is obsolete: within reach, and either its entity was gone before the
    window, or a newer version within reach stands in for it. -/
def isObsolete (rule : RetentionRule) (rows : List Version) (v : Version) : Bool :=
  !rule.spares v.height &&
    ((newest? rows v.key).any rule.outlives ||
      (rule.boundary? rows v.key).any fun b => b.height ≠ v.height)

end RetentionRule

/-- The history without its obsolete versions. -/
def History.trimmed (h : History) (rule : RetentionRule) : History :=
  h.filter fun v => !rule.isObsolete h.rows v

namespace History

/-- The version of greatest height among those of its key. -/
def IsNewest (h : History) (v : Version) : Prop :=
  v ∈ h ∧ ∀ w ∈ h, w.key = v.key → w.height ≤ v.height

/-- Of every key no version but the newest is latest. -/
def LatestIsNewest (h : History) : Prop := ∀ v ∈ h, v.latest = true → h.IsNewest v

instance (h : History) (v : Version) : Decidable (h.IsNewest v) :=
  inferInstanceAs (Decidable (v ∈ h.rows ∧ ∀ w ∈ h.rows, w.key = v.key → w.height ≤ v.height))

instance (h : History) : Decidable h.LatestIsNewest :=
  inferInstanceAs (Decidable (∀ v ∈ h.rows, v.latest = true → h.IsNewest v))

theorem newest?_eq_some_iff {h : History} {key : Key} {v : Version} :
    RetentionRule.newest? h.rows key = some v ↔ h.IsNewest v ∧ v.key = key := by
  have general := @find?_eq_some_iff h key (fun _ => true) v
  simp only [Bool.and_true, true_and, forall_const] at general
  rw [RetentionRule.newest?, general]
  constructor
  · rintro ⟨hv, rfl, top⟩
    exact ⟨⟨hv, top⟩, rfl⟩
  · rintro ⟨⟨hv, top⟩, rfl⟩
    exact ⟨hv, rfl, top⟩

theorem exists_newest {h : History} {v : Version} (hv : v ∈ h) :
    ∃ top, h.IsNewest top ∧ top.key = v.key := by
  cases found : RetentionRule.newest? h.rows v.key with
  | none =>
      have := List.find?_eq_none.1 found v hv
      simp at this
  | some top => exact ⟨top, newest?_eq_some_iff.1 found⟩

theorem IsNewest.unique {h : History} {a b : Version} (ha : h.IsNewest a) (hb : h.IsNewest b)
    (key : a.key = b.key) : a = b :=
  eq_of_same_place ha.1 hb.1 key
    (Int64.le_antisymm (hb.2 a ha.1 key) (ha.2 b hb.1 key.symm))

end History

namespace RetentionRule

/-- The entity of a key is there at the trim height: its newest version is latest, or lies in the
    window. -/
def Lives (rule : RetentionRule) (h : History) (key : Key) : Prop :=
  ∃ top, h.IsNewest top ∧ top.key = key ∧ (top.latest = true ∨ rule.trimHeight ≤ top.height)

/-- A version within reach of the trim: below the trim height and not at the retained height. -/
def Reaches (rule : RetentionRule) (v : Version) : Prop :=
  v.height < rule.trimHeight ∧ rule.retained ≠ some v.height

/-- The version of greatest height among those of its key within reach. -/
def IsBoundary (rule : RetentionRule) (h : History) (v : Version) : Prop :=
  rule.Reaches v ∧ ∀ w ∈ h, w.key = v.key → rule.Reaches w → w.height ≤ v.height

/-- A trim keeps this version of a history. -/
def Keeps (rule : RetentionRule) (h : History) (v : Version) : Prop :=
  rule.trimHeight ≤ v.height ∨ rule.retained = some v.height ∨
    (rule.Lives h v.key ∧ rule.IsBoundary h v)

theorem reaches_iff {rule : RetentionRule} {v : Version} :
    rule.Reaches v ↔ rule.spares v.height = false := by
  simp [Reaches, spares, Int64.not_le]

theorem outlives_iff {rule : RetentionRule} {v : Version} :
    rule.outlives v = true ↔ v.height < rule.trimHeight ∧ v.latest = false := by
  simp [outlives]

theorem boundary?_eq_some_iff {rule : RetentionRule} {h : History} {key : Key} {v : Version} :
    rule.boundary? h.rows key = some v ↔ v ∈ h ∧ v.key = key ∧ rule.IsBoundary h v := by
  have general := @History.find?_eq_some_iff h key (fun w => !rule.spares w.height) v
  simp only [Bool.not_eq_true', ← reaches_iff] at general
  rw [boundary?, general]
  constructor
  · rintro ⟨hv, rfl, reach, top⟩
    exact ⟨hv, rfl, reach, top⟩
  · rintro ⟨hv, rfl, reach, top⟩
    exact ⟨hv, rfl, reach, top⟩

theorem keeps_of_not_reaches {rule : RetentionRule} {h : History} {v : Version}
    (beyond : ¬ rule.Reaches v) : rule.Keeps h v := by
  rw [Reaches, Classical.not_and_iff_not_or_not, Int64.not_lt, Classical.not_not] at beyond
  exact beyond.elim .inl fun retained => .inr (.inl retained)

theorem lives_iff_newest (rule : RetentionRule) {h : History} {top : Version}
    (newest : h.IsNewest top) : rule.Lives h top.key ↔ rule.outlives top = false := by
  rw [Bool.eq_false_iff, Ne, outlives_iff]
  constructor
  · rintro ⟨other, newest', key, alive⟩ ⟨below, gone⟩
    rw [newest'.unique newest key] at alive
    grind
  · intro alive
    refine ⟨top, newest, rfl, ?_⟩
    grind

theorem exists_boundary {rule : RetentionRule} {h : History} {v : Version} (hv : v ∈ h)
    (reach : rule.Reaches v) : ∃ b ∈ h, b.key = v.key ∧ rule.IsBoundary h b := by
  cases found : rule.boundary? h.rows v.key with
  | none =>
      have := List.find?_eq_none.1 found v hv
      simp [reaches_iff.1 reach] at this
  | some b =>
      obtain ⟨hb, key, boundary⟩ := boundary?_eq_some_iff.1 found
      exact ⟨b, hb, key, boundary⟩

/-- What the rule finds by its two searches is what a trim does not keep. -/
theorem keeps_iff {rule : RetentionRule} {h : History} {v : Version} (hv : v ∈ h) :
    rule.Keeps h v ↔ rule.isObsolete h.rows v = false := by
  by_cases reach : rule.Reaches v
  · obtain ⟨top, newest, topKey⟩ := History.exists_newest hv
    obtain ⟨b, hb, bKey, boundary⟩ := exists_boundary hv reach
    have foundTop := History.newest?_eq_some_iff.2 ⟨newest, topKey⟩
    have foundBoundary := boundary?_eq_some_iff.2 ⟨hb, bKey, boundary⟩
    have alive := lives_iff_newest rule newest
    rw [topKey] at alive
    have isBoundary : rule.IsBoundary h v ↔ b.height = v.height := by
      constructor
      · intro vBoundary
        exact Int64.le_antisymm (vBoundary.2 b hb bKey boundary.1) (boundary.2 v hv bKey.symm reach)
      · intro height
        rwa [History.eq_of_same_place hb hv bKey height] at boundary
    have outside : ¬ (rule.trimHeight ≤ v.height) := Int64.not_le.2 reach.1
    simp only [Keeps, outside, reach.2, false_or, alive, isBoundary, isObsolete, foundTop,
      foundBoundary, Option.any_some, reaches_iff.1 reach, Bool.not_false, Bool.true_and,
      Bool.or_eq_false_iff, decide_eq_false_iff_not, ne_eq, Classical.not_not]
  · have spared : rule.spares v.height = true := by
      simpa [reaches_iff] using reach
    simp [keeps_of_not_reaches reach, isObsolete, spared]

theorem mem_trimmed {rule : RetentionRule} {h : History} {v : Version} :
    v ∈ h.trimmed rule ↔ v ∈ h ∧ rule.Keeps h v := by
  rw [History.mem_def, History.trimmed, History.rows_filter, List.mem_filter]
  constructor
  · rintro ⟨hv, obsolete⟩
    exact ⟨hv, (keeps_iff hv).2 (by simpa using obsolete)⟩
  · rintro ⟨hv, keeps⟩
    exact ⟨hv, by simpa using (keeps_iff hv).1 keeps⟩

theorem mem_of_mem_trimmed {rule : RetentionRule} {h : History} {v : Version}
    (hv : v ∈ h.trimmed rule) : v ∈ h :=
  (mem_trimmed.1 hv).1

theorem not_keeps_of_not_mem_trimmed {rule : RetentionRule} {h : History} {v : Version}
    (hv : v ∈ h) (gone : v ∉ h.trimmed rule) : ¬ rule.Keeps h v :=
  fun keeps => gone (mem_trimmed.2 ⟨hv, keeps⟩)

theorem keeps_newest {rule : RetentionRule} {h : History} {top : Version}
    (newest : h.IsNewest top) (alive : top.latest = true ∨ rule.trimHeight ≤ top.height) :
    rule.Keeps h top := by
  by_cases reach : rule.Reaches top
  · exact .inr (.inr ⟨⟨top, newest, rfl, alive⟩, reach, fun w hw key _ => newest.2 w hw key⟩)
  · exact keeps_of_not_reaches reach

/-! ## Trims in pieces

A trim can be done in pieces, and pieces of trims at lower heights may come between them. A history
on the way has lost only versions that the whole trim takes; from there every version has the same
fate as from the start.
-/

/-- On the way from a history to what a trim leaves of it. -/
structure Partway (rule : RetentionRule) (start h : History) : Prop where
  sub : ∀ v ∈ h, v ∈ start
  kept : ∀ v ∈ start, rule.Keeps start v → v ∈ h

namespace Partway

variable {rule : RetentionRule} {start h : History}

theorem refl (rule : RetentionRule) (h : History) : rule.Partway h h :=
  ⟨fun _ hv => hv, fun _ hv _ => hv⟩

theorem keeps_lower (partway : rule.Partway start h) {lower : RetentionRule}
    (retained : lower.retained = rule.retained) (height : lower.trimHeight ≤ rule.trimHeight)
    {v : Version} (keeps : rule.Keeps start v) : lower.Keeps h v := by
  have reach_up {w : Version} (reach : lower.Reaches w) : rule.Reaches w :=
    ⟨Int64.lt_of_lt_of_le reach.1 height, retained ▸ reach.2⟩
  rcases keeps with inWindow | isRetained | ⟨⟨top, newest, topKey, alive⟩, reach, greatest⟩
  · exact .inl (Int64.le_trans height inWindow)
  · exact .inr (.inl (retained ▸ isRetained))
  · by_cases inWindow : lower.trimHeight ≤ v.height
    · exact .inl inWindow
    · have topStays : top ∈ h := partway.kept top newest.1 (keeps_newest newest alive)
      have newest' : h.IsNewest top :=
        ⟨topStays, fun w hw key => newest.2 w (partway.sub w hw) key⟩
      have alive' : top.latest = true ∨ lower.trimHeight ≤ top.height :=
        alive.imp_right (Int64.le_trans height)
      refine .inr (.inr ⟨⟨top, newest', topKey, alive'⟩, ?_, ?_⟩)
      · exact ⟨Int64.not_le.1 inWindow, retained ▸ reach.2⟩
      · intro w hw key wReach
        exact greatest w (partway.sub w hw) key (reach_up wReach)

/-- What the trim keeps on the way, it keeps at the start: no version gets a new lease from the
    deletion of others. Only here it matters that just the newest versions are latest. -/
theorem keeps_start (partway : rule.Partway start h) (newestOnly : start.LatestIsNewest)
    {v : Version} (hv : v ∈ h) (keeps : rule.Keeps h v) : rule.Keeps start v := by
  rcases keeps with inWindow | isRetained | ⟨⟨top, newest, topKey, alive⟩, reach, greatest⟩
  · exact .inl inWindow
  · exact .inr (.inl isRetained)
  · obtain ⟨first, firstNewest, firstKey⟩ := History.exists_newest (partway.sub v hv)
    have lives : rule.Lives start v.key := by
      refine ⟨first, firstNewest, firstKey, ?_⟩
      rcases alive with latest | inWindow
      · have same := (newestOnly top (partway.sub top newest.1) latest).unique firstNewest
          (topKey.trans firstKey.symm)
        exact .inl (same ▸ latest)
      · have above := firstNewest.2 top (partway.sub top newest.1) (topKey.trans firstKey.symm)
        exact .inr (Int64.le_trans inWindow above)
    obtain ⟨b, hb, bKey, boundary⟩ := exists_boundary (partway.sub v hv) reach
    have bStays : b ∈ h := partway.kept b hb (.inr (.inr ⟨bKey ▸ lives, boundary⟩))
    refine .inr (.inr ⟨lives, reach, fun w hw key wReach => ?_⟩)
    exact Int64.le_trans (boundary.2 w hw (key.trans bKey.symm) wReach)
      (greatest b bStays bKey boundary.1)

/-- A step that takes only versions that a trim at no greater height takes stays on the way. -/
theorem step (partway : rule.Partway start h) {lower : RetentionRule}
    (retained : lower.retained = rule.retained) (height : lower.trimHeight ≤ rule.trimHeight)
    {h' : History} (sub : ∀ v ∈ h', v ∈ h) (gone : ∀ v ∈ h, v ∉ h' → ¬ lower.Keeps h v) :
    rule.Partway start h' where
  sub v hv := partway.sub v (sub v hv)
  kept v hv keeps := by
    by_cases stays : v ∈ h'
    · exact stays
    · have still := partway.keeps_lower retained height keeps
      exact absurd still (gone v (partway.kept v hv keeps) stays)

theorem trimmed_eq (partway : rule.Partway start h) (newestOnly : start.LatestIsNewest) :
    h.trimmed rule = start.trimmed rule := by
  refine History.ext_mem fun v => ?_
  rw [mem_trimmed, mem_trimmed]
  constructor
  · rintro ⟨hv, keeps⟩
    exact ⟨partway.sub v hv, partway.keeps_start newestOnly hv keeps⟩
  · rintro ⟨hv, keeps⟩
    exact ⟨partway.kept v hv keeps, partway.keeps_lower rfl (Int64.le_refl _) keeps⟩

theorem eq_trimmed (partway : rule.Partway start h)
    (settled : ∀ v ∈ h, rule.Keeps start v) : h = start.trimmed rule := by
  refine History.ext_mem fun v => ?_
  rw [mem_trimmed]
  constructor
  · intro hv
    exact ⟨partway.sub v hv, settled v hv⟩
  · rintro ⟨hv, keeps⟩
    exact partway.kept v hv keeps

end Partway

end RetentionRule

end HistoryTrim
