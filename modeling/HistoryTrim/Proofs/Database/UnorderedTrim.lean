import HistoryTrim.Proofs.Database.StoredVersions
import HistoryTrim.Proofs.Retention

/-! # Unordered trims of created tables

The statement finds its columns in a created table, as long as its condition is not too deep: it
grows with the number of key columns. Then it deletes the rows that the rule drops, and counts them;
a table with more key columns it refuses.
-/

namespace HistoryTrim.Database

/-- What a row says under a definition. -/
structure Record.Holds (r : Record) (t : Table) (e : RowContent) : Prop where
  cells : ∃ payload, r.cells = e.key.map Cell.ofKeyValue ++
    [.integer e.height, .ofBool e.latest, payload]
  typed : List.Forall₂ (fun k value => KeyValue.HasType k.type value) t.keys e.key

/-- What the columns of a trim show of a row is what it says. -/
structure TrimColumns.Show (c : TrimColumns) (r : Record) (e : RowContent) : Prop where
  key : List.Forall₂ (fun s value => Source.cell s r = .ofKeyValue value) c.keys e.key
  height : c.height.cell r = .integer e.height
  height_holds : ∀ test n, c.height.holds test r n = test (compare e.height n)
  latest_holds : ∀ test n, c.latest.holds test r n = test (compare (if e.latest then 1 else 0) n)

theorem sameCells_iff {a b : Record} {sources : List Source} {xs ys : List KeyValue}
    (shownA : List.Forall₂ (fun s value => Source.cell s a = .ofKeyValue value) sources xs)
    (shownB : List.Forall₂ (fun s value => Source.cell s b = .ofKeyValue value) sources ys) :
    (sources.all fun s => (s.cell a).same (s.cell b)) = true ↔ xs = ys := by
  induction shownA generalizing ys with
  | nil =>
      cases shownB
      simp
  | @cons s x sources xs firstA restA ih =>
      cases shownB with
      | @cons _ y _ ys firstB restB =>
          have first : (s.cell a).same (s.cell b) = true ↔ x = y := by
            rw [firstA, firstB, Cell.same, Cell.compare_ofKeyValue, beq_iff_eq]
            exact Std.LawfulEqOrd.compare_eq_iff_eq
          rw [List.all_cons, Bool.and_eq_true, first, ih restB, List.cons.injEq]

namespace TrimView

variable {view : TrimView} {r b : Record} {e w : RowContent}

theorem below_iff (shown : view.columns.Show r e) :
    view.below r = true ↔ e.height < view.rule.trimHeight := by
  rw [below, shown.height_holds, Ordering.isLT_iff_eq_lt]
  exact Std.compare_eq_lt

theorem apart_iff (shown : view.columns.Show r e) :
    view.apart r = true ↔ view.rule.retained ≠ some e.height := by
  unfold apart
  cases view.rule.retained with
  | none => simp
  | some h =>
      have differ : compare e.height h = .eq ↔ some h = some e.height := by
        rw [Std.LawfulEqOrd.compare_eq_iff_eq, Option.some.injEq, eq_comm]
      rw [Option.all_some, shown.height_holds, Ordering.isNe_iff_ne_eq]
      exact not_congr differ

theorem latest_iff (shown : view.columns.Show r e) :
    view.columns.latest.holds (· == .eq) r 0 = true ↔ e.latest = false := by
  rw [shown.latest_holds]
  cases e.latest <;> decide

theorem alive_iff (shown : view.columns.Show r e) :
    view.alive r = true ↔ e.latest = true ∨ view.rule.trimHeight ≤ e.height := by
  rw [alive, Bool.or_eq_true, shown.latest_holds, shown.height_holds]
  refine or_congr ?_ Std.isGE_compare
  cases e.latest <;> decide

theorem sameKey_iff (uncaptured : view.captured = false) (shownB : view.columns.Show b w)
    (shown : view.columns.Show r e) : view.sameKey b r = true ↔ w.key = e.key := by
  rw [sameKey, uncaptured, Bool.false_or]
  exact sameCells_iff shownB.key shown.key

theorem supersedes_iff (uncaptured : view.captured = false) (shownB : view.columns.Show b w)
    (shown : view.columns.Show r e) :
    view.supersedes b r = true ↔ w.height < view.rule.trimHeight ∧ e.height < w.height ∧
      view.rule.retained ≠ some w.height := by
  rw [supersedes, Bool.and_eq_true, Bool.and_eq_true, below_iff shownB, apart_iff shownB,
    uncaptured, if_neg Bool.false_ne_true, shownB.height, shown.height, and_assoc]
  refine and_congr_right fun _ => and_congr_left fun _ => ?_
  have heights : compare w.height e.height = .gt ↔ e.height < w.height := Std.compare_eq_gt
  exact Ordering.isGT_iff_eq_gt.trans heights

theorem isDoomed_iff (uncaptured : view.captured = false) {records : List Record}
    {content : Record → RowContent} (shown : ∀ r ∈ records, view.columns.Show r (content r))
    (consistent : RowContent.Consistent (records.map content)) {r : Record} (hr : r ∈ records) :
    view.isDoomed records r = true ↔ view.rule.Drops (records.map content) (content r) := by
  have here := shown r hr
  have anyAlive : (records.any fun b => view.sameKey b r && view.alive b) = true ↔
      ∃ e ∈ records.map content, e.key = (content r).key ∧
        (e.latest = true ∨ view.rule.trimHeight ≤ e.height) := by
    simp only [List.any_eq_true, List.mem_map, exists_exists_and_eq_and]
    refine exists_congr fun b => and_congr_right fun hb => ?_
    rw [Bool.and_eq_true, sameKey_iff uncaptured (shown b hb) here, alive_iff (shown b hb)]
  have anyNewer : (records.any fun b => view.sameKey b r && view.supersedes b r) = true ↔
      ∃ e ∈ records.map content, e.key = (content r).key ∧ e.height < view.rule.trimHeight ∧
        (content r).height < e.height ∧ view.rule.retained ≠ some e.height := by
    simp only [List.any_eq_true, List.mem_map, exists_exists_and_eq_and]
    refine exists_congr fun b => and_congr_right fun hb => ?_
    rw [Bool.and_eq_true, sameKey_iff uncaptured (shown b hb) here,
      supersedes_iff uncaptured (shown b hb) here]
  rw [consistent.drops_iff (List.mem_map_of_mem hr), isDoomed, Bool.and_eq_true, Bool.and_eq_true,
    Bool.and_eq_true, Bool.or_eq_true, Bool.not_eq_true', ← Bool.not_eq_true, anyAlive, anyNewer,
    below_iff here, latest_iff here, apart_iff here, and_assoc, and_assoc]

end TrimView

/-- With how many key columns the condition of the statement is not too deep. -/
def mostKeys (retained : Bool) : Nat := if retained then 493 else 494

theorem checkDepth_eq {depth : Nat} (shallow : depth ≤ EngineError.depthLimit) :
    checkDepth depth = .ok () :=
  if_neg (Nat.not_lt.2 shallow)

theorem checkDepth_deep {depth : Nat} (deep : EngineError.depthLimit < depth) :
    checkDepth depth = .error .expressionTooDeep :=
  if_pos deep

theorem checkDepth_cases (depth : Nat) :
    checkDepth depth = .ok () ∨ checkDepth depth = .error .expressionTooDeep :=
  (Nat.lt_or_ge EngineError.depthLimit depth).symm.imp checkDepth_eq checkDepth_deep

theorem depth_le {keys : Nat} {retained : Bool} (few : keys ≤ mostKeys retained) :
    conditionDepth keys retained ≤ EngineError.depthLimit ∧
      conditionDepth keys retained + aliveDepth keys ≤ EngineError.depthLimit ∧
      conditionDepth keys retained + supersededDepth keys retained ≤ EngineError.depthLimit := by
  unfold mostKeys at few
  unfold conditionDepth aliveDepth supersededDepth EngineError.depthLimit
  cases retained <;> simp only [if_true, Bool.false_eq_true, if_false] at few ⊢ <;> omega

theorem depth_gt {keys : Nat} {retained : Bool} (many : mostKeys retained < keys) :
    EngineError.depthLimit < conditionDepth keys retained + supersededDepth keys retained := by
  unfold mostKeys at many
  unfold conditionDepth aliveDepth supersededDepth EngineError.depthLimit
  cases retained <;> simp only [if_true, Bool.false_eq_true, if_false] at many ⊢ <;> omega

theorem Relation.qualifiedAll_eq {rel : Relation} (qualifier : String) {names : List String}
    {sources : List Source}
    (found : List.Forall₂ (fun name s => rel.source? name = some s) names sources) :
    rel.qualifiedAll qualifier names = .ok sources := by
  induction found with
  | nil => rfl
  | cons first _ ih =>
      simp only [qualifiedAll, qualified, first, ih, bind, Except.bind, pure, Except.pure]

/-- Where a created table has its columns. -/
def TrimColumns.created (t : Table) : TrimColumns where
  keys := t.keys.mapIdx fun i k => .column i k.type
  height := .column t.keys.length .integer
  latest := .column (t.keys.length + 1) .numeric

/-- How the statement sees the rows of a created table. -/
def TrimView.created (t : Table) (rule : RetentionRule) : TrimView :=
  ⟨.created t, rule, Text.sameName t.name otherRowsName⟩

theorem TrimColumns.show_created {t : Table} {r : Record} {e : RowContent} (holds : r.Holds t e) :
    (TrimColumns.created t).Show r e := by
  obtain ⟨⟨payload, cells⟩, typed⟩ := holds
  have length : t.keys.length = e.key.length := typed.length_eq
  have height : r.cell t.keys.length = .integer e.height := by
    rw [Record.cell, cells, length]
    simp [List.getD_eq_getElem?_getD]
  have latest : r.cell (t.keys.length + 1) = .ofBool e.latest := by
    rw [Record.cell, cells, length]
    simp [List.getD_eq_getElem?_getD]
  refine ⟨?_, height, fun test n => ?_, fun test n => ?_⟩
  · refine List.forall₂_iff_get.2 ⟨by simp [created, length], fun i here there => ?_⟩
    simp only [created, List.get_eq_getElem, List.getElem_mapIdx, Source.cell, Record.cell, cells]
    simp [List.getD_eq_getElem?_getD, List.getElem?_append, there]
  · simp only [created, Source.holds, Source.cell, height, Source.comparand]
    rfl
  · simp only [created, Source.holds, Source.cell, latest, Source.comparand]
    rfl

theorem Relation.keep_congr {rel : Relation} {p q : Record → Bool}
    (same : ∀ r ∈ rel.records, p r = q r) : rel.keep p = rel.keep q := by
  have records : rel.records.filter p = rel.records.filter q := List.filter_congr same
  simp only [keep, records]

theorem Relation.length_keep_not (rel : Relation) (p : Record → Bool) :
    rel.records.length - (rel.keep fun r => !p r).records.length = rel.records.countP p := by
  have parts := (List.filter_append_perm p rel.records).length_eq
  rw [List.length_append] at parts
  rw [records_keep, List.countP_eq_length_filter]
  omega

namespace LaidOut

variable {db : Database} {t : Table} {rel : Relation}

theorem key_sources (layout : db.LaidOut t rel) :
    List.Forall₂ (fun name s => rel.source? name = some s) t.keyNames
      (TrimColumns.created t).keys := by
  refine List.forall₂_iff_get.2 ⟨by simp [TrimColumns.created, Table.keyNames], fun i here there => ?_⟩
  have bound : i < t.keys.length := by simpa [Table.keyNames] using here
  simp only [TrimColumns.created, Table.keyNames, List.get_eq_getElem, List.getElem_mapIdx,
    List.getElem_map]
  exact layout.key_source? (List.getElem?_eq_getElem bound)

/-- The statement finds the columns of a created table; only how deep it is may speak against it. -/
theorem trimColumns_created (layout : db.LaidOut t rel) (retained : Bool) :
    rel.trimColumns t retained = (do
      checkDepth (conditionDepth t.keys.length retained + aliveDepth t.keys.length)
      checkDepth (conditionDepth t.keys.length retained + supersededDepth t.keys.length retained)
      return .created t) := by
  simp only [Relation.trimColumns, Relation.qualified, layout.height_source?,
    layout.latest_source?, Relation.qualifiedAll_eq _ layout.key_sources, bind, Except.bind, pure,
    Except.pure]
  rfl

theorem trimColumns_eq (layout : db.LaidOut t rel) {retained : Bool}
    (few : t.keys.length ≤ mostKeys retained) :
    rel.trimColumns t retained = .ok (.created t) := by
  obtain ⟨-, alive, superseded⟩ := depth_le few
  rw [layout.trimColumns_created, checkDepth_eq alive, checkDepth_eq superseded]
  rfl

/-- If the table has not too many key columns, the statement deletes the rows for which its condition
    holds, and counts them. -/
theorem trimUnordered_done (layout : db.LaidOut t rel) (valid : t.validate = .ok ())
    {rule : RetentionRule} (few : t.keys.length ≤ mostKeys rule.retained.isSome) :
    let doomed (r : Record) : Bool := (TrimView.created t rule).isDoomed rel.records r
    db.trimUnordered t rule =
      (.ok (rel.records.countP doomed), db.replace t.name (rel.keep fun r => !doomed r)) := by
  intro doomed
  have shallow := checkDepth_eq (depth_le few).1
  simp only [trimUnordered, valid, shallow, layout.found, layout.trimColumns_eq few,
    layout.writable, Bool.not_true, Bool.false_eq_true, if_false]
  rw [← rel.length_keep_not doomed]
  rfl

theorem trimUnordered_eq (layout : db.LaidOut t rel) (valid : t.validate = .ok ())
    (unlike : Text.sameName t.name otherRowsName = false) {rule : RetentionRule}
    (few : t.keys.length ≤ mostKeys rule.retained.isSome) {content : Record → RowContent}
    (holds : ∀ r ∈ rel.records, r.Holds t (content r))
    (consistent : RowContent.Consistent (rel.records.map content)) :
    db.trimUnordered t rule =
      (.ok (rel.records.countP fun r => rule.Drops (rel.records.map content) (content r)),
        db.replace t.name (rel.keep fun r => !rule.Drops (rel.records.map content) (content r))) := by
  have doomed : ∀ r ∈ rel.records, (TrimView.created t rule).isDoomed rel.records r =
      decide (rule.Drops (rel.records.map content) (content r)) := by
    intro r hr
    rw [Bool.eq_iff_iff, decide_eq_true_iff]
    exact TrimView.isDoomed_iff unlike (fun b hb => TrimColumns.show_created (holds b hb))
      consistent hr
  rw [layout.trimUnordered_done valid few, Relation.keep_congr fun r hr => congrArg not (doomed r hr),
    List.countP_congr fun r hr => by rw [doomed r hr]]

theorem trimUnordered_refused (layout : db.LaidOut t rel) (valid : t.validate = .ok ())
    {rule : RetentionRule} (many : mostKeys rule.retained.isSome < t.keys.length) :
    db.trimUnordered t rule = (.error (.database (.engine .expressionTooDeep)), db) := by
  have refused : rel.trimColumns t rule.retained.isSome = .error .expressionTooDeep := by
    rw [layout.trimColumns_created, checkDepth_deep (depth_gt many)]
    rcases checkDepth_cases (conditionDepth t.keys.length rule.retained.isSome +
      aliveDepth t.keys.length) with alive | alive <;> rw [alive] <;> rfl
  rcases checkDepth_cases (conditionDepth t.keys.length rule.retained.isSome) with whole | whole <;>
    simp only [trimUnordered, valid, whole, layout.found, refused]

end LaidOut

end HistoryTrim.Database

/-! ## Rows as versions

Where the leading key is an integer, what a row says is a version. Rows of which only the newest of a
key is latest make a history, and of these versions a trim keeps just those whose rows the rule does
not drop.
-/

namespace HistoryTrim

/-- The version that a row with an integer as its leading key value says. -/
def RowContent.version (e : RowContent) : Version :=
  match e.key with
  | .integer n :: rest => ⟨⟨n, rest⟩, e.height, e.latest⟩
  | key => ⟨⟨0, key⟩, e.height, e.latest⟩

namespace RowContent

@[simp] theorem height_version (e : RowContent) : e.version.height = e.height := by
  unfold version
  split <;> rfl

@[simp] theorem latest_version (e : RowContent) : e.version.latest = e.latest := by
  unfold version
  split <;> rfl

/-- The leading key value is an integer. -/
def HasLeading (e : RowContent) : Prop :=
  e.key = .integer e.version.key.leading :: e.version.key.rest

theorem key_version_eq_iff {a b : RowContent} (ha : a.HasLeading) (hb : b.HasLeading) :
    a.version.key = b.version.key ↔ a.key = b.key := by
  constructor
  · intro same
    rw [ha, hb, same]
  · intro same
    rw [ha, hb, List.cons.injEq, KeyValue.integer.injEq] at same
    have parts : ∀ k l : Key, k.leading = l.leading ∧ k.rest = l.rest → k = l := by
      rintro ⟨n, rest⟩ ⟨-, -⟩ ⟨rfl, rfl⟩
      rfl
    exact parts _ _ same

end RowContent

/-- The versions of a history are those that some rows say. -/
structure History.Matches (h : History) (contents : List RowContent) : Prop where
  leading : ∀ e ∈ contents, e.HasLeading
  perm : (contents.map RowContent.version).Perm h.rows

namespace History.Matches

variable {h : History} {contents : List RowContent} {a e : RowContent} {rule : RetentionRule}

theorem mem_iff (fits : h.Matches contents) {v : Version} :
    v ∈ h ↔ ∃ e ∈ contents, e.version = v := by
  rw [mem_def, ← fits.perm.mem_iff, List.mem_map]

theorem mem_version (fits : h.Matches contents) (he : e ∈ contents) : e.version ∈ h :=
  fits.mem_iff.2 ⟨e, he, rfl⟩

theorem key_iff (fits : h.Matches contents) (ha : a ∈ contents) (he : e ∈ contents) :
    a.version.key = e.version.key ↔ a.key = e.key :=
  RowContent.key_version_eq_iff (fits.leading a ha) (fits.leading e he)

theorem isNewest_of_isTop (fits : h.Matches contents) (he : e ∈ contents)
    (top : RowContent.IsTop contents e.key a) :
    h.IsNewest a.version ∧ a.version.key = e.version.key := by
  obtain ⟨ha, key, greatest⟩ := top
  have sameKey := (fits.key_iff ha he).2 key
  refine ⟨⟨fits.mem_version ha, fun v hv same => ?_⟩, sameKey⟩
  obtain ⟨w, hw, rfl⟩ := fits.mem_iff.1 hv
  have wKey := (fits.key_iff hw he).1 (same.trans sameKey)
  simpa using greatest w hw wKey

theorem lives_iff (fits : h.Matches contents) (consistent : RowContent.Consistent contents)
    (he : e ∈ contents) :
    rule.Lives h e.version.key ↔ ¬ ∃ top ∈ contents, RowContent.IsTop contents e.key top ∧
      top.latest = false ∧ top.height < rule.trimHeight := by
  obtain ⟨top, isTop⟩ := RowContent.exists_top he
  obtain ⟨newest, key⟩ := fits.isNewest_of_isTop he isTop
  have outlives : rule.Lives h e.version.key ↔ rule.outlives top.version = false := by
    rw [← key]
    exact RetentionRule.lives_iff_newest rule newest
  rw [outlives, ← Bool.not_eq_true, RetentionRule.outlives_iff, RowContent.height_version,
    RowContent.latest_version]
  refine not_congr ⟨fun gone => ⟨top, isTop.1, isTop, gone.2, gone.1⟩, ?_⟩
  rintro ⟨other, -, isTop', hidden, below⟩
  rw [consistent.top_unique isTop isTop']
  exact ⟨below, hidden⟩

theorem isBoundary_iff (fits : h.Matches contents) (he : e ∈ contents)
    (reach : rule.Reaches e.version) :
    rule.IsBoundary h e.version ↔ ¬ ∃ w ∈ contents, w.key = e.key ∧
      w.height < rule.trimHeight ∧ rule.retained ≠ some w.height ∧ e.height < w.height := by
  constructor
  · rintro ⟨-, greatest⟩ ⟨w, hw, key, below, apart, newer⟩
    have wReach : rule.Reaches w.version := by
      rw [RetentionRule.Reaches, RowContent.height_version]
      exact ⟨below, apart⟩
    have upTo := greatest w.version (fits.mem_version hw) ((fits.key_iff hw he).2 key) wReach
    rw [RowContent.height_version, RowContent.height_version] at upTo
    exact Int64.not_le.2 newer upTo
  · intro none
    refine ⟨reach, fun v hv key wReach => Int64.not_lt.1 fun newer => ?_⟩
    obtain ⟨w, hw, rfl⟩ := fits.mem_iff.1 hv
    rw [RetentionRule.Reaches, RowContent.height_version] at wReach
    rw [RowContent.height_version, RowContent.height_version] at newer
    exact none ⟨w, hw, (fits.key_iff hw he).1 key, wReach.1, wReach.2, newer⟩

/-- What a trim keeps among the versions, the rule does not drop among the rows. -/
theorem keeps_iff (fits : h.Matches contents) (consistent : RowContent.Consistent contents)
    (he : e ∈ contents) : rule.Keeps h e.version ↔ ¬ rule.Drops contents e := by
  by_cases reach : rule.Reaches e.version
  · have below : ¬ rule.trimHeight ≤ e.version.height := Int64.not_le.2 reach.1
    have within := reach
    rw [RetentionRule.Reaches, RowContent.height_version] at within
    rw [RetentionRule.Keeps, or_iff_right below, or_iff_right reach.2,
      fits.lives_iff consistent he, fits.isBoundary_iff he reach, ← not_or]
    refine not_congr ?_
    rw [RetentionRule.Drops, and_iff_right within.1, and_iff_right within.2]
  · refine iff_of_true (RetentionRule.keeps_of_not_reaches reach) fun drops => reach ?_
    rw [RetentionRule.Reaches, RowContent.height_version]
    exact ⟨drops.1, drops.2.1⟩

end History.Matches

theorem History.exists_matches {contents : List RowContent} (leading : ∀ e ∈ contents, e.HasLeading)
    (consistent : RowContent.Consistent contents) :
    ∃ h : History, h.Matches contents ∧ h.LatestIsNewest := by
  have apart : (contents.map RowContent.version).Pairwise fun v w =>
      ¬ (v.key = w.key ∧ v.height = w.height) := by
    refine List.pairwise_map.2 (consistent.distinct.imp_of_mem fun {a b} ha hb differ same => ?_)
    rw [RowContent.height_version, RowContent.height_version] at same
    exact differ ⟨(RowContent.key_version_eq_iff (leading a ha) (leading b hb)).1 same.1, same.2⟩
  obtain ⟨h, perm⟩ := History.exists_perm_rows apart
  have fits : h.Matches contents := ⟨leading, perm⟩
  refine ⟨h, fits, fun v hv latest => ?_⟩
  obtain ⟨e, he, rfl⟩ := fits.mem_iff.1 hv
  rw [RowContent.latest_version] at latest
  exact (fits.isNewest_of_isTop he (consistent.newestOnly e he latest)).1

namespace Database

section Rows

variable {r : Record} {t : Table} {e : RowContent} {leading : KeyColumn} {further : List KeyColumn}

theorem Record.Holds.hasLeading (holds : r.Holds t e) (keys : t.keys = leading :: further)
    (integer : leading.type = .integer) : e.HasLeading := by
  have typed := holds.typed
  rw [keys] at typed
  obtain ⟨key, height, latest⟩ := e
  cases typed with
  | @cons _ value _ rest first _ =>
      rw [integer] at first
      cases value with
      | integer n => rfl
      | text | blob => cases first

theorem Record.Holds.stores (holds : r.Holds t e) (keys : t.keys = leading :: further)
    (integer : leading.type = .integer) : r.Stores t e.version := by
  obtain ⟨⟨payload, cells⟩, typed⟩ := holds
  have split : e.key = _ := Record.Holds.hasLeading ⟨⟨payload, cells⟩, typed⟩ keys integer
  refine ⟨⟨payload, ?_⟩, ?_⟩
  · rw [cells, split, RowContent.height_version, RowContent.latest_version]
    rfl
  · rw [split, keys] at typed
    rw [keys]
    exact (List.forall₂_cons.1 typed).2

end Rows

end Database

end HistoryTrim
