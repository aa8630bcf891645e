import HistoryTrim.Proofs.Scan
import Mathlib.Data.List.Forall2

/-! # Decisions row by row

A selector answers for each row as it comes, and a scan with a limit takes the first rows for which the
answer is yes. Over rows in scan order the answers are a rule about the whole list, with no memory in it:
a row goes if its key was gone before the window, or if another row within reach of the trim is newer.
-/

namespace HistoryTrim

namespace RetentionRule

/-- Of rows in scan order this one goes: it is within reach, and either the first row of its key lies
    below the trim height and is not latest, or a higher row of its key is within reach too. -/
def Condemns (rule : RetentionRule) (rows : List Version) (v : Version) : Prop :=
  rule.Reaches v ∧
    ((∃ first, rows.find? (fun w => w.key = v.key) = some first ∧
        first.height < rule.trimHeight ∧ first.latest = false) ∨
      ∃ w ∈ rows, w.key = v.key ∧ v.height < w.height ∧ rule.Reaches w)

variable {rule : RetentionRule} {h : History} {v : Version}

/-- The newest row within reach is another one exactly if one within reach is higher. -/
theorem any_boundary?_iff (hv : v ∈ h) (reach : rule.Reaches v) :
    ((rule.boundary? h.rows v.key).any fun b => b.height ≠ v.height) = true ↔
      ∃ w ∈ h, w.key = v.key ∧ v.height < w.height ∧ rule.Reaches w := by
  obtain ⟨b, hb, bKey, boundary⟩ := exists_boundary hv reach
  rw [boundary?_eq_some_iff.2 ⟨hb, bKey, boundary⟩, Option.any_some, decide_eq_true_iff]
  constructor
  · intro differ
    have upTo := boundary.2 v hv bKey.symm reach
    exact ⟨b, hb, bKey, Int64.lt_of_le_of_ne upTo differ.symm, boundary.1⟩
  · rintro ⟨w, hw, wKey, higher, wReach⟩ same
    have upTo := boundary.2 w hw (wKey.trans bKey.symm) wReach
    exact Int64.not_lt.2 upTo (same ▸ higher)

theorem isObsolete_iff_condemns (hv : v ∈ h) :
    rule.isObsolete h.rows v = true ↔ rule.Condemns h.rows v := by
  rw [isObsolete, Bool.and_eq_true, Bool.not_eq_true', ← reaches_iff, Condemns]
  refine and_congr_right fun reach => ?_
  rw [Bool.or_eq_true, any_boundary?_iff hv reach, Option.any_eq_true, newest?]
  simp only [outlives_iff]
  rfl

end RetentionRule

namespace RowSelector

section Chosen

variable {α : Type} {version : α → Version} {s : RowSelector} {r : α} {rows : List α}

/-- The rows on which a selector that meets them all decides that they go. -/
def chosen (version : α → Version) (s : RowSelector) (rows : List α) : List α :=
  ((rows.zip (s.decisions (rows.map version)).1).filter Prod.snd).map Prod.fst

/-- The first rows up to a limit, which lets one through at least. -/
def atMost : Option Nat → List α → List α
  | none, rows => rows
  | some n, rows => rows.take (max n 1)

theorem chosen_cons (version : α → Version) (s : RowSelector) (r : α) (rows : List α) :
    s.chosen version (r :: rows) =
      if (s.judge (version r)).1 then r :: (s.judge (version r)).2.chosen version rows
      else (s.judge (version r)).2.chosen version rows := by
  simp only [chosen, List.map_cons, decisions, List.zip_cons_cons, List.filter_cons]
  split <;> rfl

/-- A scan takes the rows on which its selector decides so, up to its limit. -/
theorem doomed_eq_atMost (version : α → Version) (s : RowSelector) (limit : Option Nat)
    (rows : List α) : (s.sweep version limit rows).doomed = atMost limit (s.chosen version rows) := by
  induction rows generalizing s limit with
  | nil =>
      cases limit with
      | none => rfl
      | some n => exact List.take_nil.symm
  | cons r rows ih =>
      rw [chosen_cons]
      cases s.meets version limit r rows with
      | spares kept sweep => rw [sweep, kept, if_neg Bool.false_ne_true, ih]
      | fills selected n limited enough sweep =>
          have one : max n 1 = 0 + 1 := by omega
          rw [sweep, selected, if_pos rfl, limited, atMost, one, List.take_succ_cons, List.take_zero]
      | takes selected more sweep =>
          rw [sweep, selected, if_pos rfl, ih]
          cases limit with
          | none => rfl
          | some n =>
              have two := more n rfl
              have next : max n 1 = max (n - 1) 1 + 1 := by omega
              rw [Option.map_some, atMost, atMost, next, List.take_succ_cons]

theorem mem_of_mem_atMost {limit : Option Nat} (hr : r ∈ atMost limit rows) : r ∈ rows := by
  cases limit with
  | none => exact hr
  | some n => exact List.mem_of_mem_take hr

theorem reaches_of_mem_chosen (hr : r ∈ s.chosen version rows) : s.rule.Reaches (version r) := by
  induction rows generalizing s with
  | nil => cases hr
  | cons first rows ih =>
      rw [chosen_cons] at hr
      have later (taken : r ∈ (s.judge (version first)).2.chosen version rows) :
          s.rule.Reaches (version r) := by
        have reach := ih taken
        rwa [rule_judge] at reach
      split at hr
      next selected =>
        rcases List.mem_cons.1 hr with rfl | taken
        · rw [judge_fst, Bool.and_eq_true, Bool.not_eq_true'] at selected
          exact RetentionRule.reaches_iff.2 selected.1
        · exact later taken
      next => exact later hr

end Chosen

variable {s : RowSelector} {seen rows : List Version}

/-- A selector that goes on from rows in scan order answers by what is obsolete among all of them. -/
theorem Knows.decisions (knows : s.Knows seen)
    (sorted : (seen ++ rows).Pairwise Version.Precedes) :
    (s.decisions rows).1 = rows.map (s.rule.isObsolete (seen ++ rows)) := by
  induction rows generalizing s seen with
  | nil => rfl
  | cons v vs ih =>
      rw [List.append_cons] at sorted ⊢
      have start := sorted.sublist (List.sublist_append_left (seen ++ [v]) vs)
      obtain ⟨decision, knows'⟩ := knows.judge start
      have later := ih knows' sorted
      have here : s.rule.isObsolete (seen ++ [v] ++ vs) v = (s.judge v).1 := by
        rw [RetentionRule.isObsolete_append (by simp), decision]
      rw [rule_judge] at later
      rw [List.map_cons, here, ← later]
      rfl

theorem marker_decisions (s : RowSelector) (rows : List Version) :
    (s.decisions rows).2.marker = (rows.getLast?.map fun v => v.key.leading).getD s.marker := by
  induction rows generalizing s with
  | nil => rfl
  | cons v vs ih =>
      have tail : (s.decisions (v :: vs)).2 = ((s.judge v).2.decisions vs).2 := rfl
      rw [tail, ih, marker_judge, List.getLast?_cons]
      cases vs.getLast? <;> rfl

/-- Whatever a selector has met before, once its group is restarted it answers for rows in scan order
    by the rule, and ends at the leading value of the last row. -/
theorem decisions_iff_condemns (s : RowSelector) (sorted : rows.Pairwise Version.Precedes) :
    List.Forall₂ (fun v goes => goes = true ↔ s.rule.Condemns rows v) rows
        (s.restartGroup.decisions rows).1 ∧
      (s.restartGroup.decisions rows).2.marker =
        (rows.getLast?.map fun v => v.key.leading).getD s.marker := by
  have answers : (s.restartGroup.decisions rows).1 = rows.map (s.rule.isObsolete rows) :=
    s.knows_restartGroup.decisions sorted
  refine ⟨?_, marker_decisions s.restartGroup rows⟩
  rw [answers, List.forall₂_map_right_iff, List.forall₂_same]
  intro v hv
  exact RetentionRule.isObsolete_iff_condemns (h := ⟨rows, sorted⟩) hv

/-- An entity that is still there, with a retained version between two that a trim may take; one that
    was gone, whose newest version is retained; and one whose leading value is the same. -/
def mixedRows : List Version :=
  [⟨⟨1, []⟩, 9, false⟩, ⟨⟨1, []⟩, 4, true⟩, ⟨⟨1, []⟩, 3, false⟩, ⟨⟨1, []⟩, 2, true⟩,
    ⟨⟨2, []⟩, 3, false⟩, ⟨⟨2, []⟩, 1, true⟩,
    ⟨⟨2, [.text "a"]⟩, 5, true⟩, ⟨⟨2, [.text "a"]⟩, 3, false⟩]

/-- The selector has met another row of the first key, and taken it to be gone. -/
theorem decisions_iff_condemns_mixed :
    let s : RowSelector := ⟨⟨6, some 3⟩, some ⟨1, []⟩, true, true, 7⟩
    mixedRows.Pairwise Version.Precedes ∧
      (s.restartGroup.decisions mixedRows).1 =
        [false, false, false, true, false, true, false, false] ∧
      s.rule.Condemns mixedRows ⟨⟨2, []⟩, 1, true⟩ ∧
      ¬ s.rule.Condemns mixedRows ⟨⟨2, [.text "a"]⟩, 5, true⟩ ∧
      (s.restartGroup.decisions mixedRows).2.marker = 2 := by
  intro s
  have sorted : mixedRows.Pairwise Version.Precedes := by decide
  obtain ⟨answers, marker⟩ := decisions_iff_condemns s sorted
  have given : (s.restartGroup.decisions mixedRows).1 =
      [false, false, false, true, false, true, false, false] := by decide
  rw [given] at answers
  obtain ⟨-, answer⟩ := List.forall₂_iff_get.1 answers
  refine ⟨sorted, given, (answer 5 (by decide) (by decide)).1 rfl, fun goes => ?_, marker⟩
  exact Bool.false_ne_true ((answer 6 (by decide) (by decide)).2 goes)

end RowSelector

end HistoryTrim
