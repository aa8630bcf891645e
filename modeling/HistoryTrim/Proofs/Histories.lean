import HistoryTrim.Version

/-! # Facts about histories

The order of a history is strict, so its versions stand at different places and a history is known
from its members. The first version of a key that passes a test is the newest one that does, which
is what every search of a history comes down to.
-/

namespace HistoryTrim

theorem filter_mem_perm {α : Type} [DecidableEq α] {all part : List α} (distinct : all.Nodup)
    (distinctPart : part.Nodup) (sub : ∀ x ∈ part, x ∈ all) :
    (all.filter fun x => decide (x ∈ part)).Perm part := by
  refine (List.perm_ext_iff_of_nodup (distinct.filter _) distinctPart).2 fun x => ?_
  rw [List.mem_filter, decide_eq_true_iff]
  exact and_iff_right_of_imp (sub x)

theorem Version.precedes_iff {a b : Version} :
    a.Precedes b ↔ compare a.key b.key = .lt ∨ a.key = b.key ∧ b.height < a.height := by
  have heights : compare b.height a.height = .lt ↔ b.height < a.height := Std.compare_eq_lt
  unfold Precedes scanCompare
  cases order : compare a.key b.key with
  | lt => simp
  | eq =>
      have same : a.key = b.key := Std.LawfulEqOrd.eq_of_compare order
      simp [same, heights]
  | gt =>
      have differ : a.key ≠ b.key := by
        intro same
        rw [same, Std.ReflOrd.compare_self] at order
        cases order
      simp [differ]

theorem Version.height_le_of_isLE {a b : Version} (key : a.key = b.key)
    (ahead : (a.scanCompare b).isLE = true) : b.height ≤ a.height := by
  have heights : a.scanCompare b = compare b.height a.height := by
    rw [scanCompare, key, Std.ReflOrd.compare_self]
    rfl
  rw [heights] at ahead
  exact Std.isLE_compare.1 ahead

theorem Version.Precedes.key_le {a b : Version} (before : a.Precedes b) :
    (compare a.key b.key).isLE = true := by
  rcases Version.precedes_iff.1 before with less | ⟨same, -⟩
  · rw [less]
    rfl
  · rw [same, Std.ReflOrd.compare_self]
    rfl

theorem Version.Precedes.leading_le {a b : Version} (before : a.Precedes b) :
    a.key.leading ≤ b.key.leading := by
  have key := before.key_le
  rw [Key.compare_def] at key
  refine Std.isLE_compare.1 ?_
  cases order : compare a.key.leading b.key.leading with
  | lt | eq => rfl
  | gt =>
      rw [order] at key
      cases key

namespace History

theorem precedes_total {h : History} {a b : Version} (ha : a ∈ h) (hb : b ∈ h) :
    a = b ∨ a.Precedes b ∨ b.Precedes a := by
  refine List.Pairwise.forall_of_forall_of_flip
    (R := fun x y => x = y ∨ x.Precedes y ∨ y.Precedes x) (fun _ _ => .inl rfl) ?_ ?_ ha hb
  · exact h.ordered.imp fun before => .inr (.inl before)
  · exact h.ordered.imp fun before => .inr (.inr before)

theorem eq_of_same_place {h : History} {a b : Version} (ha : a ∈ h) (hb : b ∈ h)
    (key : a.key = b.key) (height : a.height = b.height) : a = b := by
  have place : a.scanCompare b = .eq := Version.scanCompare_eq_eq.2 ⟨key, height⟩
  rcases precedes_total ha hb with same | before | after
  · exact same
  · rw [Version.Precedes, place] at before
    cases before
  · have place' : b.scanCompare a = .eq := Version.scanCompare_eq_eq.2 ⟨key.symm, height.symm⟩
    rw [Version.Precedes, place'] at after
    cases after

/-- The first version of a key that passes a test is the one of greatest height that does. -/
theorem find?_eq_some_iff {h : History} {key : Key} {test : Version → Bool} {v : Version} :
    (h.rows.find? fun w => decide (w.key = key) && test w) = some v ↔
      v ∈ h ∧ v.key = key ∧ test v = true ∧
        ∀ w ∈ h, w.key = key → test w = true → w.height ≤ v.height := by
  have greatest : ∀ {x}, (h.rows.find? fun w => decide (w.key = key) && test w) = some x →
      x ∈ h ∧ x.key = key ∧ test x = true ∧
        ∀ w ∈ h, w.key = key → test w = true → w.height ≤ x.height := by
    intro x found
    obtain ⟨passes, before, after, split, fails⟩ := List.find?_eq_some_iff_append.1 found
    simp only [Bool.and_eq_true, decide_eq_true_eq] at passes
    obtain ⟨hkey, htest⟩ := passes
    have sorted := h.ordered
    rw [split] at sorted
    have later := (List.pairwise_cons.1 (List.pairwise_append.1 sorted).2.1).1
    refine ⟨mem_def.2 (by simp [split]), hkey, htest, ?_⟩
    intro w hw wkey wtest
    rw [mem_def, split, List.mem_append, List.mem_cons] at hw
    rcases hw with early | rfl | late
    · have := fails w early
      simp [wkey, wtest] at this
    · exact Int64.le_refl _
    · rcases Version.precedes_iff.1 (later w late) with other | ⟨-, newer⟩
      · rw [hkey, wkey, Std.ReflOrd.compare_self] at other
        cases other
      · exact Int64.le_of_lt newer
  constructor
  · exact greatest
  · rintro ⟨hv, vkey, vtest, top⟩
    cases found : h.rows.find? fun w => decide (w.key = key) && test w with
    | none =>
        have := List.find?_eq_none.1 found v hv
        simp [vkey, vtest] at this
    | some x =>
        obtain ⟨hx, xkey, xtest, xtop⟩ := greatest found
        have height : x.height = v.height :=
          Int64.le_antisymm (top x hx xkey xtest) (xtop v hv vkey vtest)
        rw [eq_of_same_place hx hv (xkey.trans vkey.symm) height]

theorem mem_insert {h : History} {v w : Version} :
    w ∈ h.insert v ↔ w = v ∨ w ∈ h ∧ ¬ (w.key = v.key ∧ w.height = v.height) := by
  have general : ∀ rows : List Version, rows.Pairwise Version.Precedes →
      (w ∈ v.insertInto rows ↔ w = v ∨ w ∈ rows ∧ v.scanCompare w ≠ .eq) := by
    intro rows sorted
    induction rows with
    | nil => simp [Version.insertInto]
    | cons r rs ih =>
        obtain ⟨first, rest⟩ := List.pairwise_cons.1 sorted
        have later {order : Ordering} (place : v.scanCompare r = order) (before : order ≠ .gt) :
            ∀ x ∈ rs, v.scanCompare x ≠ .eq := by
          intro x hx same
          cases order with
          | lt => exact absurd (Std.TransCmp.lt_trans place (first x hx)) (by simp [same])
          | eq => exact absurd (Std.TransCmp.lt_of_eq_of_lt place (first x hx)) (by simp [same])
          | gt => exact before rfl
        cases place : v.scanCompare r with
        | lt =>
            have others := later place (by simp)
            simp only [Version.insertInto, place, List.mem_cons]
            grind
        | eq =>
            have others := later place (by simp)
            simp only [Version.insertInto, place, List.mem_cons]
            grind
        | gt =>
            simp only [Version.insertInto, place, List.mem_cons, ih rest]
            grind
  rw [mem_def, rows_insert, general h.rows h.ordered, Ne, Version.scanCompare_eq_eq,
    eq_comm (a := v.key), eq_comm (a := v.height), ← mem_def]

theorem nodup (h : History) : h.rows.Nodup := by
  refine h.ordered.imp fun {a b} before same => ?_
  exact Version.not_precedes_self b (same ▸ before)

theorem rows_eq_of_perm {rows : List Version} {h : History} (sorted : rows.Pairwise Version.Precedes)
    (perm : rows.Perm h.rows) : rows = h.rows := by
  refine List.Perm.eq_of_pairwise (fun a b _ _ ab ba => ?_) sorted h.ordered perm
  exact absurd (ab.trans ba) (Version.not_precedes_self a)

theorem upward_mergeSort (rows : List Version) :
    (rows.mergeSort fun v w => (v.scanCompare w).isLE).Pairwise fun v w =>
      (v.scanCompare w).isLE = true := by
  refine List.pairwise_mergeSort (fun _ _ _ => Std.TransCmp.isLE_trans) (fun v w => ?_) rows
  cases order : v.scanCompare w with
  | lt | eq => rfl
  | gt =>
      have after : w.scanCompare v = .lt := Version.precedes_of_gt order
      rw [after]
      rfl

theorem precedes_mergeSort {rows : List Version}
    (apart : rows.Pairwise fun v w => ¬ (v.key = w.key ∧ v.height = w.height)) :
    (rows.mergeSort fun v w => (v.scanCompare w).isLE).Pairwise Version.Precedes := by
  have perm := List.mergeSort_perm rows fun v w => (v.scanCompare w).isLE
  have sortedApart : (rows.mergeSort fun v w => (v.scanCompare w).isLE).Pairwise fun v w =>
      ¬ (v.key = w.key ∧ v.height = w.height) :=
    (perm.pairwise_iff fun differ same => differ ⟨same.1.symm, same.2.symm⟩).2 apart
  refine ((upward_mergeSort rows).and sortedApart).imp fun {v w} both => ?_
  obtain ⟨notAfter, differ⟩ := both
  unfold Version.Precedes
  cases order : v.scanCompare w with
  | lt => rfl
  | eq => exact absurd (Version.scanCompare_eq_eq.1 order) differ
  | gt =>
      rw [order] at notAfter
      cases notAfter

theorem exists_perm_rows {rows : List Version}
    (apart : rows.Pairwise fun v w => ¬ (v.key = w.key ∧ v.height = w.height)) :
    ∃ h : History, rows.Perm h.rows :=
  ⟨⟨_, precedes_mergeSort apart⟩, (List.mergeSort_perm ..).symm⟩

theorem mergeSort_eq_rows {rows : List Version} {h : History} (perm : rows.Perm h.rows) :
    rows.mergeSort (fun v w => (v.scanCompare w).isLE) = h.rows := by
  have apart : rows.Pairwise fun v w => ¬ (v.key = w.key ∧ v.height = w.height) := by
    refine (perm.pairwise_iff fun differ same => ?_).2 (h.ordered.imp fun {v w} before same => ?_)
    · exact differ ⟨same.1.symm, same.2.symm⟩
    · rw [Version.Precedes, Version.scanCompare_eq_eq.2 same] at before
      cases before
  exact rows_eq_of_perm (precedes_mergeSort apart) ((List.mergeSort_perm ..).trans perm)

theorem ext_mem {a b : History} (same : ∀ v, v ∈ a ↔ v ∈ b) : a = b :=
  ext (rows_eq_of_perm a.ordered ((List.perm_ext_iff_of_nodup a.nodup b.nodup).2 same))

end History

end HistoryTrim
