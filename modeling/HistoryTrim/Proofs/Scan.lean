import HistoryTrim.Proofs.Retention

/-! # What a scan selects

The selector decides row by row with four fields of memory. Over rows in scan order they hold what
the rule of the trim finds in the rows met so far, so a scan that starts a group anew takes exactly
the obsolete versions, up to where its limit stops it.
-/

namespace HistoryTrim

namespace RowSelector

/-- What a selector remembers of the rows met since its group was restarted. Once the current key
    is known to be gone, it no longer matters whether its boundary was met. -/
structure Knows (s : RowSelector) (seen : List Version) : Prop where
  key : s.previousKey = seen.getLast?.map Version.key
  obsolete : ∀ k, s.previousKey = some k →
    s.keyObsolete = (RetentionRule.newest? seen k).any s.rule.outlives
  boundary : ∀ k, s.previousKey = some k → s.keyObsolete = false →
    s.boundaryKept = (s.rule.boundary? seen k).isSome

theorem knows_restartGroup (s : RowSelector) : s.restartGroup.Knows [] where
  key := rfl
  obsolete _ h := by cases h
  boundary _ h := by cases h

@[simp] theorem rule_enter (s : RowSelector) (v : Version) : (s.enter v).rule = s.rule := by
  unfold enter
  split <;> rfl

@[simp] theorem marker_enter (s : RowSelector) (v : Version) :
    (s.enter v).marker = v.key.leading := by
  unfold enter
  split <;> rfl

@[simp] theorem previousKey_enter (s : RowSelector) (v : Version) :
    (s.enter v).previousKey = some v.key := by
  unfold enter
  split
  · assumption
  · rfl

theorem key_new_of_last {seen : List Version} {v : Version}
    (sorted : (seen ++ [v]).Pairwise Version.Precedes)
    (last : seen.getLast?.map Version.key ≠ some v.key) : ∀ w ∈ seen, w.key ≠ v.key := by
  intro w hw same
  obtain ⟨earlier, u, rfl⟩ : ∃ earlier u, seen = earlier ++ [u] :=
    ⟨_, _, (List.dropLast_concat_getLast (List.ne_nil_of_mem hw)).symm⟩
  simp only [List.getLast?_append, List.getLast?_singleton, Option.some_or, Option.map_some,
    ne_eq, Option.some.injEq] at last
  obtain ⟨sortedSeen, -, beforeV⟩ := List.pairwise_append.1 sorted
  rcases List.mem_append.1 hw with early | isLast
  · have wu := ((List.pairwise_append.1 sortedSeen).2.2 w early u (by simp)).key_le
    have uv := (beforeV u (by simp) v (by simp)).key_le
    rw [same] at wu
    exact last (Std.LawfulEqOrd.eq_of_compare (Std.OrientedCmp.isLE_antisymm uv wu))
  · rw [List.mem_singleton.1 isLast] at same
    exact last same

theorem Knows.enter {s : RowSelector} {seen : List Version} {v : Version} (knows : s.Knows seen)
    (sorted : (seen ++ [v]).Pairwise Version.Precedes) :
    (s.enter v).keyObsolete =
        (RetentionRule.newest? (seen ++ [v]) v.key).any s.rule.outlives ∧
      ((s.enter v).keyObsolete = false →
        (s.enter v).boundaryKept = (s.rule.boundary? seen v.key).isSome) := by
  by_cases same : s.previousKey = some v.key
  · obtain ⟨u, last, uKey⟩ := Option.map_eq_some_iff.1 (knows.key.symm.trans same)
    have isThere : (RetentionRule.newest? seen v.key).isSome := by
      rw [RetentionRule.newest?, List.find?_isSome]
      exact ⟨u, List.mem_of_getLast? last, by simp [uKey]⟩
    obtain ⟨top, found⟩ := Option.isSome_iff_exists.1 isThere
    have stillFound : RetentionRule.newest? (seen ++ [v]) v.key = some top := by
      rw [RetentionRule.newest?] at found ⊢
      rw [List.find?_append, found, Option.some_or]
    simp only [RowSelector.enter, if_pos same]
    exact ⟨by rw [knows.obsolete _ same, found, stillFound], knows.boundary _ same⟩
  · have new := key_new_of_last sorted (knows.key ▸ same)
    have noNewest : RetentionRule.newest? seen v.key = none := by
      rw [RetentionRule.newest?, List.find?_eq_none]
      intro w hw
      simpa using new w hw
    have noBoundary : s.rule.boundary? seen v.key = none := by
      rw [RetentionRule.boundary?, List.find?_eq_none]
      intro w hw
      simp [new w hw]
    have newest : RetentionRule.newest? (seen ++ [v]) v.key = some v := by
      rw [RetentionRule.newest?] at noNewest ⊢
      rw [List.find?_append, noNewest]
      simp
    simp [RowSelector.enter, same, newest, noBoundary]

theorem judge_fst (s : RowSelector) (v : Version) :
    (s.judge v).1 =
      (!s.rule.spares v.height && ((s.enter v).keyObsolete || (s.enter v).boundaryKept)) := by
  rw [judge, ← rule_enter s v]
  obtain ⟨rule, previous, gone, kept, marker⟩ := s.enter v
  cases spared : rule.spares v.height <;> cases gone <;> cases kept <;> simp

theorem judge_snd (s : RowSelector) (v : Version) :
    (s.judge v).2 = { s.enter v with
      boundaryKept := (s.enter v).boundaryKept ||
        (!s.rule.spares v.height && !(s.enter v).keyObsolete) } := by
  rw [judge, ← rule_enter s v]
  obtain ⟨rule, previous, gone, kept, marker⟩ := s.enter v
  cases spared : rule.spares v.height <;> cases gone <;> cases kept <;> simp

theorem boundary?_snoc (rule : RetentionRule) (seen : List Version) (v : Version) :
    rule.boundary? (seen ++ [v]) v.key =
      (rule.boundary? seen v.key).or (if rule.spares v.height then none else some v) := by
  unfold RetentionRule.boundary?
  rw [List.find?_append]
  cases spared : rule.spares v.height <;> simp [spared]

theorem height_lt_of_met {seen : List Version} {v w : Version}
    (sorted : (seen ++ [v]).Pairwise Version.Precedes) (met : w ∈ seen) (same : w.key = v.key) :
    v.height < w.height := by
  have before := (List.pairwise_append.1 sorted).2.2 w met v (by simp)
  rcases Version.precedes_iff.1 before with other | ⟨-, newer⟩
  · rw [same, Std.ReflOrd.compare_self] at other
    cases other
  · exact newer

theorem any_boundary?_snoc {rule : RetentionRule} {seen : List Version} {v : Version}
    (sorted : (seen ++ [v]).Pairwise Version.Precedes) :
    ((rule.boundary? (seen ++ [v]) v.key).any fun b => b.height ≠ v.height) =
      (rule.boundary? seen v.key).isSome := by
  rw [boundary?_snoc]
  cases met : rule.boundary? seen v.key with
  | none => cases spared : rule.spares v.height <;> simp
  | some b =>
      have meets := List.find?_some met
      simp only [Bool.and_eq_true, decide_eq_true_eq] at meets
      have newer := height_lt_of_met sorted (List.mem_of_find?_eq_some met) meets.1
      have differ : b.height ≠ v.height := by grind
      simp [differ]

/-- One decision: the row is selected when it is obsolete among the rows met so far, and the
    selector knows it afterwards. -/
theorem Knows.judge {s : RowSelector} {seen : List Version} {v : Version} (knows : s.Knows seen)
    (sorted : (seen ++ [v]).Pairwise Version.Precedes) :
    (s.judge v).1 = s.rule.isObsolete (seen ++ [v]) v ∧ (s.judge v).2.Knows (seen ++ [v]) := by
  obtain ⟨obsolete, boundary⟩ := knows.enter sorted
  constructor
  · rw [judge_fst, RetentionRule.isObsolete, any_boundary?_snoc sorted, ← obsolete]
    cases gone : (s.enter v).keyObsolete with
    | true => simp
    | false => rw [boundary gone]
  · rw [judge_snd]
    constructor
    · simp
    · intro k current
      obtain rfl : v.key = k := by simpa using current
      simpa using obsolete
    · intro k current alive
      obtain rfl : v.key = k := by simpa using current
      replace alive : (s.enter v).keyObsolete = false := alive
      simp only [rule_enter, boundary?_snoc, boundary alive, alive]
      cases s.rule.boundary? seen v.key <;> cases s.rule.spares v.height <;> rfl

@[simp] theorem rule_judge (s : RowSelector) (v : Version) : (s.judge v).2.rule = s.rule := by
  simp [judge_snd]

@[simp] theorem marker_judge (s : RowSelector) (v : Version) :
    (s.judge v).2.marker = v.key.leading := by
  simp [judge_snd]

end RowSelector

theorem RetentionRule.isObsolete_append {rule : RetentionRule} {rows : List Version} {v : Version}
    (hv : v ∈ rows) (later : List Version) :
    rule.isObsolete (rows ++ later) v = rule.isObsolete rows v := by
  have newest : RetentionRule.newest? (rows ++ later) v.key = RetentionRule.newest? rows v.key := by
    have isThere : (RetentionRule.newest? rows v.key).isSome := by
      rw [RetentionRule.newest?, List.find?_isSome]
      exact ⟨v, hv, by simp⟩
    unfold RetentionRule.newest? at isThere ⊢
    rw [List.find?_append, Option.or_of_isSome isThere]
  cases spared : rule.spares v.height with
  | true => simp [isObsolete, spared]
  | false =>
      have isThere : (rule.boundary? rows v.key).isSome := by
        rw [RetentionRule.boundary?, List.find?_isSome]
        exact ⟨v, hv, by simp [spared]⟩
      have boundary : rule.boundary? (rows ++ later) v.key = rule.boundary? rows v.key := by
        unfold RetentionRule.boundary? at isThere ⊢
        rw [List.find?_append, Option.or_of_isSome isThere]
      simp only [isObsolete, newest, boundary]

namespace RowSelector

variable {α : Type}

theorem sweep_cons (version : α → Version) (s : RowSelector) (r : α) (rs : List α) :
    s.sweep version none (r :: rs) =
      let rest := (s.judge (version r)).2.sweep version none rs
      if (s.judge (version r)).1 then { rest with doomed := r :: rest.doomed }
      else { rest with spared := r :: rest.spared } := rfl

theorem sweep_perm (version : α → Version) (s : RowSelector) (limit : Option Nat)
    (rows : List α) :
    ((s.sweep version limit rows).doomed ++ (s.sweep version limit rows).spared).Perm rows := by
  induction rows generalizing s limit with
  | nil => exact .nil
  | cons r rs ih =>
      cases s.meets version limit r rs with
      | spares _ sweep =>
          rw [sweep]
          exact List.perm_middle.trans ((ih _ _).cons r)
      | fills _ _ _ _ sweep =>
          rw [sweep]
          exact .refl _
      | takes _ _ sweep =>
          rw [sweep]
          exact (ih _ _).cons r

theorem sweep_map {β : Type} (version : α → Version) (f : β → α) (s : RowSelector)
    (limit : Option Nat) (rows : List β) :
    (s.sweep version limit (rows.map f)).doomed =
        (s.sweep (fun r => version (f r)) limit rows).doomed.map f ∧
      (s.sweep version limit (rows.map f)).selector =
        (s.sweep (fun r => version (f r)) limit rows).selector := by
  induction rows generalizing s limit with
  | nil => exact ⟨rfl, rfl⟩
  | cons r rs ih =>
      simp only [sweep, List.map_cons]
      split
      · split
        · split
          · exact ⟨rfl, rfl⟩
          · exact ⟨congrArg (f r :: ·) (ih _ _).1, (ih _ _).2⟩
        · exact ⟨congrArg (f r :: ·) (ih _ _).1, (ih _ _).2⟩
      · exact ih _ _

/-- A scan without a limit that goes on from rows in scan order takes the obsolete ones. -/
theorem Knows.sweep {s : RowSelector} {seen rows : List Version} (knows : s.Knows seen)
    (sorted : (seen ++ rows).Pairwise Version.Precedes) :
    (s.sweep id none rows).doomed = rows.filter (s.rule.isObsolete (seen ++ rows)) ∧
      (s.sweep id none rows).spared =
        rows.filter (fun v => !s.rule.isObsolete (seen ++ rows) v) := by
  induction rows generalizing s seen with
  | nil => exact ⟨rfl, rfl⟩
  | cons v vs ih =>
      rw [List.append_cons] at sorted ⊢
      have start := sorted.sublist (List.sublist_append_left (seen ++ [v]) vs)
      obtain ⟨decision, knows'⟩ := knows.judge start
      obtain ⟨doomed, spared⟩ := ih knows' sorted
      have here : s.rule.isObsolete (seen ++ [v] ++ vs) v = (s.judge v).1 := by
        rw [RetentionRule.isObsolete_append (by simp), decision]
      rw [rule_judge] at doomed spared
      rw [sweep_cons, id, List.filter_cons, List.filter_cons, here]
      cases (s.judge v).1 <;> simp [doomed, spared]

theorem marker_sweep (version : α → Version) (s : RowSelector) (rows : List α) :
    (s.sweep version none rows).selector.marker =
      (rows.getLast?.map fun r => (version r).key.leading).getD s.marker := by
  induction rows generalizing s with
  | nil => rfl
  | cons r rs ih =>
      have tail : (s.sweep version none (r :: rs)).selector =
          ((s.judge (version r)).2.sweep version none rs).selector := by
        rw [sweep_cons]
        cases (s.judge (version r)).1 <;> rfl
      rw [tail, ih, marker_judge, List.getLast?_cons]
      cases rs.getLast? <;> rfl

@[simp] theorem rule_sweep (version : α → Version) (s : RowSelector) (limit : Option Nat)
    (rows : List α) : (s.sweep version limit rows).selector.rule = s.rule := by
  induction rows generalizing s limit with
  | nil => rfl
  | cons r rs ih =>
      cases s.meets version limit r rs with
      | spares _ sweep | takes _ _ sweep => rw [sweep, ih, rule_judge]
      | fills _ _ _ _ sweep => rw [sweep, rule_judge]

theorem length_doomed_lt (version : α → Version) (s : RowSelector) (n : Nat) (rows : List α)
    (complete : (s.sweep version (some n) rows).complete = true) :
    (s.sweep version (some n) rows).doomed.length < max n 1 := by
  induction rows generalizing s n with
  | nil => exact Nat.lt_of_lt_of_le Nat.zero_lt_one (Nat.le_max_right n 1)
  | cons r rs ih =>
      cases s.meets version (some n) r rs with
      | spares _ sweep =>
          rw [sweep] at complete ⊢
          exact ih _ n complete
      | fills _ _ _ _ sweep =>
          rw [sweep] at complete
          cases complete
      | takes _ more sweep =>
          rw [sweep] at complete ⊢
          have rest := ih _ (n - 1) complete
          have two := more n rfl
          rw [List.length_cons, Option.map_some]
          omega

/-- A bounded scan is the unbounded one of the rows that it met, and leaves the others. It ends
    before the last row only by its limit, at a row that it selects. -/
theorem sweep_cut (version : α → Version) (s : RowSelector) (limit : Option Nat)
    (rows : List α) : ∃ met unmet, rows = met ++ unmet ∧
      (s.sweep version limit rows).doomed = (s.sweep version none met).doomed ∧
      (s.sweep version limit rows).spared = (s.sweep version none met).spared ++ unmet ∧
      (s.sweep version limit rows).selector = (s.sweep version none met).selector ∧
      ((s.sweep version limit rows).complete = true → unmet = []) ∧
      ((s.sweep version limit rows).complete = false →
        (∃ front u, met = front ++ [u] ∧ u ∈ (s.sweep version limit rows).doomed) ∧
        ∃ n, limit = some n ∧ (s.sweep version limit rows).doomed.length = max n 1) := by
  induction rows generalizing s limit with
  | nil => exact ⟨[], [], rfl, rfl, rfl, rfl, fun _ => rfl, fun incomplete => by cases incomplete⟩
  | cons r rs ih =>
      cases s.meets version limit r rs with
      | spares kept sweep =>
          obtain ⟨met, unmet, rfl, doomed, spared, selector, all, full⟩ :=
            ih (s.judge (version r)).2 limit
          refine ⟨r :: met, unmet, rfl, ?_⟩
          simp only [sweep, sweep_cons, kept, doomed, spared, selector, Bool.false_eq_true, if_false,
            List.cons_append, true_and]
          refine ⟨all, fun incomplete => ?_⟩
          obtain ⟨⟨front, u, rfl, last⟩, count⟩ := full incomplete
          rw [doomed] at last count
          exact ⟨⟨r :: front, u, rfl, last⟩, count⟩
      | fills selected n limited enough sweep =>
          refine ⟨[r], rs, rfl, ?_⟩
          simp only [sweep, sweep_cons, selected, if_true]
          refine ⟨rfl, rfl, rfl, fun complete => Bool.noConfusion complete, fun _ => ?_⟩
          refine ⟨⟨[], r, rfl, List.mem_singleton_self r⟩, n, limited, ?_⟩
          rw [List.length_singleton]
          omega
      | takes selected more sweep =>
          obtain ⟨met, unmet, rfl, doomed, spared, selector, all, full⟩ :=
            ih (s.judge (version r)).2 (limit.map (· - 1))
          refine ⟨r :: met, unmet, rfl, ?_⟩
          simp only [sweep, sweep_cons, selected, doomed, spared, selector, if_true, true_and]
          refine ⟨all, fun incomplete => ?_⟩
          obtain ⟨⟨front, u, rfl, last⟩, m, limited, length⟩ := full incomplete
          obtain ⟨n, rfl, rfl⟩ := Option.map_eq_some_iff.1 limited
          rw [doomed] at last length
          refine ⟨⟨r :: front, u, rfl, List.mem_cons_of_mem r last⟩, n, rfl, ?_⟩
          have two := more n rfl
          rw [List.length_cons, length]
          omega

theorem length_doomed_le (version : α → Version) (s : RowSelector) (n : Nat) (rows : List α) :
    (s.sweep version (some n) rows).doomed.length ≤ max n 1 := by
  cases complete : (s.sweep version (some n) rows).complete with
  | true => exact Nat.le_of_lt (length_doomed_lt version s n rows complete)
  | false =>
      obtain ⟨met, unmet, -, -, -, -, -, full⟩ := sweep_cut version s (some n) rows
      obtain ⟨-, m, limited, count⟩ := full complete
      cases limited
      exact Nat.le_of_eq count

end RowSelector

end HistoryTrim
