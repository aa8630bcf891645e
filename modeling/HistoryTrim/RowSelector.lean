import HistoryTrim.Version

/-! # Row selection

Which versions of a table are obsolete is decided row by row while the table is scanned in scan
order. Of each key the newest version below the trim height stays, unless the entity was gone
before that height; versions at the retained height always stay.
-/

namespace HistoryTrim

/-- Bounds of a trim. -/
@[ext] structure RetentionRule where
  /-- Versions at or above this height are in the window. -/
  trimHeight : Height
  /-- The height whose versions are always kept, if there is one. -/
  retained : Option Height
  deriving Repr, DecidableEq

namespace RetentionRule

/-- Versions at this height stay whatever else is stored: it lies in the window or is retained. -/
def spares (rule : RetentionRule) (height : Height) : Bool :=
  decide (rule.trimHeight ≤ height) || decide (rule.retained = some height)

/-- An entity whose newest version is this one was gone before the window. -/
def outlives (rule : RetentionRule) (newest : Version) : Bool :=
  decide (newest.height < rule.trimHeight) && !newest.latest

end RetentionRule

/-- State of a scan that selects obsolete versions. -/
structure RowSelector where
  rule : RetentionRule
  /-- Key of the last row met since the group was restarted. -/
  previousKey : Option Key := none
  /-- The current key was gone before the trim height. -/
  keyObsolete : Bool := false
  /-- The version of the current key that readers at the trim height see was met. -/
  boundaryKept : Bool := false
  /-- Leading value of the last row met; a later scan may start there. -/
  marker : Int64 := Int64.minValue
  deriving Repr, DecidableEq

namespace RowSelector

/-- A selector that has met no row. -/
def start (rule : RetentionRule) : RowSelector := { rule }

/-- Forget the current key, so that the next row starts a group. The marker stays. -/
def restartGroup (s : RowSelector) : RowSelector :=
  { s with previousKey := none, keyObsolete := false, boundaryKept := false }

/-- Meet a row: its key becomes the current one, and the marker moves to it. -/
def enter (s : RowSelector) (v : Version) : RowSelector :=
  if s.previousKey = some v.key then { s with marker := v.key.leading }
  else { s with
    marker := v.key.leading
    previousKey := some v.key
    keyObsolete := s.rule.outlives v
    boundaryKept := false }

/-- Decide on a row: whether it is obsolete, and the selector afterwards. -/
def judge (s : RowSelector) (v : Version) : Bool × RowSelector :=
  let s := s.enter v
  if s.rule.spares v.height then (false, s)
  else if s.keyObsolete then (true, s)
  else if s.boundaryKept then (true, s)
  else (false, { s with boundaryKept := true })

/-- Decisions on a list of rows, one after the other. -/
def decisions (s : RowSelector) : List Version → List Bool × RowSelector
  | [] => ([], s)
  | v :: vs =>
    let (doomed, s) := s.judge v
    let (rest, s) := s.decisions vs
    (doomed :: rest, s)

end RowSelector

/-- Outcome of a bounded scan. -/
structure Sweep (α : Type) where
  /-- Selected rows, in scan order. -/
  doomed : List α
  /-- All other rows, in scan order. -/
  spared : List α
  /-- Every row was met. -/
  complete : Bool
  selector : RowSelector

namespace RowSelector

variable {α : Type}

/-- Scan rows until so many are selected; without a limit, scan all. The limit is looked at after
    a row was selected, so a limit of zero selects one row too. -/
def sweep (version : α → Version) (s : RowSelector) (limit : Option Nat) :
    List α → Sweep α
  | [] => { doomed := [], spared := [], complete := true, selector := s }
  | r :: rs =>
    let (selected, s) := s.judge (version r)
    if selected then
      match limit with
      | some n =>
        if n ≤ 1 then { doomed := [r], spared := rs, complete := false, selector := s }
        else
          let rest := s.sweep version (some (n - 1)) rs
          { rest with doomed := r :: rest.doomed }
      | none =>
        let rest := s.sweep version none rs
        { rest with doomed := r :: rest.doomed }
    else
      let rest := s.sweep version limit rs
      { rest with spared := r :: rest.spared }

/-- What a scan does with the first row that it meets. -/
inductive Meets (version : α → Version) (s : RowSelector) (limit : Option Nat) (r : α) (rs : List α) :
    Prop where
  /-- It leaves the row and goes on. -/
  | spares (kept : (s.judge (version r)).1 = false)
      (sweep : s.sweep version limit (r :: rs) =
        { (s.judge (version r)).2.sweep version limit rs with
          spared := r :: ((s.judge (version r)).2.sweep version limit rs).spared })
  /-- It selects the row, and that is enough. -/
  | fills (selected : (s.judge (version r)).1 = true) (n : Nat) (limited : limit = some n)
      (enough : n ≤ 1)
      (sweep : s.sweep version limit (r :: rs) =
        { doomed := [r], spared := rs, complete := false, selector := (s.judge (version r)).2 })
  /-- It selects the row and goes on. -/
  | takes (selected : (s.judge (version r)).1 = true) (more : ∀ n, limit = some n → 1 < n)
      (sweep : s.sweep version limit (r :: rs) =
        { (s.judge (version r)).2.sweep version (limit.map (· - 1)) rs with
          doomed := r :: ((s.judge (version r)).2.sweep version (limit.map (· - 1)) rs).doomed })

theorem meets (version : α → Version) (s : RowSelector) (limit : Option Nat) (r : α) (rs : List α) :
    s.Meets version limit r rs := by
  cases selected : (s.judge (version r)).1 with
  | false =>
    refine .spares selected ?_
    simp only [sweep, selected, Bool.false_eq_true, if_false]
  | true =>
    cases limit with
    | none =>
      refine .takes selected (fun n limited => by cases limited) ?_
      simp only [sweep, selected, if_true, Option.map_none]
    | some n =>
      by_cases enough : n ≤ 1
      · refine .fills selected n rfl enough ?_
        simp only [sweep, selected, enough, if_true]
      · refine .takes selected (fun m limited => ?_) ?_
        · cases limited
          exact Nat.lt_of_not_le enough
        · simp only [sweep, selected, enough, if_true, if_false, Option.map_some]

theorem length_sweep (version : α → Version) (s : RowSelector) (limit : Option Nat)
    (rows : List α) :
    (s.sweep version limit rows).doomed.length + (s.sweep version limit rows).spared.length =
      rows.length := by
  induction rows generalizing s limit with
  | nil => rfl
  | cons r rs ih =>
    cases s.meets version limit r rs with
    | spares _ sweep => rw [sweep, List.length_cons, List.length_cons, ← Nat.add_assoc, ih]
    | fills _ _ _ _ sweep => rw [sweep, List.length_singleton, List.length_cons, Nat.add_comm]
    | takes _ _ sweep => rw [sweep, List.length_cons, List.length_cons, Nat.add_right_comm, ih]

theorem spared_sublist (version : α → Version) (s : RowSelector) (limit : Option Nat)
    (rows : List α) : (s.sweep version limit rows).spared.Sublist rows := by
  induction rows generalizing s limit with
  | nil => exact .slnil
  | cons r rs ih =>
    cases s.meets version limit r rs with
    | spares _ sweep =>
      rw [sweep]
      exact (ih _ _).cons_cons r
    | fills _ _ _ _ sweep =>
      rw [sweep]
      exact (List.Sublist.refl rs).cons r
    | takes _ _ sweep =>
      rw [sweep]
      exact (ih _ _).cons r

theorem doomed_sublist (version : α → Version) (s : RowSelector) (limit : Option Nat)
    (rows : List α) : (s.sweep version limit rows).doomed.Sublist rows := by
  induction rows generalizing s limit with
  | nil => exact .slnil
  | cons r rs ih =>
    cases s.meets version limit r rs with
    | spares _ sweep =>
      rw [sweep]
      exact (ih _ _).cons r
    | fills _ _ _ _ sweep =>
      rw [sweep]
      exact (List.nil_sublist rs).cons_cons r
    | takes _ _ sweep =>
      rw [sweep]
      exact (ih _ _).cons_cons r

end RowSelector

end HistoryTrim
