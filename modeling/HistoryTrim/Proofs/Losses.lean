import HistoryTrim.Proofs.Attempts
import HistoryTrim.Proofs.Sessions
import Mathlib.Algebra.BigOperators.Group.Finset.Basic

/-! # What a run takes from a store

What was taken is measured by the rows of the store itself: those that were there before and are not
afterwards. A run meets every table once, and an attempt takes what its batches report from its own
table. So each outcome of a run tells what its table lost, an attempt that failed included, and no other
table lost anything.
-/

namespace HistoryTrim

theorem Dictionary.get?_eq_none {α : Type} {d : Dictionary α} {name : String}
    (absent : name ∉ d.names) : d.get? name = none := by
  have general : ∀ es : List (String × α), name ∉ es.map Prod.fst → getEntry? name es = none := by
    intro es absent
    induction es with
    | nil => rfl
    | cons e es ih =>
        simp only [List.map_cons, List.mem_cons, not_or] at absent
        unfold getEntry?
        rw [if_neg fun same => absent.1 same.symm, ih absent.2]
  exact general d.entries absent

theorem total_eq_sum_toFinset {names : List String} (distinct : names.Nodup)
    (rows : String → Nat) : total (names.map rows) = ∑ name ∈ names.toFinset, rows name := by
  induction names with
  | nil => rfl
  | cons name names ih =>
      obtain ⟨new, rest⟩ := List.nodup_cons.1 distinct
      have absent : name ∉ names.toFinset := by simpa using new
      rw [List.map_cons, total_cons, ih rest, List.toFinset_cons, Finset.sum_insert absent]

namespace MemoryStore

/-- The versions of a table; there are none if there is no table of that name. -/
def versions (s : MemoryStore) (name : String) : List Version :=
  ((s.history? name).map History.rows).getD []

/-- How many rows of a table are gone. -/
def lost (s s' : MemoryStore) (name : String) : Nat :=
  (s.versions name).countP fun v => decide (v ∉ s'.versions name)

/-- How many rows of all tables are gone. -/
def removed (s s' : MemoryStore) : Nat := ∑ name ∈ s.tables.names.toFinset, s.lost s' name

variable {s s' s'' : MemoryStore} {name : String}

theorem versions_eq {h : History} (stored : s.history? name = some h) :
    s.versions name = h.rows := by
  rw [versions, stored]
  rfl

theorem versions_eq_nil (absent : s.history? name = none) : s.versions name = [] := by
  rw [versions, absent]
  rfl

theorem nodup_versions (s : MemoryStore) (name : String) : (s.versions name).Nodup := by
  cases stored : s.history? name with
  | none =>
      rw [versions_eq_nil stored]
      exact .nil
  | some h =>
      rw [versions_eq stored]
      exact h.nodup

theorem lost_add_length (sub : ∀ v ∈ s'.versions name, v ∈ s.versions name) :
    s.lost s' name + (s'.versions name).length = (s.versions name).length := by
  let stays (v : Version) : Bool := decide (v ∈ s'.versions name)
  have part : ((s.versions name).filter stays).length = (s'.versions name).length :=
    (filter_mem_perm (s.nodup_versions name) (s'.nodup_versions name) sub).length_eq
  have gone : s.lost s' name = ((s.versions name).filter fun v => !stays v).length := by
    simp only [lost, stays, List.countP_eq_length_filter, decide_not]
  have whole := (List.filter_append_perm stays (s.versions name)).length_eq
  rw [List.length_append] at whole
  omega

theorem lost_trans (first : ∀ v ∈ s'.versions name, v ∈ s.versions name)
    (second : ∀ v ∈ s''.versions name, v ∈ s'.versions name) :
    s.lost s'' name = s.lost s' name + s'.lost s'' name := by
  have front := lost_add_length first
  have back := lost_add_length second
  have whole := lost_add_length fun v hv => first v (second v hv)
  omega

theorem lost_eq_zero (same : s'.versions name = s.versions name) : s.lost s' name = 0 := by
  have parts := lost_add_length fun v (hv : v ∈ s'.versions name) => same ▸ hv
  rw [same] at parts
  omega

theorem lost_absent (absent : name ∉ s.tables.names) : s.lost s' name = 0 := by
  have missing : s.history? name = none := by
    rw [history?, Dictionary.get?_eq_none absent]
    rfl
  rw [lost, versions_eq_nil missing]
  rfl

namespace Takes

variable {rule : RetentionRule} {rows : Nat} {other : String}

theorem versions_other (takes : Takes rule name s s' rows) (differ : other ≠ name) :
    s'.versions other = s.versions other := by
  rw [versions, history?, takes.others other differ]
  rfl

theorem versions_subset (takes : Takes rule name s s' rows) (other : String) :
    ∀ v ∈ s'.versions other, v ∈ s.versions other := by
  by_cases same : other = name
  · subst same
    cases stored : s.history? other with
    | none =>
        rw [versions_eq_nil (takes.missing stored).1]
        exact fun v hv => absurd hv List.not_mem_nil
    | some h =>
        obtain ⟨h', left, leaves, -⟩ := takes.here h stored
        rw [versions_eq left, versions_eq stored]
        exact leaves.sub
  · rw [takes.versions_other same]
    exact fun v hv => hv

theorem lost_eq (takes : Takes rule name s s' rows) : s.lost s' name = rows := by
  have parts := lost_add_length (takes.versions_subset name)
  cases stored : s.history? name with
  | none =>
      obtain ⟨still, nothing⟩ := takes.missing stored
      rw [versions_eq_nil stored, versions_eq_nil still] at parts
      exact parts.trans nothing.symm
  | some h =>
      obtain ⟨h', left, -, size⟩ := takes.here h stored
      rw [versions_eq stored, versions_eq left] at parts
      unfold History.size at size
      omega

end Takes

/-- Every outcome tells what its table lost, and no other table lost anything. -/
structure LostAsReported (s s' : MemoryStore) (outcomes : List Outcome) : Prop where
  fewer : ∀ name, ∀ v ∈ s'.versions name, v ∈ s.versions name
  distinct : (outcomes.map Outcome.table).Nodup
  reported : ∀ o ∈ outcomes, s.lost s' o.table = total o.committed
  others : ∀ name, name ∉ outcomes.map Outcome.table → s.lost s' name = 0

namespace LostAsReported

variable {outcomes : List Outcome}

theorem refl (s : MemoryStore) : LostAsReported s s [] where
  fewer _ _ hv := hv
  distinct := .nil
  reported _ ho := by cases ho
  others _ _ := lost_eq_zero rfl

theorem single {o : Outcome} {rule : RetentionRule}
    (takes : Takes rule o.table s s' (total o.committed)) : LostAsReported s s' [o] where
  fewer := takes.versions_subset
  distinct := List.nodup_singleton _
  reported o' ho' := by
    rw [List.mem_singleton.1 ho']
    exact takes.lost_eq
  others other absent := lost_eq_zero (takes.versions_other (by simpa using absent))

theorem append {outcomes' : List Outcome} (first : LostAsReported s s' outcomes)
    (second : LostAsReported s' s'' outcomes')
    (apart : ∀ o ∈ outcomes, o.table ∉ outcomes'.map Outcome.table) :
    LostAsReported s s'' (outcomes ++ outcomes') where
  fewer name v hv := first.fewer name v (second.fewer name v hv)
  distinct := by
    rw [List.map_append]
    refine List.nodup_append.2 ⟨first.distinct, second.distinct, fun a ha b hb => ?_⟩
    obtain ⟨o, ho, rfl⟩ := List.mem_map.1 ha
    rintro rfl
    exact apart o ho hb
  reported o ho := by
    rw [lost_trans (first.fewer o.table) (second.fewer o.table)]
    rcases List.mem_append.1 ho with early | late
    · rw [first.reported o early, second.others o.table (apart o early), Nat.add_zero]
    · have new : o.table ∉ outcomes.map Outcome.table := by
        intro met
        obtain ⟨o', ho', same⟩ := List.mem_map.1 met
        exact apart o' ho' (same ▸ List.mem_map_of_mem late)
      rw [first.others o.table new, second.reported o late, Nat.zero_add]
  others name absent := by
    rw [List.map_append, List.mem_append, not_or] at absent
    rw [lost_trans (first.fewer name) (second.fewer name), first.others name absent.1,
      second.others name absent.2]

theorem removed_eq (lost : LostAsReported s s' outcomes) :
    s.removed s' = total (outcomes.map fun o => total o.committed) := by
  have tables : s.removed s' = ∑ name ∈ (outcomes.map Outcome.table).toFinset, s.lost s' name := by
    refine Finset.sum_congr_of_eq_on_inter (fun name _ absent => ?_) (fun name _ absent => ?_)
      fun _ _ _ => rfl
    · exact lost.others name (by simpa using absent)
    · exact lost_absent (by simpa using absent)
  rw [tables, ← total_eq_sum_toFinset lost.distinct, List.map_map]
  exact congrArg total (List.map_congr_left fun o ho => lost.reported o ho)

end LostAsReported

end MemoryStore

namespace Trimmer

variable {t : Trimmer} {s : MemoryStore} {e : Entry} {trimHeight : Height}

/-- An opportunity takes what its outcome reports, which is nothing from a table that was skipped. -/
theorem opportunity_takes (t : Trimmer) (s : MemoryStore) (e : Entry) (trimHeight : Height) :
    MemoryStore.Takes (t.rule trimHeight) e.table.name s (t.opportunity s e trimHeight).2.2
      (total (t.opportunity s e trimHeight).1.committed) := by
  unfold opportunity
  split
  · exact t.work_takes s e trimHeight
  · exact .nothing rfl id

theorem opportunity_lost (t : Trimmer) (s : MemoryStore) (e : Entry) (trimHeight : Height) :
    MemoryStore.LostAsReported s (t.opportunity s e trimHeight).2.2
      [(t.opportunity s e trimHeight).1] := by
  have takes := t.opportunity_takes s e trimHeight
  rw [← t.table_opportunity s e trimHeight] at takes
  exact .single takes

theorem runEntries_lost {es : List Entry} (distinct : (names es).Nodup) (t : Trimmer)
    (s : MemoryStore) :
    MemoryStore.LostAsReported s (runEntries trimHeight es t s).2.2
      (runEntries trimHeight es t s).1 := by
  induction es generalizing t s with
  | nil => exact .refl s
  | cons e es ih =>
      obtain ⟨new, rest⟩ := List.nodup_cons.1 distinct
      rw [runEntries_cons]
      refine (t.opportunity_lost s e trimHeight).append (ih rest _ _) fun o ho => ?_
      rw [List.mem_singleton.1 ho, table_opportunity, tables_runEntries]
      exact new

end Trimmer

end HistoryTrim
