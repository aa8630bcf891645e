import HistoryTrim.Dictionary
import Mathlib.Data.List.Induction
import Mathlib.Data.List.Nodup

/-! # Laws of dictionaries

Pairs that are written one after the other leave each name once, in the place where it was written
first, with the value that was written last.
-/

namespace HistoryTrim.Dictionary

variable {α : Type} {d : Dictionary α}

theorem map_fst_putEntry (name : String) (value : α) (es : List (String × α)) :
    (putEntry name value es).map Prod.fst =
      if name ∈ es.map Prod.fst then es.map Prod.fst else es.map Prod.fst ++ [name] := by
  induction es with
  | nil => rfl
  | cons e es ih =>
      by_cases same : e.1 = name
      · simp [putEntry, same]
      · have other : name ≠ e.1 := fun same' => same same'.symm
        simp only [putEntry, same, if_false, List.map_cons, ih, List.mem_cons, other, false_or]
        split <;> rfl

theorem names_put (d : Dictionary α) (name : String) (value : α) :
    (d.put name value).names = if name ∈ d.names then d.names else d.names ++ [name] :=
  map_fst_putEntry name value d.entries

theorem nodup_put (distinct : d.names.Nodup) (name : String) (value : α) :
    (d.put name value).names.Nodup := by
  rw [names_put]
  split
  · exact distinct
  next new =>
    refine List.nodup_append.2 ⟨distinct, List.pairwise_singleton _ _, fun known old added here => ?_⟩
    rintro rfl
    exact new (List.mem_singleton.1 here ▸ old)

theorem ofPairs_snoc (pairs : List (String × α)) (p : String × α) :
    ofPairs (pairs ++ [p]) = (ofPairs pairs).put p.1 p.2 := by
  simp only [ofPairs, List.foldl_append, List.foldl_cons, List.foldl_nil]

theorem names_ofPairs (pairs : List (String × α)) :
    (ofPairs pairs).names = (pairs.map Prod.fst).eraseDups := by
  induction pairs using List.reverseRecOn with
  | nil => rfl
  | append_singleton pairs p ih =>
      rw [ofPairs_snoc, names_put, ih, List.map_append, List.eraseDups_append]
      by_cases known : p.1 ∈ pairs.map Prod.fst
      · simp [List.removeAll, known]
      · simp [List.removeAll, known, List.eraseDups_cons]

theorem nodup_ofPairs (pairs : List (String × α)) : (ofPairs pairs).names.Nodup := by
  induction pairs using List.reverseRecOn with
  | nil => exact .nil
  | append_singleton pairs p ih =>
      rw [ofPairs_snoc]
      exact nodup_put ih p.1 p.2

theorem get?_ofPairs (pairs : List (String × α)) (name : String) :
    (ofPairs pairs).get? name = (pairs.findRev? fun p => p.1 = name).map Prod.snd := by
  induction pairs using List.reverseRecOn with
  | nil => rfl
  | append_singleton pairs p ih =>
      rw [List.findRev?_eq_find?_reverse] at ih
      rw [ofPairs_snoc, get?_put, ih, List.findRev?_eq_find?_reverse, List.reverse_append,
        List.reverse_singleton, List.singleton_append, List.find?_cons]
      by_cases here : p.1 = name
      · simp [here]
      · have other : name ≠ p.1 := fun same => here same.symm
        simp [here, other]

theorem put_eq_self {name : String} {value : α} (found : d.get? name = some value) :
    d.put name value = d := by
  have general : ∀ es : List (String × α), getEntry? name es = some value →
      putEntry name value es = es := by
    intro es found
    induction es with
    | nil => cases found
    | cons e es ih =>
        by_cases here : e.1 = name
        · simp only [ getEntry?, here, if_true, Option.some.injEq] at found
          simp only [putEntry, here, if_true, ← found, List.cons.injEq, and_true]
          rw [← here]
        · simp only [ getEntry?, here, if_false] at found
          simp only [putEntry, here, if_false, ih found]
  exact congrArg Dictionary.mk (general d.entries found)

theorem mem_entries_of_get? {name : String} {value : α} (found : d.get? name = some value) :
    (name, value) ∈ d.entries := by
  have general : ∀ es : List (String × α), getEntry? name es = some value → (name, value) ∈ es := by
    intro es found
    induction es with
    | nil => cases found
    | cons e es ih =>
        by_cases here : e.1 = name
        · simp only [ getEntry?, here, if_true, Option.some.injEq] at found
          rw [← here, ← found]
          exact List.mem_cons_self
        · simp only [ getEntry?, here, if_false] at found
          exact List.mem_cons_of_mem _ (ih found)
  exact general d.entries found

theorem mem_entries_iff (distinct : d.names.Nodup) {name : String} {value : α} :
    (name, value) ∈ d.entries ↔ d.get? name = some value := by
  have general : ∀ es : List (String × α), (es.map Prod.fst).Nodup → (name, value) ∈ es →
      getEntry? name es = some value := by
    intro es distinct listed
    induction es with
    | nil => cases listed
    | cons e es ih =>
        obtain ⟨new, rest⟩ := List.nodup_cons.1 distinct
        rcases List.mem_cons.1 listed with rfl | later
        · simp only [ getEntry?, if_true]
        · have other : e.1 ≠ name := fun same => new (same ▸ List.mem_map_of_mem later)
          simp only [ getEntry?, other, if_false, ih rest later]
  exact ⟨general d.entries distinct, mem_entries_of_get?⟩

theorem get?_ofPairs_of_mem {pairs : List (String × α)} (distinct : (pairs.map Prod.fst).Nodup)
    {name : String} {value : α} (written : (name, value) ∈ pairs) :
    (ofPairs pairs).get? name = some value := by
  have found : (pairs.reverse.find? fun p => p.1 = name).isSome := by
    simpa using ⟨value, written⟩
  obtain ⟨last, here⟩ := Option.isSome_iff_exists.1 found
  have named : last.1 = name := by simpa using List.find?_some here
  have same : last = (name, value) :=
    List.inj_on_of_nodup_map distinct (List.mem_reverse.1 (List.mem_of_find?_eq_some here)) written
      named
  rw [get?_ofPairs, List.findRev?_eq_find?_reverse, here, same, Option.map_some]

end HistoryTrim.Dictionary
