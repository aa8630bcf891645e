import HistoryTrim.Proofs.ScanOrders
import Mathlib.Order.Lattice
import Mathlib.Data.Int.Order.Basic

/-! # Rows in the order of an index

Rows in the order of an index compare by its columns, one after the other, so they are also in order by
any first few of these. The columns of an index that gives a scan order start with the keys and the
height: its rows come key by key, and from the greatest height of a key downwards, whatever the values
of a column are and however they are ordered.
-/

namespace HistoryTrim

universe u

/-- A row of a table has a value in every column. -/
abbrev IndexedRow (Value : String → Type u) := (column : String) → Value column

section Rows

variable {Value : String → Type u} [∀ column, LinearOrder (Value column)]

namespace IndexColumn

variable {a b c : IndexedRow Value} {keys : List String} {columns further : List IndexColumn}

/-- A row comes before another by a column, ascending or descending. -/
def Before (column : IndexColumn) (a b : IndexedRow Value) : Prop :=
  if column.descending then b column.name < a column.name else a column.name < b column.name

/-- By columns, one after the other, a row does not come after another. -/
def NotAfter : List IndexColumn → IndexedRow Value → IndexedRow Value → Prop
  | [], _, _ => True
  | column :: columns, a, b =>
    column.Before a b ∨ a column.name = b column.name ∧ NotAfter columns a b

instance (column : IndexColumn) (a b : IndexedRow Value) : Decidable (column.Before a b) :=
  inferInstanceAs (Decidable (ite _ _ _))

instance decidableNotAfter : (columns : List IndexColumn) → (a b : IndexedRow Value) →
    Decidable (NotAfter columns a b)
  | [], _, _ => .isTrue trivial
  | column :: columns, a, b =>
    have := decidableNotAfter columns a b
    inferInstanceAs (Decidable (column.Before a b ∨ a column.name = b column.name ∧ _))

/-- Rows in the order of columns. -/
def InOrder (columns : List IndexColumn) (rows : List (IndexedRow Value)) : Prop :=
  rows.Pairwise (NotAfter columns)

instance (columns : List IndexColumn) (rows : List (IndexedRow Value)) :
    Decidable (InOrder columns rows) :=
  inferInstanceAs (Decidable (rows.Pairwise _))

theorem notAfter_of_append (ordered : NotAfter (columns ++ further) a b) : NotAfter columns a b := by
  induction columns with
  | nil => trivial
  | cons column columns ih => exact ordered.imp_right fun rest => ⟨rest.1, ih rest.2⟩

theorem InOrder.shorten {rows : List (IndexedRow Value)} (first : columns <+: further)
    (ordered : InOrder further rows) : InOrder columns rows := by
  obtain ⟨rest, rfl⟩ := first
  exact ordered.imp notAfter_of_append

theorem notAfter_of_agree (agree : ∀ column ∈ columns, a column.name = b column.name)
    (ordered : NotAfter (columns ++ further) a b) : NotAfter further a b := by
  induction columns with
  | nil => exact ordered
  | cons column columns ih =>
      obtain ⟨here, later⟩ := List.forall_mem_cons.1 agree
      refine ih later (ordered.resolve_left fun before => ?_).2
      unfold Before at before
      split at before
      · exact before.ne here.symm
      · exact before.ne here

theorem le_of_notAfter_asc {key : String} (ordered : NotAfter (asc key :: further) a b) :
    a key ≤ b key :=
  ordered.elim (fun less => less.le) fun same => same.1.le

theorem le_of_notAfter_desc {height : String} (ordered : NotAfter (desc height :: further) a b) :
    b height ≤ a height :=
  ordered.elim (fun less => less.le) fun same => same.1.ge

/-- A row between two rows that agree by ascending columns agrees with them. -/
theorem agree_between (first : NotAfter (keys.map asc) a b) (second : NotAfter (keys.map asc) b c)
    (ends : ∀ key ∈ keys, a key = c key) : ∀ key ∈ keys, a key = b key := by
  induction keys with
  | nil => simp
  | cons key keys ih =>
      obtain ⟨outer, later⟩ := List.forall_mem_cons.1 ends
      have upper := le_of_notAfter_asc second
      rw [← outer] at upper
      have here : a key = b key := le_antisymm (le_of_notAfter_asc first) upper
      have there : b key = c key := here.symm.trans outer
      have first' : NotAfter ([asc key] ++ keys.map asc) a b := first
      have second' : NotAfter ([asc key] ++ keys.map asc) b c := second
      refine List.forall_mem_cons.2 ⟨here, ih ?_ ?_ later⟩
      · exact notAfter_of_agree (List.forall_mem_singleton.2 here) first'
      · exact notAfter_of_agree (List.forall_mem_singleton.2 there) second'

end IndexColumn

namespace Table

open IndexColumn

variable {t : Table} {catalog : Catalog} {leading : KeyColumn} {further : List KeyColumn}
  {rows : List (IndexedRow Value)}

/-- The columns of the scan order: the keys, ascending, then the height, descending. -/
def scanColumns (t : Table) : List IndexColumn :=
  t.keyNames.map asc ++ [desc t.heightColumn]

def SameKey (t : Table) (a b : IndexedRow Value) : Prop := ∀ key ∈ t.keyNames, a key = b key

/-- Rows in the scan order of a table. -/
structure Scanned (t : Table) (leading : String) (rows : List (IndexedRow Value)) : Prop where
  ordered : InOrder t.scanColumns rows
  /-- Between two rows of a key there are only rows of this key. -/
  contiguous : ∀ a b c, [a, b, c].Sublist rows → t.SameKey a c → t.SameKey a b
  heights : rows.Pairwise fun a b => t.SameKey a b → b t.heightColumn ≤ a t.heightColumn
  leading : rows.Pairwise fun a b => a leading ≤ b leading

theorem scanned_of_inOrder (keys : t.keys = leading :: further)
    (ordered : InOrder t.scanColumns rows) : t.Scanned leading.name rows where
  ordered := ordered
  contiguous a b c sublist same := by
    have byKeys := (ordered.shorten (List.prefix_append _ _)).sublist sublist
    obtain ⟨first, rest⟩ := List.pairwise_cons.1 byKeys
    obtain ⟨second, -⟩ := List.pairwise_cons.1 rest
    exact agree_between (first b (by simp)) (second c (by simp)) same
  heights := ordered.imp fun {a b} notAfter same => by
    have agree : ∀ column ∈ t.keyNames.map asc, a column.name = b column.name :=
      List.forall_mem_map.2 same
    exact le_of_notAfter_desc (notAfter_of_agree agree notAfter)
  leading := ordered.imp fun notAfter => by
    simp only [scanColumns, keyNames, keys, List.map_cons, List.cons_append] at notAfter
    exact le_of_notAfter_asc notAfter

end Table

end Rows

namespace Table

open IndexColumn

variable {t : Table} {catalog : Catalog} {leading : KeyColumn} {further : List KeyColumn}

theorem Candidate.hasKey {i : Index} (keys : t.keys = leading :: further)
    (candidate : t.Candidate catalog leading.name i) : i.HasKey t.keyNames 0 := by
  obtain ⟨indexes, -, single⟩ := candidate.single
  have starts : i ∈ startingWith leading.name indexes := by
    rw [single]
    exact List.mem_singleton_self i
  refine ⟨leading.name, by simp [keyNames, keys], ?_⟩
  rw [← List.head?_eq_getElem?]
  exact of_decide_eq_true (List.mem_filter.1 starts).2

theorem GivesOrder.begins {i : Index} (keys : t.keys = leading :: further)
    (gives : t.GivesOrder catalog leading.name i) : t.scanColumns <+: i.columns := by
  refine List.prefix_iff_getElem?.2 fun p within => ?_
  rw [← List.getElem?_eq_getElem within, scanColumns, List.getElem?_append]
  simp only [scanColumns, List.length_append, List.length_map, List.length_singleton] at within
  split
  next key =>
    have here : i.HasKey t.keyNames p := by
      cases p with
      | zero => exact gives.candidate.hasKey keys
      | succ p => exact gives.follows.further _ p.succ_pos (by simpa using key)
    obtain ⟨name, expected, found⟩ := here
    rw [found, List.getElem?_map, expected]
    rfl
  next past =>
    have last : p = t.keyNames.length := by
      rw [List.length_map] at past
      omega
    rw [last, gives.follows.last]
    simp

/-- An index by which a table can be trimmed in order has the rows in the scan order, whatever columns
    it goes on with. -/
theorem rows_scanned_of_available {name : String}
    (available : t.scanOrder catalog = .available name) :
    ∃ leading further i, t.keys = leading :: further ∧
      t.Candidate catalog leading.name i ∧ i.name = name ∧
      ∀ (Value : String → Type u) [∀ column, LinearOrder (Value column)]
        (rows : List (IndexedRow Value)),
        InOrder i.columns rows → t.Scanned leading.name rows := by
  cases keys : t.keys with
  | nil =>
      simp only [scanOrder, checkScanOrder, keyNames, keys, List.map_nil] at available
      cases available
  | cons leading further =>
      obtain ⟨i, gives, named⟩ := (scanOrder_eq_available_iff keys).1 available
      refine ⟨leading, further, i, rfl, gives.candidate, named, fun Value _ rows ordered => ?_⟩
      exact scanned_of_inOrder keys (ordered.shorten (gives.begins keys))

section Balances

/-- A balance with integers in all its columns. -/
def balanceRow (account asset height latest : Int) : IndexedRow fun _ => Int
  | "account_id" => account
  | "asset_id" => asset
  | "height" => height
  | _ => latest

def balanceRows : List (IndexedRow fun _ => Int) :=
  [balanceRow 1 1 5 1, balanceRow 1 1 3 0, balanceRow 1 2 4 1, balanceRow 2 1 9 1]

theorem rows_scanned_of_available_balances :
    balances.scanOrder (balancesCatalog (.ok [coveringIndex])) = .available "covering_idx" ∧
      InOrder coveringIndex.columns balanceRows ∧ balances.Scanned "account_id" balanceRows := by
  have available : balances.scanOrder (balancesCatalog (.ok [coveringIndex])) =
      .available "covering_idx" := by decide
  have ordered : InOrder coveringIndex.columns balanceRows := by
    decide
  obtain ⟨leading, further, i, keys, candidate, -, scanned⟩ := rows_scanned_of_available available
  cases keys
  obtain ⟨indexes, read, single⟩ := candidate.single
  cases read
  have covering : startingWith "account_id" [coveringIndex] = [coveringIndex] := by decide
  cases covering.symm.trans single
  exact ⟨available, ordered, scanned _ balanceRows ordered⟩

end Balances

end Table

end HistoryTrim
