import HistoryTrim.Proofs.Database.Layout
import Mathlib.Data.Finset.Max
import Mathlib.Data.List.Forall2
import Mathlib.Data.List.Pairwise

/-! # What rows store

A row of a created table stores a version, if its leading key is an integer, and says in any case to
which key it belongs, at which height and whether it is latest.
-/

/-! ## Versions as rows

A row of a created table stores a version: its key values one by one, its height, its flag as a
number, and a payload that no trim looks at. Such a row is read back without an error, and rows
compare as the versions that they store.
-/

namespace HistoryTrim

/-- A key value is of the type of its column. -/
def KeyValue.HasType : ColumnType → KeyValue → Prop
  | .integer, .integer _ => True
  | .text, .text _ => True
  | .blob, .blob _ => True
  | _, _ => False

namespace Database

/-- A key value as it is stored. -/
def Cell.ofKeyValue : KeyValue → Cell
  | .integer n => .integer n
  | .text s => .text s
  | .blob bytes => .blob bytes

theorem Cell.compare_ofKeyValue (a b : KeyValue) :
    compare (Cell.ofKeyValue a) (Cell.ofKeyValue b) = compare a b := by
  cases a <;> cases b <;> rfl

/-- A row stores a version under a definition. -/
structure Record.Stores (r : Record) (t : Table) (v : Version) : Prop where
  cells : ∃ payload, r.cells = .integer v.key.leading :: v.key.rest.map Cell.ofKeyValue ++
    [.integer v.height, .ofBool v.latest, payload]
  typed : List.Forall₂ (fun k value => KeyValue.HasType k.type value) t.keys.tail v.key.rest

/-- A key column shows a value of its type in a row. -/
def ShowsKeyValue (r : Record) (column : ColumnType × Source) (value : KeyValue) : Prop :=
  KeyValue.HasType column.1 value ∧ column.2.cell r = .ofKeyValue value

/-- What the columns of a scan show of a row are the parts of a version. -/
structure VersionColumns.Show (c : VersionColumns) (r : Record) (v : Version) : Prop where
  leading : c.leading.cell r = .integer v.key.leading
  further : List.Forall₂ (ShowsKeyValue r) c.further v.key.rest
  height : c.height.cell r = .integer v.height
  latest : c.latest.cell r = .ofBool v.latest

theorem readKeyValue_ofKeyValue {type : ColumnType} {value : KeyValue}
    (typed : KeyValue.HasType type value) (column : Nat) :
    readKeyValue type column (.ofKeyValue value) = .ok value := by
  cases type <;> cases value <;> first | rfl | cases typed

theorem readKeyValues_eq {r : Record} {further : List (ColumnType × Source)} {rest : List KeyValue}
    (shown : List.Forall₂ (ShowsKeyValue r) further rest) (column : Nat) :
    readKeyValues column (further.map fun f => (f.1, f.2.cell r)) = .ok rest := by
  induction shown generalizing column with
  | nil => rfl
  | cons first _ ih =>
      obtain ⟨typed, cell⟩ := first
      simp only [List.map_cons, readKeyValues, cell, readKeyValue_ofKeyValue typed, ih, bind,
        Except.bind, pure, Except.pure]

theorem compareBy_further {a b : Record} {further : List (ColumnType × Source)}
    {xs ys : List KeyValue} (later : List (Source × Bool))
    (shownA : List.Forall₂ (ShowsKeyValue a) further xs)
    (shownB : List.Forall₂ (ShowsKeyValue b) further ys) :
    Relation.compareBy (further.map (fun f => (f.2, false)) ++ later) a b =
      (compare xs ys).then (Relation.compareBy later a b) := by
  induction shownA generalizing ys with
  | nil =>
      cases shownB
      rfl
  | cons firstA _ ih =>
      cases shownB with
      | cons firstB restB =>
          simp only [List.map_cons, List.cons_append, Relation.compareBy, firstA.2, firstB.2,
            Cell.compare_ofKeyValue, ih restB, List.compare_cons_cons, Bool.false_eq_true, if_false,
            Ordering.then_assoc]

namespace VersionColumns.Show

variable {c : VersionColumns} {r a b : Record} {v w : Version}

theorem read_eq (shown : c.Show r v) : c.read r = .ok v := by
  have flag : readTruth (c.further.length + 3) (.ofBool v.latest) = .ok v.latest := by
    cases v.latest <;> rfl
  simp only [read, shown.leading, readKeyValues_eq shown.further, shown.height, shown.latest, flag,
    readInteger, bind, Except.bind, pure, Except.pure]

theorem compareBy_eq (shownA : c.Show a v) (shownB : c.Show b w) :
    Relation.compareBy c.order a b = v.scanCompare w := by
  simp only [order, List.cons_append, Relation.compareBy]
  rw [compareBy_further _ shownA.further shownB.further]
  simp only [Relation.compareBy, shownA.leading, shownB.leading, shownA.height, shownB.height,
    Bool.false_eq_true, if_false, if_true, Ordering.then_eq]
  rw [← Ordering.then_assoc]
  rfl

theorem holds_eq (shown : c.Show r v) (leading : c.leading = .column 0 .integer) (marker : Int64) :
    c.leading.holds Ordering.isGE r marker = decide (marker ≤ v.key.leading) := by
  have value : c.leading.holds Ordering.isGE r marker =
      Cell.holds Ordering.isGE (c.leading.cell r) (.integer marker) := by
    rw [leading]
    rfl
  rw [value, shown.leading, Bool.eq_iff_iff, decide_eq_true_iff]
  have order : (compare v.key.leading marker).isGE = true ↔ marker ≤ v.key.leading :=
    Std.isGE_compare
  exact order

end VersionColumns.Show

namespace LaidOut

variable {db : Database} {t : Table} {rel : Relation} {leading : KeyColumn}
  {further : List KeyColumn}

theorem versionColumns?_eq (layout : db.LaidOut t rel) (keys : t.keys = leading :: further)
    (integer : leading.type = .integer) :
    ∃ columns, rel.versionColumns? t = some columns ∧ columns.leading = .column 0 .integer ∧
      ∀ r v, r.Stores t v → columns.Show r v := by
  have first : rel.quotedSource leading.name = .column 0 .integer := by
    rw [layout.key_source (i := 0) (by rw [keys]; rfl), integer]
  refine ⟨_, by rw [Relation.versionColumns?, keys], first, fun r v stores => ?_⟩
  obtain ⟨⟨payload, cells⟩, typed⟩ := stores
  rw [keys, List.tail_cons] at typed
  have length : further.length = v.key.rest.length := typed.length_eq
  have count : t.keys.length = v.key.rest.length + 1 := by rw [keys, List.length_cons, length]
  refine ⟨?_, ?_, ?_, ?_⟩
  · rw [first, Source.cell, Record.cell, cells]
    rfl
  · rw [List.forall₂_map_left_iff]
    refine List.forall₂_iff_get.2 ⟨length, fun i here there => ⟨typed.get here there, ?_⟩⟩
    have key : t.keys[i + 1]? = some (further.get ⟨i, here⟩) := by simp [keys]
    rw [layout.key_source key, Source.cell, Record.cell, cells]
    simp [List.getD_eq_getElem?_getD, List.getElem?_append, there]
  · rw [layout.height_source, Source.cell, Record.cell, cells, count]
    simp [List.getD_eq_getElem?_getD]
  · rw [layout.latest_source, Source.cell, Record.cell, cells, count]
    simp [List.getD_eq_getElem?_getD]

end LaidOut

end Database

/-! ## What the statement of an unordered trim deletes

The statement looks for other rows of a key instead of reading the rows in order, and any types of
keys will do. As long as only the newest row of a key is latest, it deletes what the rule says: a row
within reach goes if its key was gone before the window, or if a newer row within reach stands in
for it.
-/

/-- What a row of a versioned table says. The leading value of its key may be of any type. -/
structure RowContent where
  key : List KeyValue
  height : Height
  latest : Bool
  deriving Repr, DecidableEq

/-- The row of greatest height of a key. -/
def RowContent.IsTop (contents : List RowContent) (key : List KeyValue) (top : RowContent) : Prop :=
  top ∈ contents ∧ top.key = key ∧ ∀ w ∈ contents, w.key = key → w.height ≤ top.height

instance (contents : List RowContent) (key : List KeyValue) (top : RowContent) :
    Decidable (RowContent.IsTop contents key top) :=
  inferInstanceAs (Decidable (_ ∧ _ ∧ _))

namespace RetentionRule

/-- A row goes: it is within reach, and either the newest row of its key is not latest and lies below
    the trim height, or the key has a newer row within reach. -/
def Drops (rule : RetentionRule) (contents : List RowContent) (e : RowContent) : Prop :=
  e.height < rule.trimHeight ∧ rule.retained ≠ some e.height ∧
    ((∃ top ∈ contents, RowContent.IsTop contents e.key top ∧ top.latest = false ∧
        top.height < rule.trimHeight) ∨
      ∃ w ∈ contents, w.key = e.key ∧ w.height < rule.trimHeight ∧
        rule.retained ≠ some w.height ∧ e.height < w.height)

instance (rule : RetentionRule) (contents : List RowContent) (e : RowContent) :
    Decidable (rule.Drops contents e) :=
  inferInstanceAs (Decidable (_ ∧ _ ∧ (_ ∨ _)))

end RetentionRule

namespace RowContent

/-- At most one row for a key and a height, and only the newest row of a key is latest. -/
structure Consistent (contents : List RowContent) : Prop where
  distinct : contents.Pairwise fun a b => ¬ (a.key = b.key ∧ a.height = b.height)
  newestOnly : ∀ e ∈ contents, e.latest = true → IsTop contents e.key e

theorem exists_top {contents : List RowContent} {e : RowContent} (he : e ∈ contents) :
    ∃ top, IsTop contents e.key top := by
  let own := (contents.filter fun w => w.key = e.key).toFinset
  have mem_own {w : RowContent} : w ∈ own ↔ w ∈ contents ∧ w.key = e.key := by simp [own]
  obtain ⟨top, isOwn, greatest⟩ :=
    own.exists_max_image (fun w => w.height.toInt) ⟨e, mem_own.2 ⟨he, rfl⟩⟩
  obtain ⟨there, key⟩ := mem_own.1 isOwn
  refine ⟨top, there, key, fun w hw same => ?_⟩
  exact Int64.le_iff_toInt_le.2 (greatest w (mem_own.2 ⟨hw, same⟩))

namespace Consistent

variable {contents : List RowContent} {a b e top : RowContent}

theorem eq_of_same_place (consistent : Consistent contents) (ha : a ∈ contents) (hb : b ∈ contents)
    (key : a.key = b.key) (height : a.height = b.height) : a = b := by
  have symmetric : Std.Symm fun x y : RowContent => ¬(x.key = y.key ∧ x.height = y.height) :=
    ⟨fun x y apart same => apart ⟨same.1.symm, same.2.symm⟩⟩
  by_contra differ
  exact consistent.distinct.forall ha hb differ ⟨key, height⟩

theorem top_unique (consistent : Consistent contents) {key : List KeyValue}
    (ha : IsTop contents key a) (hb : IsTop contents key b) : a = b := by
  obtain ⟨hereA, keyA, greatestA⟩ := ha
  obtain ⟨hereB, keyB, greatestB⟩ := hb
  exact consistent.eq_of_same_place hereA hereB (keyA.trans keyB.symm)
    (Int64.le_antisymm (greatestB a hereA keyA) (greatestA b hereB keyB))

theorem top_of_latest (consistent : Consistent contents) (ha : a ∈ contents) (key : a.key = e.key)
    (latest : a.latest = true) : IsTop contents e.key a := by
  rw [← key]
  exact consistent.newestOnly a ha latest

theorem not_latest_of_drops (consistent : Consistent contents) (he : e ∈ contents)
    {rule : RetentionRule} (drops : rule.Drops contents e) : e.latest = false := by
  refine Bool.eq_false_iff.2 fun latest => ?_
  have isTop := consistent.top_of_latest he rfl latest
  obtain ⟨-, -, ⟨top, -, newest, hidden, -⟩ | ⟨w, hw, key, -, -, newer⟩⟩ := drops
  · rw [consistent.top_unique newest isTop, latest] at hidden
    cases hidden
  · exact Int64.not_le.2 newer (isTop.2.2 w hw key)

/-- The two searches of the statement among the rows of a key come to the rule. -/
theorem drops_iff (consistent : Consistent contents) (he : e ∈ contents) (rule : RetentionRule) :
    rule.Drops contents e ↔
      e.height < rule.trimHeight ∧ e.latest = false ∧ rule.retained ≠ some e.height ∧
        ((¬ ∃ b ∈ contents, b.key = e.key ∧ (b.latest = true ∨ rule.trimHeight ≤ b.height)) ∨
          ∃ b ∈ contents, b.key = e.key ∧ b.height < rule.trimHeight ∧ e.height < b.height ∧
            rule.retained ≠ some b.height) := by
  constructor
  · intro drops
    have hidden := consistent.not_latest_of_drops he drops
    obtain ⟨below, apart, ⟨top, -, newest, topHidden, topBelow⟩ | ⟨w, hw, key, reach⟩⟩ := drops
    · refine ⟨below, hidden, apart, .inl ?_⟩
      rintro ⟨b, hb, key, latest | inWindow⟩
      · cases consistent.top_unique newest (consistent.top_of_latest hb key latest)
        cases latest.symm.trans topHidden
      · have above := newest.2.2 b hb key
        exact Int64.not_le.2 topBelow (Int64.le_trans inWindow above)
    · exact ⟨below, hidden, apart, .inr ⟨w, hw, key, reach.1, reach.2.2, reach.2.1⟩⟩
  · rintro ⟨below, -, apart, noneAlive | ⟨b, hb, key, reach⟩⟩
    · obtain ⟨top, newest⟩ := exists_top he
      have gone : ¬ (top.latest = true ∨ rule.trimHeight ≤ top.height) := fun alive =>
        noneAlive ⟨top, newest.1, newest.2.1, alive⟩
      obtain ⟨hidden, topBelow⟩ := not_or.1 gone
      exact ⟨below, apart, .inl ⟨top, newest.1, newest, Bool.eq_false_iff.2 hidden,
        Int64.not_le.1 topBelow⟩⟩
    · exact ⟨below, apart, .inr ⟨b, hb, key, reach.1, reach.2.2, reach.2.1⟩⟩

end Consistent

end RowContent

end HistoryTrim
