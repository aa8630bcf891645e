import HistoryTrim.Proofs.Database.MixedCells
import HistoryTrim.Proofs.Database.Renaming

/-! # Keys that are read

A scan groups rows by the keys that it reads, a trim without an order by the cells that are stored. Cells
of one class are read as different values where they differ. But a missing value is read as a value, and
in a column of bytes a text is read as its encoding; where such cells meet, the scan takes rows of two
keys for rows of one.
-/

namespace HistoryTrim

namespace Text

theorem toList_loop (bytes : ByteArray) (i : Nat) (taken : List UInt8) :
    ByteArray.toList.loop bytes i taken = taken.reverse ++ bytes.data.toList.drop i := by
  fun_induction ByteArray.toList.loop bytes i taken with
  | case1 i taken more ih =>
      have here : i < bytes.data.toList.length := more
      have next : bytes.get! i = bytes.data.toList[i] := getElem!_pos bytes.data i more
      rw [ih, next, List.drop_eq_getElem_cons here, List.reverse_cons, List.append_assoc]
      rfl
  | case2 i taken done =>
      rw [List.drop_eq_nil_of_le (Nat.le_of_not_lt done), List.append_nil]

theorem encoding_inj {a b : String} : a.toUTF8.toList = b.toUTF8.toList ↔ a = b := by
  refine ⟨fun same => ?_, fun same => same ▸ rfl⟩
  rw [ByteArray.toList, ByteArray.toList, toList_loop, toList_loop] at same
  exact String.toByteArray_inj.1 (ByteArray.ext (Array.toList_inj.1 same))

end Text

namespace Database

/-- Key columns of the type are read as bytes. -/
def ReadAsBytes (type : ColumnType) : Prop := type ≠ .integer ∧ type ≠ .text

/-- A key column reads the two cells as one value, though they are stored as different ones. -/
@[mk_iff] inductive Cell.Mistaken : ColumnType → Cell → Cell → Prop where
  | zero : Mistaken .integer .null (.integer 0)
  | emptyText : Mistaken .text .null (.text "")
  | noBytes {type : ColumnType} (bytes : ReadAsBytes type) : Mistaken type .null (.blob [])
  | emptyEncoding {type : ColumnType} (bytes : ReadAsBytes type) : Mistaken type .null (.text "")
  | encoding {type : ColumnType} (bytes : ReadAsBytes type) (s : String) :
      Mistaken type (.text s) (.blob s.toUTF8.toList)

/-- Two key cells that a scan takes for one another. -/
def Cell.Conflated (type : ColumnType) (a b : Cell) : Prop :=
  a.same b = true ∨ Mistaken type a b ∨ Mistaken type b a

theorem Cell.null_or_ofKeyValue {c : Cell} (notReal : c.storageClass ≠ .real) :
    c = .null ∨ ∃ value, c = .ofKeyValue value := by
  cases c with
  | null => exact .inl rfl
  | integer n => exact .inr ⟨.integer n, rfl⟩
  | real => exact absurd rfl notReal
  | text s => exact .inr ⟨.text s, rfl⟩
  | blob bytes => exact .inr ⟨.blob bytes, rfl⟩

/-- Apart from numbers of two classes, cells are the same only if they are equal. -/
theorem Cell.same_iff_eq {a b : Cell} (notReal : a.storageClass ≠ .real)
    (notReal' : b.storageClass ≠ .real) : a.same b = true ↔ a = b := by
  rcases null_or_ofKeyValue notReal with rfl | ⟨x, rfl⟩ <;>
    rcases null_or_ofKeyValue notReal' with rfl | ⟨y, rfl⟩
  · exact iff_of_true rfl rfl
  · cases y <;> exact iff_of_false Bool.false_ne_true Cell.noConfusion
  · cases x <;> exact iff_of_false Bool.false_ne_true Cell.noConfusion
  · rw [same, compare_ofKeyValue, beq_iff_eq, Cell.ofKeyValue_injective.eq_iff]
    exact Std.LawfulEqOrd.compare_eq_iff_eq

theorem Cell.not_mistaken {type : ColumnType} {x y : KeyValue} (typed : KeyValue.HasType type x)
    (typed' : KeyValue.HasType type y) : ¬ Mistaken type (ofKeyValue x) (ofKeyValue y) := by
  cases type <;> cases x <;> cases y <;> cases typed <;> cases typed' <;>
    grind [Cell.mistaken_iff, Cell.ofKeyValue]

section Conflated

variable {type : ColumnType} {i j : Nat} {a b : Cell}

theorem readInteger_inj {x y : Int64} (readA : readInteger i a = .ok x)
    (readB : readInteger j b = .ok y) : x = y ↔ Cell.Conflated .integer a b := by
  unfold Cell.Conflated
  cases a <;> cases b <;> cases readA <;> cases readB <;>
    grind [Cell.mistaken_iff, Cell.same_iff_eq, Cell.storageClass, ReadAsBytes]

theorem readText_inj {x y : String} (readA : readText i a = .ok x) (readB : readText j b = .ok y) :
    x = y ↔ Cell.Conflated .text a b := by
  unfold Cell.Conflated
  cases a <;> cases b <;> cases readA <;> cases readB <;>
    grind [Cell.mistaken_iff, Cell.same_iff_eq, Cell.storageClass, ReadAsBytes]

theorem readBytes_inj (bytes : ReadAsBytes type) {x y : List UInt8}
    (readA : readBytes i a = .ok x) (readB : readBytes j b = .ok y) :
    x = y ↔ Cell.Conflated type a b := by
  have noText : "".toUTF8.toList = [] := by decide +kernel
  unfold Cell.Conflated
  cases a <;> cases b <;> cases readA <;> cases readB <;>
    grind [Cell.mistaken_iff, Cell.same_iff_eq, Cell.storageClass, ReadAsBytes, Text.encoding_inj]

theorem readKeyValue_inj {x y : KeyValue} (readA : readKeyValue type i a = .ok x)
    (readB : readKeyValue type j b = .ok y) : x = y ↔ Cell.Conflated type a b := by
  cases type with
  | integer =>
      obtain ⟨m, first, rfl⟩ := map_eq_ok.1 readA
      obtain ⟨n, second, rfl⟩ := map_eq_ok.1 readB
      rw [KeyValue.integer.injEq, readInteger_inj first second]
  | text =>
      obtain ⟨s, first, rfl⟩ := map_eq_ok.1 readA
      obtain ⟨s', second, rfl⟩ := map_eq_ok.1 readB
      rw [KeyValue.text.injEq, readText_inj first second]
  | blob | real | numeric =>
      obtain ⟨bs, first, rfl⟩ := map_eq_ok.1 readA
      obtain ⟨bs', second, rfl⟩ := map_eq_ok.1 readB
      rw [KeyValue.blob.injEq]
      exact readBytes_inj ⟨by decide, by decide⟩ first second

theorem readKeyValues_ok {cells : List (ColumnType × Cell)} {values : List KeyValue}
    (read : readKeyValues i cells = .ok values) :
    List.Forall₂ (fun c value => ∃ j, readKeyValue c.1 j c.2 = .ok value) cells values := by
  induction cells generalizing i values with
  | nil =>
      cases read
      exact .nil
  | cons c cells ih =>
      obtain ⟨value, first, read⟩ := bind_eq_ok.1 read
      obtain ⟨values, others, read⟩ := bind_eq_ok.1 read
      cases read
      exact .cons ⟨i, first⟩ (ih others)

end Conflated

theorem readKeyValues_inj {columns : List (ColumnType × Source)} {a b : Record} {i j : Nat}
    {xs ys : List KeyValue}
    (readA : readKeyValues i (columns.map fun f => (f.1, f.2.cell a)) = .ok xs)
    (readB : readKeyValues j (columns.map fun f => (f.1, f.2.cell b)) = .ok ys) :
    xs = ys ↔ ∀ f ∈ columns, Cell.Conflated f.1 (f.2.cell a) (f.2.cell b) := by
  have valuesA := List.forall₂_map_left_iff.1 (readKeyValues_ok readA)
  have valuesB := List.forall₂_map_left_iff.1 (readKeyValues_ok readB)
  clear readA readB
  induction valuesA generalizing ys with
  | nil =>
      cases valuesB
      simp only [List.not_mem_nil, false_imp_iff, implies_true]
  | cons firstA _ ih =>
      cases valuesB with
      | cons firstB othersB =>
          obtain ⟨i, firstA⟩ := firstA
          obtain ⟨j, firstB⟩ := firstB
          rw [List.cons.injEq, List.forall_mem_cons]
          exact and_congr (readKeyValue_inj firstA firstB) (ih othersB)

namespace VersionColumns

variable {columns : VersionColumns} {a b r : Record} {key key' : Key} {v : Version}

/-- The key columns, each with the type as which it is read. -/
def keyColumns (c : VersionColumns) : List (ColumnType × Source) :=
  (.integer, c.leading) :: c.further

/-- Read the key of a version out of a record. -/
def readKey (c : VersionColumns) (r : Record) : Except DatabaseError Key := do
  let leading ← readInteger 1 (c.leading.cell r)
  let rest ← readKeyValues 2 (c.further.map fun f => (f.1, f.2.cell r))
  return { leading, rest }

theorem read_eq_readKey (c : VersionColumns) (r : Record) :
    c.read r = (do
      let key ← c.readKey r
      let height ← readInteger (c.further.length + 2) (c.height.cell r)
      let latest ← readTruth (c.further.length + 3) (c.latest.cell r)
      return { key, height, latest }) := by
  simp only [read, readKey, bind, Except.bind, pure, Except.pure]
  cases readInteger 1 (c.leading.cell r) with
  | error e => rfl
  | ok leading => cases readKeyValues 2 (c.further.map fun f => (f.1, f.2.cell r)) <;> rfl

theorem readKey_of_read (read : columns.read r = .ok v) : columns.readKey r = .ok v.key := by
  rw [read_eq_readKey] at read
  obtain ⟨key, first, read⟩ := bind_eq_ok.1 read
  obtain ⟨height, -, read⟩ := bind_eq_ok.1 read
  obtain ⟨latest, -, read⟩ := bind_eq_ok.1 read
  cases read
  exact first

theorem readKey_ok (read : columns.readKey r = .ok key) :
    readInteger 1 (columns.leading.cell r) = .ok key.leading ∧
      readKeyValues 2 (columns.further.map fun f => (f.1, f.2.cell r)) = .ok key.rest := by
  obtain ⟨leading, first, read⟩ := bind_eq_ok.1 read
  obtain ⟨rest, others, read⟩ := bind_eq_ok.1 read
  cases read
  exact ⟨first, others⟩

/-- Two rows are read as having one key just if every key column takes their cells for one another. -/
theorem readKey_inj (readA : columns.readKey a = .ok key) (readB : columns.readKey b = .ok key') :
    key = key' ↔ ∀ f ∈ columns.keyColumns, Cell.Conflated f.1 (f.2.cell a) (f.2.cell b) := by
  obtain ⟨leadingA, restA⟩ := readKey_ok readA
  obtain ⟨leadingB, restB⟩ := readKey_ok readB
  rw [keyColumns, List.forall_mem_cons, ← readInteger_inj leadingA leadingB,
    ← readKeyValues_inj restA restB]
  exact (Key.mk.injEq ..).to_iff

/-- Two rows have the same key in the database: the cells of every key column are the same. -/
def SameKey (c : VersionColumns) (a b : Record) : Prop :=
  ∀ f ∈ c.keyColumns, (f.2.cell a).same (f.2.cell b) = true

end VersionColumns

namespace Relation

variable {rel : Relation} {t : Table} {columns : VersionColumns} {rule : RetentionRule}
  {a b : Record} {key key' : Key}

/-- No key column of the table mistakes cells for one another. -/
def Told (rel : Relation) (columns : VersionColumns) : Prop :=
  ∀ a ∈ rel.records, ∀ b ∈ rel.records, ∀ f ∈ columns.keyColumns,
    ¬ Cell.Mistaken f.1 (f.2.cell a) (f.2.cell b)

theorem Told.readKey_inj (told : rel.Told columns) (ha : a ∈ rel.records) (hb : b ∈ rel.records)
    (readA : columns.readKey a = .ok key) (readB : columns.readKey b = .ok key') :
    key = key' ↔ columns.SameKey a b := by
  rw [VersionColumns.readKey_inj readA readB]
  refine forall₂_congr fun f hf => or_iff_left ?_
  exact not_or.2 ⟨told a ha b hb f hf, told b hb a ha f hf⟩

theorem told_of_typed (typed : ∀ r ∈ rel.records, ∀ f ∈ columns.keyColumns,
    ∃ value, ShowsKeyValue r f value) : rel.Told columns := by
  intro a ha b hb f hf
  obtain ⟨x, typeX, cellX⟩ := typed a ha f hf
  obtain ⟨y, typeY, cellY⟩ := typed b hb f hf
  rw [cellX, cellY]
  exact Cell.not_mistaken typeX typeY

theorem map_snd_keyColumns (found : rel.versionColumns? t = some columns) :
    columns.keyColumns.map Prod.snd = t.keyNames.map rel.quotedSource := by
  obtain ⟨leading, further, keys, rfl⟩ := versionColumns?_eq_some found
  simp only [VersionColumns.keyColumns, Table.keyNames, keys, List.map_cons, List.map_map,
    Function.comp_def]

theorem qualifiedAll_ok {qualifier : String} {names : List String} {sources : List Source}
    (found : rel.qualifiedAll qualifier names = .ok sources) :
    sources = names.map rel.quotedSource := by
  induction names generalizing sources with
  | nil =>
      cases found
      rfl
  | cons name names ih =>
      obtain ⟨source, first, found⟩ := bind_eq_ok.1 found
      obtain ⟨others, rest, found⟩ := bind_eq_ok.1 found
      cases found
      rw [ih rest, List.map_cons]
      unfold qualified at first
      split at first
      next here =>
        cases first
        rw [quotedSource, here, Option.getD_some]
      next => cases first

theorem keys_trimColumns {retained : Bool} {trimmed : TrimColumns}
    (trims : rel.trimColumns t retained = .ok trimmed) :
    trimmed.keys = t.keyNames.map rel.quotedSource := by
  obtain ⟨height, -, trims⟩ := bind_eq_ok.1 trims
  obtain ⟨latest, -, trims⟩ := bind_eq_ok.1 trims
  obtain ⟨-, -, trims⟩ := bind_eq_ok.1 trims
  obtain ⟨keys, found, trims⟩ := bind_eq_ok.1 trims
  obtain ⟨-, -, trims⟩ := bind_eq_ok.1 trims
  cases trims
  exact qualifiedAll_ok found

theorem sameKey_iff (found : rel.versionColumns? t = some columns) {view : TrimView}
    {retained : Bool} (trims : rel.trimColumns t retained = .ok view.columns)
    (uncaptured : view.captured = false) : view.sameKey a b = true ↔ columns.SameKey a b := by
  have sources : columns.keyColumns.map Prod.snd = view.columns.keys :=
    (map_snd_keyColumns found).trans (keys_trimColumns trims).symm
  rw [TrimView.sameKey, uncaptured, Bool.false_or, ← sources, List.all_map, List.all_eq_true]
  rfl

/-- A row with the same stored key speaks against a row: it says that the key was gone before the
    window, or it is another one within reach. -/
def Refutes (rel : Relation) (columns : VersionColumns) (rule : RetentionRule) (r : Record) : Prop :=
  ∃ q ∈ rel.records, columns.SameKey q r ∧ ∃ v, columns.read q = .ok v ∧
    (rule.outlives v = true ∨ q ≠ r ∧ rule.Reaches v)

theorem Refutes.of_keep {test : Record → Bool} {r : Record}
    (refutes : (rel.keep test).Refutes columns rule r) : rel.Refutes columns rule r := by
  obtain ⟨q, hq, against⟩ := refutes
  exact ⟨q, (List.mem_filter.1 hq).1, against⟩

theorem Told.keep (told : rel.Told columns) (test : Record → Bool) : (rel.keep test).Told columns :=
  fun a ha b hb => told a (List.mem_filter.1 ha).1 b (List.mem_filter.1 hb).1

end Relation

section Batch

variable {db : Database} {t : Table} {rel : Relation} {columns : VersionColumns}

theorem rule_batch (db : Database) (t : Table) (selector : RowSelector) (limit : Option Nat) :
    (VersionStore.deleteBatch db t selector limit).selector.rule = selector.rule := by
  change (db.batch t selector limit).selector.rule = selector.rule
  have selects (rel : Relation) (columns : VersionColumns) (handle : RowHandle) :
      (rel.select columns handle selector limit).selector.rule = selector.rule := by
    obtain ⟨upTo, selects⟩ := rel.select_selector columns handle selector limit
    rw [selects, RowSelector.rule_sweep]
  cases db.batch_ends t selector limit with
  | refused _ ends => rw [ends]
  | unread _ _ ends | readOnly _ _ _ _ ends | done _ _ _ ends =>
      rw [ends]
      exact selects ..

/-- A row that a batch removes has a row of its stored key that speaks against it. -/
theorem batch_refutes (found : db.find? t.name = some rel)
    (columnsFound : rel.versionColumns? t = some columns) (told : rel.Told columns)
    (unnamed : ∀ c ∈ rel.columns, Text.sameName "rowid" c.name = false)
    (numbered : rel.WellNumbered) (selector : RowSelector) (limit : Option Nat) :
    ∃ test : Record → Bool,
      (db.batch t selector.restartGroup limit).store.find? t.name = some (rel.keep test) ∧
      ∀ r ∈ rel.records, test r = false → rel.Refutes columns selector.rule r := by
  cases outcome : (db.batch t selector.restartGroup limit).outcome with
  | error e =>
      refine ⟨fun _ => true, ?_, fun r _ removed => by cases removed⟩
      rw [store_batch_error outcome, found, rel.keep_all]
  | ok deleted =>
      obtain ⟨columns', columnsFound', -, store⟩ :=
        exists_taken_of_batch found unnamed numbered outcome
      cases columnsFound.symm.trans columnsFound'
      refine ⟨_, store ▸ find?_replace_keep found _, fun r _ removed => ?_⟩
      obtain ⟨p, taken, rfl⟩ := List.mem_map.1 (not_not.1 (of_decide_eq_false removed))
      have backed : selector.restartGroup.Backed Prod.snd ([] : List (Record × Version)) :=
        selector.backed_restartGroup
      have apart := List.pairwise_map.1 (nodup_readRows rel columns selector.restartGroup.marker)
      obtain ⟨q, met, key, against⟩ := backed.doomed apart taken
      obtain ⟨stored, read⟩ := mem_of_mem_readRows met
      obtain ⟨stored', read'⟩ := mem_of_mem_readRows ((RowSelector.doomed_sublist ..).subset taken)
      have same := (told.readKey_inj stored stored' (VersionColumns.readKey_of_read read)
        (VersionColumns.readKey_of_read read')).1 key
      refine ⟨q.1, stored, same, q.2, read, ?_⟩
      exact against.imp (·.1) fun other => ⟨other.2, other.1⟩

open VersionStore in
theorem runBatches_refutes {size : Option BatchSize} {selector : RowSelector}
    (found : db.find? t.name = some rel) (columnsFound : rel.versionColumns? t = some columns)
    (told : rel.Told columns) (unnamed : ∀ c ∈ rel.columns, Text.sameName "rowid" c.name = false)
    (numbered : rel.WellNumbered) :
    ∃ test : Record → Bool,
      (runBatches t size db selector).store.find? t.name = some (rel.keep test) ∧
      ∀ r ∈ rel.records, test r = false → rel.Refutes columns selector.rule r := by
  induction db, selector using runBatches_induct (σ := Database) t size generalizing rel with
  | failed db selector e refused run | last db selector deleted done few run =>
      rw [run]
      exact batch_refutes found columnsFound told unnamed numbered ..
  | full db selector n deleted sized done enough run ih =>
      obtain ⟨test, left, first⟩ :=
        batch_refutes found columnsFound told unnamed numbered selector (some n.rows)
      obtain ⟨test', left', later⟩ :=
        ih left columnsFound (told.keep test) unnamed (numbered.keep test)
      rw [rule_batch] at later
      refine ⟨fun r => test' r && test r, by rw [run, ← Relation.keep_keep]; exact left', ?_⟩
      intro r hr removed
      rcases (Bool.and_eq_false_iff ..).1 removed with second | firstly
      · by_cases kept : test r = true
        · exact (later r (List.mem_filter.2 ⟨hr, kept⟩) second).of_keep
        · exact first r hr (Bool.not_eq_true _ ▸ kept)
      · exact first r hr firstly

open VersionStore in
/-- Two rows are read as having one key just if every key column shows cells that are the same, or that
    it mistakes for one another; the statement of an unordered trim asks whether they are the same. In a
    table where no cells are mistaken these keys are the stored ones, and a run in order removes a row
    only where a row of its stored key speaks against it. -/
theorem keys_told_apart (found : db.find? t.name = some rel)
    (columnsFound : rel.versionColumns? t = some columns) :
    (∀ (a b : Record) (key key' : Key), columns.readKey a = .ok key → columns.readKey b = .ok key' →
      (key = key' ↔ ∀ f ∈ columns.keyColumns, Cell.Conflated f.1 (f.2.cell a) (f.2.cell b))) ∧
    (∀ (view : TrimView) (retained : Bool), rel.trimColumns t retained = .ok view.columns →
      view.captured = false → ∀ a b, view.sameKey a b = true ↔ columns.SameKey a b) ∧
    (rel.Told columns →
      (∀ a ∈ rel.records, ∀ b ∈ rel.records, ∀ key key' : Key,
        columns.readKey a = .ok key → columns.readKey b = .ok key' →
          (key = key' ↔ columns.SameKey a b)) ∧
      ((∀ c ∈ rel.columns, Text.sameName "rowid" c.name = false) → rel.WellNumbered →
        ∀ (size : Option BatchSize) (rule : RetentionRule), ∃ test : Record → Bool,
          (trimOrdered db t size rule).store.find? t.name = some (rel.keep test) ∧
          ∀ r ∈ rel.records, test r = false → rel.Refutes columns rule r)) := by
  refine ⟨fun a b key key' => VersionColumns.readKey_inj, fun view retained trims uncaptured a b =>
    Relation.sameKey_iff columnsFound trims uncaptured, fun told => ⟨?_, ?_⟩⟩
  · exact fun a ha b hb key key' => told.readKey_inj ha hb
  · exact fun unnamed numbered size rule =>
      runBatches_refutes found columnsFound told unnamed numbered

end Batch

section Tags

/-- Tags of accounts, whose labels are bytes. -/
def tags : Table := { name := "tag", keys := [⟨"account", .integer⟩, ⟨"label", .blob⟩] }

def tagColumns : VersionColumns where
  leading := .column 0 .integer
  further := [(.blob, .column 1 .blob)]
  height := .column 2 .integer
  latest := .column 3 .numeric

theorem versionColumns?_tags {db : Database} {rel : Relation} (layout : db.LaidOut tags rel) :
    rel.versionColumns? tags = some tagColumns := by
  have leading : rel.quotedSource "account" = .column 0 .integer :=
    layout.key_source (i := 0) (k := ⟨"account", .integer⟩) rfl
  have label : rel.quotedSource "label" = .column 1 .blob :=
    layout.key_source (i := 1) (k := ⟨"label", .blob⟩) rfl
  simp only [Relation.versionColumns?, show tags.keys = [⟨"account", .integer⟩, ⟨"label", .blob⟩]
    from rfl, List.map_cons, List.map_nil, leading, label, layout.height_source,
    layout.latest_source]
  rfl

/-- A tag of an account, an older version of it, and another one. -/
def newTag : Record := ⟨1, [.integer 1, .blob [97], .integer 5, .integer 1, .null]⟩

def oldTag : Record := ⟨2, [.integer 1, .blob [97], .integer 3, .integer 0, .null]⟩

def otherTag : Record := ⟨3, [.integer 1, .blob [98], .integer 2, .integer 1, .null]⟩

def tagRelation : Relation := .filled tags [newTag, oldTag, otherTag] (by decide)

def tagDatabase : Database where
  relations := [tagRelation]

theorem keys_told_apart_tags :
    tagDatabase.find? tags.name = some tagRelation ∧
      tagRelation.versionColumns? tags = some tagColumns ∧ tagRelation.Told tagColumns ∧
      (∀ c ∈ tagRelation.columns, Text.sameName "rowid" c.name = false) ∧
      tagRelation.WellNumbered ∧
      tagColumns.SameKey newTag oldTag ∧ ¬ tagColumns.SameKey newTag otherTag ∧
      ∃ test : Record → Bool,
        (VersionStore.trimOrdered tagDatabase tags none ⟨6, some (-1)⟩).store.find? tags.name =
          some (tagRelation.keep test) ∧
        ∀ r ∈ tagRelation.records, test r = false →
          tagRelation.Refutes tagColumns ⟨6, some (-1)⟩ r := by
  have created : tagDatabase.HasCreated tags tagRelation :=
    hasCreated_filled (by decide +kernel) (by decide +kernel) _ _
  have found := created.laidOut.found
  have columnsFound := versionColumns?_tags created.laidOut
  have told : tagRelation.Told tagColumns := by
    refine Relation.told_of_typed fun r hr => List.forall_mem_cons.2 ⟨?_, ?_⟩
    all_goals simp only [tagRelation, Relation.filled, List.mem_cons, List.not_mem_nil,
      or_false] at hr
    · rcases hr with rfl | rfl | rfl
      all_goals exact ⟨.integer 1, trivial, rfl⟩
    · refine List.forall_mem_singleton.2 ?_
      rcases hr with rfl | rfl | rfl
      all_goals exact ⟨.blob _, trivial, rfl⟩
  have unnamed : ∀ c ∈ tagRelation.columns, Text.sameName "rowid" c.name = false := by
    decide +kernel
  have numbered : tagRelation.WellNumbered := Relation.wellNumbered_of_hidden rfl
  obtain ⟨keys, removes⟩ := (keys_told_apart found columnsFound).2.2 told
  have one := (keys newTag (by decide) oldTag (by decide) ⟨1, [.blob [97]]⟩ ⟨1, [.blob [97]]⟩
    (by decide) (by decide)).1 rfl
  have two := (keys newTag (by decide) otherTag (by decide) ⟨1, [.blob [97]]⟩ ⟨1, [.blob [98]]⟩
    (by decide) (by decide)).not.1 (by decide)
  exact ⟨found, columnsFound, told, unnamed, numbered, one, two,
    removes unnamed numbered none ⟨6, some (-1)⟩⟩

/-- A tag of an account with a text for a label, and one with the bytes of this text. -/
def textTag : Record := ⟨1, [.integer 1, .text "a", .integer 5, .integer 1, .null]⟩

def bytesTag : Record := ⟨2, [.integer 1, .blob [97], .integer 3, .integer 1, .null]⟩

def mixedTags : Relation := .filled tags [textTag, bytesTag] (by decide)

def mixedTagDatabase : Database where
  relations := [mixedTags]

theorem read_textTag : tagColumns.read textTag = .ok ⟨⟨1, [.blob [97]]⟩, 5, true⟩ := by
  decide +kernel

theorem read_bytesTag : tagColumns.read bytesTag = .ok ⟨⟨1, [.blob [97]]⟩, 3, true⟩ := by
  decide +kernel

theorem scan_mixedTags : mixedTags.scan tagColumns Int64.minValue = [textTag, bytesTag] :=
  Relation.scan_inOrder (by decide) (by decide +kernel) (by decide)

theorem batch_mixedTags (columnsFound : mixedTags.versionColumns? tags = some tagColumns)
    (valid : tags.validate = .ok ()) : ∃ selector : RowSelector,
      mixedTagDatabase.batch tags (.start ⟨6, some (-1)⟩) none =
        ⟨.ok 1, selector, mixedTagDatabase.replace tags.name
          (mixedTags.keep fun r => decide (r ∉ [bytesTag]))⟩ := by
  have found : mixedTagDatabase.find? tags.name = some mixedTags :=
    List.find?_cons_of_pos (Text.sameName_self _)
  have handled : mixedTags.rowHandle? = .ok .number := by decide +kernel
  let tests : List (Record → Bool) := [fun r => r.rowid == 2]
  obtain ⟨selector, selects⟩ : ∃ selector : RowSelector,
      mixedTags.select tagColumns .number (.start ⟨6, some (-1)⟩) none =
        ⟨.ok tests, selector⟩ := by
    unfold Relation.select
    rw [show (RowSelector.start ⟨6, some (-1)⟩).marker = Int64.minValue from rfl, scan_mixedTags]
    simp only [readable, read_textTag, read_bytesTag]
    exact ⟨_, rfl⟩
  have tested : RowHandle.number.tests [bytesTag] = .ok tests := rfl
  have numbered : mixedTags.WellNumbered := Relation.wellNumbered_of_hidden rfl
  have deleted := deleteRows_selected numbered (.inl rfl) (by decide) (List.nodup_singleton _) tested
  have batch := (batch_of_select found rfl valid rfl rfl handled columnsFound
    (.start ⟨6, some (-1)⟩) none).1 _ _ selects
  rw [deleted] at batch
  exact ⟨selector, batch⟩

/-- The two tags are read as having one key, and the latest row of the one is deleted because of the
    other; an unordered trim deletes neither. -/
theorem tags_taken_for_one :
    tags.validate = .ok () ∧ mixedTagDatabase.HasCreated tags mixedTags ∧
      mixedTags.versionColumns? tags = some tagColumns ∧
      tagColumns.readKey textTag = .ok ⟨1, [.blob [97]]⟩ ∧
      tagColumns.readKey bytesTag = .ok ⟨1, [.blob [97]]⟩ ∧
      ¬ tagColumns.SameKey textTag bytesTag ∧
      (mixedTagDatabase.batch tags (.start ⟨6, some (-1)⟩) none).outcome = .ok 1 ∧
      ((mixedTagDatabase.batch tags (.start ⟨6, some (-1)⟩) none).store.find? tags.name).map
        Relation.records = some [textTag] ∧
      (mixedTagDatabase.trimUnordered tags ⟨6, some (-1)⟩).1 = .ok 0 := by
  have valid : tags.validate = .ok () := by decide +kernel
  have created : mixedTagDatabase.HasCreated tags mixedTags :=
    hasCreated_filled (by decide +kernel) (by decide +kernel) _ _
  have columnsFound := versionColumns?_tags created.laidOut
  have differ : ¬ tagColumns.SameKey textTag bytesTag := fun same =>
    absurd (same (.blob, .column 1 .blob) (.tail _ (.head _))) (by decide)
  obtain ⟨selector, batch⟩ := batch_mixedTags columnsFound valid
  have left := find?_replace_keep created.laidOut.found fun r => decide (r ∉ [bytesTag])
  rw [batch]
  refine ⟨valid, created, columnsFound, VersionColumns.readKey_of_read read_textTag,
    VersionColumns.readKey_of_read read_bytesTag, differ, rfl, ?_, by decide +kernel⟩
  rw [left]
  rfl

end Tags

end Database

end HistoryTrim
