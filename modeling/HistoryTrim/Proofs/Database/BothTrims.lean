import HistoryTrim.Proofs.Database.Mirror
import HistoryTrim.Proofs.Database.UnorderedTrim
import HistoryTrim.Proofs.Interruption

/-! # Both trims of a created table

All that a run of batches does to a database is to keep some rows of the table. Which ones is known
from the run of a table in memory that holds the same versions: those that the rule does not drop. So
an ordered trim leaves the database that one without an order leaves, where that is not refused.
-/

namespace HistoryTrim.Database

/-! ## Runs keep rows of the table -/

theorem replace_self {db : Database} {name : String} {rel : Relation}
    (found : db.find? name = some rel) : db.replace name rel = db := by
  have general : ∀ rs : List Relation, rs.find? (fun r => Text.sameName name r.name) = some rel →
      replaceIn name rel rs = rs := by
    intro rs found
    induction rs with
    | nil => rfl
    | cons r rs ih =>
        cases here : Text.sameName name r.name with
        | true =>
            rw [List.find?_cons, here] at found
            cases found
            rw [replaceIn, if_pos here]
        | false =>
            rw [List.find?_cons, here] at found
            rw [replaceIn, here, if_neg Bool.false_ne_true, ih found]
  exact congrArg (fun relations => { db with relations }) (general db.relations found)

theorem replace_replace {db : Database} {name : String} {a b : Relation}
    (same : Text.sameName name a.name = true) :
    (db.replace name a).replace name b = db.replace name b := by
  have general : ∀ rs : List Relation,
      replaceIn name b (replaceIn name a rs) = replaceIn name b rs := by
    intro rs
    induction rs with
    | nil => rfl
    | cons r rs ih => by_cases here : Text.sameName name r.name <;> simp [replaceIn, here, same, ih]
  exact congrArg (fun relations => { db with relations }) (general db.relations)

theorem exists_batch_keep {db : Database} {t : Table} {rel : Relation}
    (found : db.find? t.name = some rel) (selector : RowSelector) (limit : Option Nat) :
    ∃ test, (db.batch t selector limit).store = db.replace t.name (rel.keep test) := by
  have untouched : db = db.replace t.name (rel.keep fun _ => true) := by
    rw [Relation.keep_all, replace_self found]
  cases db.batch_ends t selector limit with
  | refused _ ends | unread _ _ ends | readOnly _ _ _ _ ends =>
      rw [ends]
      exact ⟨_, untouched⟩
  | done scans _ _ ends =>
      cases found.symm.trans scans.found
      rw [ends, deleteRows_eq_keep]
      exact ⟨_, rfl⟩

theorem find?_replace_keep {db : Database} {rel : Relation} {name : String}
    (found : db.find? name = some rel) (test : Record → Bool) :
    (db.replace name (rel.keep test)).find? name = some (rel.keep test) := by
  have named : Text.sameName name rel.name = true := sameName_of_find? found
  have replaced := @find?_replace name (rel.keep test) named db
  rw [replaced, found, Option.map_some]

open VersionStore in
theorem exists_runBatches_keep {db : Database} {t : Table} {rel : Relation}
    {size : Option BatchSize} {selector : RowSelector} (found : db.find? t.name = some rel) :
    ∃ test, (runBatches t size db selector).store = db.replace t.name (rel.keep test) := by
  induction db, selector using runBatches_induct (σ := Database) t size generalizing rel with
  | failed db selector e refused run | last db selector deleted done few run =>
      rw [run]
      exact exists_batch_keep found ..
  | full db selector n deleted sized done enough run ih =>
      obtain ⟨first, kept⟩ := exists_batch_keep found selector.restartGroup (some n.rows)
      have same : Text.sameName t.name (rel.keep first).name = true := by
        rw [Relation.name_keep]
        exact sameName_of_find? found
      have next : (VersionStore.deleteBatch db t selector.restartGroup (some n.rows)).store.find?
          t.name = some (rel.keep first) := kept ▸ find?_replace_keep found first
      obtain ⟨second, rest⟩ := ih next
      refine ⟨fun r => second r && first r, ?_⟩
      rw [← Relation.keep_keep, ← replace_replace same, ← kept, run]
      exact rest

/-! ## An ordered trim keeps what the rule does not drop -/

theorem Cell.ofKeyValue_injective : Function.Injective Cell.ofKeyValue := by
  intro a b same
  cases a <;> cases b <;> cases same <;> rfl

theorem Cell.ofBool_injective : Function.Injective Cell.ofBool := by
  decide

theorem Record.Stores.unique {r : Record} {t : Table} {v w : Version} (first : r.Stores t v)
    (second : r.Stores t w) : v = w := by
  obtain ⟨⟨payload, cells⟩, -⟩ := first
  obtain ⟨⟨payload', cells'⟩, -⟩ := second
  obtain ⟨keys, rest⟩ := List.append_inj' (cells.symm.trans cells') rfl
  obtain ⟨⟨n, values⟩, height, latest⟩ := v
  obtain ⟨⟨n', values'⟩, height', latest'⟩ := w
  simp only [List.cons.injEq, Cell.integer.injEq, and_true] at keys rest
  obtain ⟨rfl, values⟩ := keys
  obtain ⟨rfl, flag, -⟩ := rest
  cases List.map_injective_iff.2 Cell.ofKeyValue_injective values
  cases Cell.ofBool_injective flag
  rfl

section Ordered

open VersionStore

variable {db : Database} {t : Table} {rel : Relation} {leading : KeyColumn}
  {further : List KeyColumn} {content : Record → RowContent} {rule : RetentionRule}

theorem eq_of_entry {a b : Record} (consistent : RowContent.Consistent (rel.records.map content))
    (ha : a ∈ rel.records) (hb : b ∈ rel.records) (same : content a = content b) : a = b := by
  have symmetric : Std.Symm fun x y : Record =>
      ¬((content x).key = (content y).key ∧ (content x).height = (content y).height) :=
    ⟨fun x y apart same => apart ⟨same.1.symm, same.2.symm⟩⟩
  by_contra differ
  exact (List.pairwise_map.1 consistent.distinct).forall ha hb differ
    ⟨congrArg _ same, congrArg _ same⟩

/-- Rows of the table that store what a trim of their versions leaves are those that the rule does
    not drop. -/
theorem keep_eq_of_perm {h : History} (fits : h.Matches (rel.records.map content))
    (consistent : RowContent.Consistent (rel.records.map content)) {test : Record → Bool}
    (left : ((rel.keep test).records.map fun r => (content r).version).Perm (h.trimmed rule).rows) :
    rel.keep test = rel.keep fun r => !rule.Drops (rel.records.map content) (content r) := by
  refine Relation.keep_congr fun r hr => ?_
  have he : content r ∈ rel.records.map content := List.mem_map_of_mem hr
  have isLeft : test r = true ↔ (content r).version ∈ h.trimmed rule := by
    rw [History.mem_def, ← left.mem_iff, List.mem_map]
    constructor
    · intro passes
      exact ⟨r, List.mem_filter.2 ⟨hr, passes⟩, rfl⟩
    · rintro ⟨other, kept, same⟩
      obtain ⟨ho, passes⟩ := List.mem_filter.1 kept
      have key := (fits.key_iff (List.mem_map_of_mem ho) he).1 (congrArg Version.key same)
      have height := congrArg Version.height same
      rw [RowContent.height_version, RowContent.height_version] at height
      have contents := consistent.eq_of_same_place (List.mem_map_of_mem ho) he key height
      rwa [eq_of_entry consistent ho hr contents] at passes
  rw [Bool.eq_iff_iff, isLeft, RetentionRule.mem_trimmed, and_iff_right (fits.mem_version he),
    fits.keeps_iff consistent he, Bool.not_eq_true', decide_eq_false_iff_not]

theorem exists_twin (layout : db.LaidOut t rel) (keys : t.keys = leading :: further)
    (integer : leading.type = .integer) (holds : ∀ r ∈ rel.records, r.Holds t (content r))
    (consistent : RowContent.Consistent (rel.records.map content)) :
    ∃ (s : MemoryStore) (h : History), s.history? t.name = some h ∧ Twins t db s ∧
      h.LatestIsNewest ∧ h.Matches (rel.records.map content) := by
  have hasLeading : ∀ e ∈ rel.records.map content, e.HasLeading := by
    intro e he
    obtain ⟨r, hr, rfl⟩ := List.mem_map.1 he
    exact (holds r hr).hasLeading keys integer
  obtain ⟨h, fits, newestOnly⟩ := History.exists_matches hasLeading consistent
  let s := ({} : MemoryStore).withHistory t.name ⟨MemoryStore.columnTypes t, [], ∅⟩ h
  have stored : s.history? t.name = some h := by
    rw [MemoryStore.history?_withHistory, if_pos rfl]
  have untroubled : s.Untroubled := fun n arranged => by cases arranged
  have perm := fits.perm
  rw [List.map_map] at perm
  have mirrors : rel.Mirrors t h :=
    ⟨_, fun r hr => (holds r hr).stores keys integer, perm⟩
  exact ⟨s, h, stored, ⟨untroubled, rel, h, layout, stored, mirrors⟩, newestOnly, fits⟩

theorem trimOrdered_eq_keep (layout : db.LaidOut t rel) (valid : t.validate = .ok ())
    (keys : t.keys = leading :: further) (integer : leading.type = .integer)
    (free : ∀ name ∈ t.columnNames, Text.sameName "rowid" name = false)
    (holds : ∀ r ∈ rel.records, r.Holds t (content r))
    (consistent : RowContent.Consistent (rel.records.map content)) (size : Option BatchSize) :
    (trimOrdered db t size rule).failure = none ∧
      (trimOrdered db t size rule).rowsDeleted =
        rel.records.countP (fun r => rule.Drops (rel.records.map content) (content r)) ∧
      (trimOrdered db t size rule).store =
        db.replace t.name (rel.keep fun r => !rule.Drops (rel.records.map content) (content r)) := by
  obtain ⟨s, h, stored, twins, newestOnly, fits⟩ :=
    exists_twin layout keys integer holds consistent
  obtain ⟨succeeded, succeeded', batches, still⟩ :=
    (twins_agree valid keys integer free).runBatches size db s (.start rule) twins
  obtain ⟨rest, h', layout', stored', version, stores', perm'⟩ := still.mirrored
  have trimmed := MemoryStore.runBatches_eq_trimmed newestOnly stored
    (.first (.refl rule h)) succeeded'
  obtain rfl : h.trimmed rule = h' := Option.some.inj (trimmed.symm.trans stored')
  obtain ⟨test, kept⟩ : ∃ test, (trimOrdered db t size rule).store =
      db.replace t.name (rel.keep test) := exists_runBatches_keep layout.found
  have found : (trimOrdered db t size rule).store.find? t.name = some (rel.keep test) := by
    rw [kept, find?_replace_keep layout.found]
  obtain rfl : rel.keep test = rest := Option.some.inj (found.symm.trans layout'.found)
  have left : ((rel.keep test).records.map fun r => (content r).version).Perm
      (h.trimmed rule).rows := by
    have same : (rel.keep test).records.map (fun r => (content r).version) =
        (rel.keep test).records.map version :=
      List.map_congr_left fun r hr =>
        ((holds r (List.mem_of_mem_filter hr)).stores keys integer).unique (stores' r hr)
    rwa [same]
  have rest := keep_eq_of_perm fits consistent left
  refine ⟨succeeded, ?_, rest ▸ kept⟩
  have deleted : (trimOrdered db t size rule).rowsDeleted =
      (trimOrdered s t size rule).rowsDeleted :=
    congrArg (fun records : List BatchRecord => total (records.map BatchRecord.deleted)) batches
  obtain ⟨last, storedLast, parts⟩ : ∃ last, (trimOrdered s t size rule).store.history? t.name =
      some last ∧ last.size + (trimOrdered s t size rule).rowsDeleted = h.size :=
    MemoryStore.runBatches_size stored
  obtain rfl : h.trimmed rule = last := Option.some.inj (trimmed.symm.trans storedLast)
  have before := fits.perm.length_eq
  have after := left.length_eq
  rw [List.length_map, List.length_map] at before
  rw [List.length_map] at after
  rw [← rel.length_keep_not, ← rest, deleted, before, after]
  exact Nat.eq_sub_of_add_eq' parts

end Ordered

open VersionStore in
/-- Of a created table in which only the newest row of a key is latest, a trim without an order
    deletes just the rows that the rule drops, and counts them, unless the table has too many key
    columns; then it is refused. Where the leading key is an integer, an ordered trim succeeds in
    batches of any size, counts the same and leaves the same database. -/
theorem trims_eq_keep {db : Database} {t : Table} {rel : Relation} {content : Record → RowContent}
    (rule : RetentionRule) (valid : t.validate = .ok ())
    (unlike : Text.sameName t.name otherRowsName = false)
    (free : ∀ name ∈ t.columnNames, Text.sameName "rowid" name = false)
    (made : db.HasTable t rel) (holds : ∀ r ∈ rel.records, r.Holds t (content r))
    (consistent : RowContent.Consistent (rel.records.map content)) :
    let dropped (r : Record) : Bool := rule.Drops (rel.records.map content) (content r)
    let rest := db.replace t.name (rel.keep fun r => !dropped r)
    (t.keys.length ≤ mostKeys rule.retained.isSome →
        db.trimUnordered t rule = (.ok (rel.records.countP dropped), rest)) ∧
      (mostKeys rule.retained.isSome < t.keys.length →
        db.trimUnordered t rule = (.error (.database (.engine .expressionTooDeep)), db)) ∧
      ∀ leading further, t.keys = leading :: further → leading.type = .integer →
        ∀ size : Option Nat,
          let run := trimOrdered db t (BatchSize.ofOption? size) rule
          run.failure = none ∧ run.rowsDeleted = rel.records.countP dropped ∧ run.store = rest := by
  intro dropped rest
  have layout := made.laidOut
  refine ⟨fun few => ?_, fun many => ?_, fun leading further keys integer size => ?_⟩
  · exact layout.trimUnordered_eq valid unlike few holds consistent
  · exact layout.trimUnordered_refused valid many
  · exact trimOrdered_eq_keep layout valid keys integer free holds consistent _

def holdingContent (r : Record) : RowContent :=
  match r.rowid with
  | 1 => ⟨[.integer 1, .text "eur"], 2, false⟩
  | 2 => ⟨[.integer 1, .text "usd"], 3, false⟩
  | 3 => ⟨[.integer 1, .text "eur"], 4, false⟩
  | _ => ⟨[.integer 1, .text "eur"], 7, true⟩

def holdingRelation : Relation := .filled holdings holdingRecords (by decide)

def holdingDatabase : Database where
  relations := [holdingRelation]

open VersionStore in
theorem trims_eq_keep_holdings :
    holdings.validate = .ok () ∧ Text.sameName holdings.name otherRowsName = false ∧
      (∀ name ∈ holdings.columnNames, Text.sameName "rowid" name = false) ∧
      holdingDatabase.HasTable holdings holdingRelation ∧
      (∀ r ∈ holdingRelation.records, r.Holds holdings (holdingContent r)) ∧
      RowContent.Consistent (holdingRelation.records.map holdingContent) ∧
      (holdingDatabase.trimUnordered holdings ⟨6, some (-1)⟩).1 = .ok 2 ∧
      (trimOrdered holdingDatabase holdings (BatchSize.ofOption? (some 1)) ⟨6, some (-1)⟩).rowsDeleted =
        2 ∧
      (trimOrdered holdingDatabase holdings (BatchSize.ofOption? (some 1)) ⟨6, some (-1)⟩).store =
        (holdingDatabase.trimUnordered holdings ⟨6, some (-1)⟩).2 := by
  have valid : holdings.validate = .ok () := by decide +kernel
  have unlike : Text.sameName holdings.name otherRowsName = false := by decide +kernel
  have free : ∀ name ∈ holdings.columnNames, Text.sameName "rowid" name = false := by
    decide +kernel
  have made : holdingDatabase.HasTable holdings holdingRelation :=
    hasTable_filled (by decide +kernel) (by decide +kernel) (by decide +kernel) holdingRecords _
  have holds : ∀ r ∈ holdingRelation.records, r.Holds holdings (holdingContent r) := by
    intro r hr
    simp only [holdingRelation, Relation.filled, holdingRecords, List.mem_cons, List.not_mem_nil,
      or_false] at hr
    rcases hr with rfl | rfl | rfl | rfl
    all_goals exact ⟨⟨_, rfl⟩, .cons trivial (.cons trivial .nil)⟩
  have consistent : RowContent.Consistent (holdingRelation.records.map holdingContent) :=
    ⟨by decide +kernel, by decide +kernel⟩
  have two : holdingRelation.records.countP (fun r => RetentionRule.Drops ⟨6, some (-1)⟩
      (holdingRelation.records.map holdingContent) (holdingContent r)) = 2 := by
    decide +kernel
  obtain ⟨unordered, -, ordered⟩ :=
    trims_eq_keep ⟨6, some (-1)⟩ valid unlike free made holds consistent
  have few : holdings.keys.length ≤ mostKeys true := by decide
  obtain ⟨-, counted, same⟩ := ordered _ _ rfl rfl (some 1)
  rw [two] at unordered counted
  rw [unordered few]
  exact ⟨valid, unlike, free, made, holds, consistent, rfl, counted, same⟩

/-! ## A table that is too wide -/

/-- The name of a column by its number below a thousand. -/
def columnChars (i : Nat) : List Char :=
  ['k', Nat.digitChar (i / 100), Nat.digitChar (i / 10 % 10), Nat.digitChar (i % 10)]

/-- A table with a thousand key columns. -/
def wide : Table where
  name := "wide"
  keys := (List.range 1000).map fun i => ⟨String.ofList (columnChars i), .integer⟩

/-- One row, which the rule drops: its entity was gone at 5. -/
def wideRecord : Record :=
  ⟨1, List.replicate 1000 (.integer 1) ++ [.integer 5, .integer 0, .null]⟩

def wideContent : RowContent := ⟨List.replicate 1000 (.integer 1), 5, false⟩

def wideRelation : Relation := .filled wide [wideRecord] (List.pairwise_singleton ..)

def wideDatabase : Database where
  relations := [wideRelation]

/-- A number that tells the columns of the wide table apart. -/
def charsCode : List Char → Nat
  | ['k', a, b, c] => ((a.toNat - 48) * 10 + (b.toNat - 48)) * 10 + (c.toNat - 48)
  | c :: _ => 1000 + c.toNat
  | [] => 2000

def nameCode (name : String) : Nat := charsCode (Text.lowerAscii name).toList

theorem nameCode_ofList (cs : List Char) :
    nameCode (String.ofList cs) = charsCode (cs.map Char.toLower) := by
  rw [nameCode, Text.lowerAscii, String.toList_map, String.toList_ofList]

theorem sameName_of_nameCode {a b : String} (differ : nameCode a ≠ nameCode b) :
    Text.sameName a b = false := by
  refine Bool.eq_false_iff.2 fun same => differ ?_
  rw [nameCode, nameCode, Text.sameName_iff.1 same]

theorem nameCode_column {i : Nat} (below : i < 1000) :
    nameCode (String.ofList (columnChars i)) = i := by
  have digit : ∀ d < 10, (Nat.digitChar d).toLower.toNat - 48 = d := by decide
  have code : charsCode ((columnChars i).map Char.toLower) =
      (((Nat.digitChar (i / 100)).toLower.toNat - 48) * 10 +
        ((Nat.digitChar (i / 10 % 10)).toLower.toNat - 48)) * 10 +
          ((Nat.digitChar (i % 10)).toLower.toNat - 48) := rfl
  rw [nameCode_ofList, code, digit _ (by omega), digit _ (by omega), digit _ (by omega)]
  omega

theorem isIdentifier_column {i : Nat} (below : i < 1000) :
    Text.isIdentifier (String.ofList (columnChars i)) = true := by
  have digit : ∀ d < 10, Text.isNameRest (Nat.digitChar d) = true := by decide
  have first : Text.isNameStart 'k' = true := by decide
  simp only [Text.isIdentifier, String.toList_ofList, columnChars, first, List.all_cons,
    List.all_nil, digit (i / 100) (by omega), digit (i / 10 % 10) (by omega),
    digit (i % 10) (by omega), Bool.and_self]

theorem wide_keyNames : wide.keyNames = (List.range 1000).map fun i =>
    String.ofList (columnChars i) := by
  rw [Table.keyNames, wide, List.map_map]
  rfl

theorem wide_codes : (wide.columnNames ++ [Table.payloadColumn]).map nameCode =
    List.range 1000 ++ [1104, 1108, 1112] := by
  have keys : wide.keyNames.map nameCode = List.range 1000 := by
    rw [wide_keyNames, List.map_map]
    exact (List.map_congr_left fun i hi => nameCode_column (List.mem_range.1 hi)).trans
      (List.map_id _)
  have others : [wide.heightColumn, wide.latestColumn, Table.payloadColumn].map nameCode =
      [1104, 1108, 1112] := by
    decide +kernel
  rw [Table.columnNames, List.append_assoc, List.map_append, keys]
  exact congrArg (List.range 1000 ++ ·) others

theorem nodup_wide_codes : ((wide.columnNames ++ [Table.payloadColumn]).map nameCode).Nodup := by
  rw [wide_codes]
  refine List.nodup_append.2 ⟨List.nodup_range, by decide, fun a ha b hb => ?_⟩
  have below := List.mem_range.1 ha
  simp only [List.mem_cons, List.not_mem_nil, or_false] at hb
  omega

theorem wide_distinct :
    wide.plan.columns.Pairwise fun a b => Text.sameName a.name b.name = false := by
  have names : wide.plan.columns.map Column.name = wide.columnNames ++ [Table.payloadColumn] := by
    simp [Table.plan, Table.columnNames, Table.keyNames, Function.comp_def]
  have codes := nodup_wide_codes
  rw [← names, List.map_map, List.Nodup, List.pairwise_map] at codes
  exact codes.imp sameName_of_nameCode

theorem wide_plain : ∀ name ∈ wide.name :: wide.columnNames, Text.isIdentifier name = true := by
  have others : ∀ name ∈ [wide.name, wide.heightColumn, wide.latestColumn],
      Text.isIdentifier name = true := by
    decide
  intro name hn
  simp only [Table.columnNames, wide_keyNames, List.mem_cons, List.mem_append, List.mem_map,
    List.mem_range, List.not_mem_nil, or_false] at hn others
  rcases hn with rfl | ⟨i, below, rfl⟩ | rfl | rfl
  · exact others _ (.inl rfl)
  · exact isIdentifier_column below
  · exact others _ (.inr (.inl rfl))
  · exact others _ (.inr (.inr rfl))

theorem wide_free : ∀ name ∈ wide.columnNames, Text.sameName "rowid" name = false := by
  have code : nameCode "rowid" = 1114 := by decide +kernel
  intro name hn
  refine sameName_of_nameCode fun same => ?_
  have known : nameCode name ∈ (wide.columnNames ++ [Table.payloadColumn]).map nameCode :=
    List.mem_map_of_mem (List.mem_append_left _ hn)
  rw [wide_codes, ← same, code] at known
  simp at known

/-- A created table with a thousand key columns has a row that the rule drops, yet a trim without an
    order is refused. -/
theorem trimUnordered_refuses_wide :
    wide.validate = .ok () ∧ Text.sameName wide.name otherRowsName = false ∧
      (∀ name ∈ wide.columnNames, Text.sameName "rowid" name = false) ∧
      wideDatabase.HasTable wide wideRelation ∧
      (∀ r ∈ wideRelation.records, r.Holds wide wideContent) ∧
      RowContent.Consistent (wideRelation.records.map fun _ => wideContent) ∧
      wideRelation.records.countP (fun _ => RetentionRule.Drops ⟨6, some (-1)⟩
        (wideRelation.records.map fun _ => wideContent) wideContent) = 1 ∧
      wideDatabase.trimUnordered wide ⟨6, some (-1)⟩ =
        (.error (.database (.engine .expressionTooDeep)), wideDatabase) := by
  have nodup : wide.columnNames.Nodup := by
    have codes := nodup_wide_codes
    rw [List.map_append] at codes
    exact List.Nodup.of_map nameCode (List.nodup_append.1 codes).1
  have valid : wide.validate = .ok () :=
    Table.validate_eq (by simp [wide]) wide_plain nodup
  have unlike : Text.sameName wide.name otherRowsName = false := by decide +kernel
  have made : wideDatabase.HasTable wide wideRelation :=
    hasTable_filled (by decide +kernel) (by simp [Table.plan, wide, columnLimit]) wide_distinct
      [wideRecord] _
  have width : wide.keys.length = wideContent.key.length := by
    rw [wide, wideContent, List.length_map, List.length_range, List.length_replicate]
  have holds : wideRecord.Holds wide wideContent := by
    refine ⟨⟨.null, ?_⟩, List.forall₂_iff_get.2 ⟨width, fun i _ _ => ?_⟩⟩
    · rw [wideContent, List.map_replicate]
      rfl
    · simp only [wide, wideContent, List.get_eq_getElem, List.getElem_map, List.getElem_replicate]
      trivial
  have consistent : RowContent.Consistent [wideContent] := by
    refine ⟨List.pairwise_singleton .., fun e he latest => ?_⟩
    rw [List.mem_singleton.1 he] at latest
    cases latest
  have drops : RetentionRule.Drops ⟨6, some (-1)⟩ [wideContent] wideContent := by
    have top : RowContent.IsTop [wideContent] wideContent.key wideContent :=
      ⟨List.mem_singleton_self _, rfl, fun w hw _ => by
        rw [List.mem_singleton.1 hw]
        exact Int64.le_refl _⟩
    exact ⟨by decide, by decide, .inl ⟨wideContent, top.1, top, rfl, by decide⟩⟩
  have many : mostKeys true < wide.keys.length := by
    rw [width, wideContent, List.length_replicate]
    decide
  refine ⟨valid, unlike, wide_free, made, fun r hr => ?_, consistent, ?_,
    made.laidOut.trimUnordered_refused valid many⟩
  · rw [List.mem_singleton.1 hr]
    exact holds
  · have one := List.countP_cons_of_pos (l := ([] : List Record)) (a := wideRecord)
      (p := fun _ => RetentionRule.Drops ⟨6, some (-1)⟩ [wideContent] wideContent)
      (decide_eq_true drops)
    rw [List.countP_nil] at one
    exact one

end HistoryTrim.Database
