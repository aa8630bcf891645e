import HistoryTrim.Proofs.Database.Layout
import HistoryTrim.Proofs.Dictionaries
import HistoryTrim.Proofs.OrderedTrim
import HistoryTrim.Trimmer
import Mathlib.Data.List.Pairwise

/-! # Created tables

A usable definition has no two columns of one name. In memory this is all that its table needs to be
trimmed in order. A database adds a column of its own, tells names apart by more than the case of their
letters and keeps some for itself; what it creates can be trimmed in order unless the name of the table
hides a function of the catalog.
-/

namespace HistoryTrim

theorem Index.fits_scanColumns (index : String) (position : Nat) (height : String)
    (names : List String) :
    fits index position height names (names.map IndexColumn.asc ++ [IndexColumn.desc height]) =
      .ok () := by
  induction names generalizing position with
  | nil => simp [fits, IndexColumn.desc]
  | cons n ns ih => simpa [fits, IndexColumn.asc] using ih (position + 1)

namespace Table

variable {t : Table} {leading : KeyColumn} {further : List KeyColumn}

theorem keyNames_cons (keys : t.keys = leading :: further) :
    t.keyNames = leading.name :: further.map KeyColumn.name := by
  rw [keyNames, keys, List.map_cons]

/-- How a table with a scan index can be trimmed: in order, if its leading column has integers. -/
def createdOrder (t : Table) (leading : KeyColumn) : ScanOrder :=
  if leading.type = .integer then .available t.scanIndexName
  else .unavailable (.leadingColumnNotInteger leading.name leading.type)

theorem scanOrder_eq_createdOrder {catalog : Catalog} (keys : t.keys = leading :: further)
    (type : catalog.columnType t.name leading.name = .ok (some leading.type))
    (indexes : leading.type = .integer →
      catalog.indexes t.name = .ok [t.scanIndexNamed t.scanIndexName]) :
    t.scanOrder catalog = t.createdOrder leading := by
  have names := keyNames_cons keys
  by_cases integer : leading.type = .integer
  · have starts : (t.scanIndexNamed t.scanIndexName).startsWith leading.name = true := by
      simp [Index.startsWith, scanIndexNamed, names, IndexColumn.asc]
    have tail : (t.scanIndexNamed t.scanIndexName).columns.tail =
        (further.map KeyColumn.name).map IndexColumn.asc ++ [IndexColumn.desc t.heightColumn] := by
      rw [scanIndexNamed, names]
      rfl
    have fits := Index.fits_scanColumns t.scanIndexName 1 t.heightColumn
      (further.map KeyColumn.name)
    rw [← tail] at fits
    have found : t.checkScanOrder catalog = .ok t.scanIndexName := by
      simp only [checkScanOrder, names, type, integer, ne_eq, not_true_eq_false, if_false,
        indexes integer, List.filter_cons, starts, if_true, List.filter_nil]
      rw [show (t.scanIndexNamed t.scanIndexName).name = t.scanIndexName from rfl, fits]
    rw [scanOrder, found, createdOrder, if_pos integer]
  · simp [scanOrder, checkScanOrder, names, type, integer, createdOrder]

end Table

theorem MemoryStore.scanOrder_createTable {t : Table} {leading : KeyColumn}
    {further : List KeyColumn} (valid : t.validate = .ok ()) (keys : t.keys = leading :: further)
    (s : MemoryStore) : t.scanOrder (s.createTable t).catalog = t.createdOrder leading := by
  let typed : List (String × ColumnType) :=
    t.keys.map (fun c => (c.name, c.type)) ++
      [(t.heightColumn, .integer), (t.latestColumn, .integer)]
  have distinct : (typed.map Prod.fst).Nodup := by
    have names : typed.map Prod.fst = t.columnNames := by
      simp [typed, Table.columnNames, Table.keyNames]
    rw [names]
    exact Table.nodup_of_validate valid
  have type : (columnTypes t).get? leading.name = some leading.type :=
    Dictionary.get?_ofPairs_of_mem distinct (by simp [typed, keys])
  refine Table.scanOrder_eq_createdOrder keys ?_ fun _ => ?_
  · simp [catalog, createTable, createTableWith, Dictionary.get?_put, type]
  · simp [catalog, createTable, createTableWith, Dictionary.get?_put]

namespace Database

theorem isReserved_iff (name : String) :
    isReserved name = true ↔ "sqlite_".toList <+: name.toList.map Char.toLower := by
  rw [isReserved, List.isPrefixOf_iff_prefix, Text.lowerAscii, String.toList_map]

/-- The name of a scan index is reserved for two reasons: the name of its table is, or that name goes on
    as a reserved one. -/
theorem isReserved_scanIndexName (t : Table) :
    isReserved t.scanIndexName = true ↔
      isReserved t.name = true ∨ Text.sameName t.name "sqlite" = true := by
  have suffix : "_trim_idx".toList.map Char.toLower = "_trim_idx".toList := by decide
  have name : Text.sameName t.name "sqlite" = true ↔
      t.name.toList.map Char.toLower = "sqlite".toList := by
    have lower : "sqlite".toList.map Char.toLower = "sqlite".toList := by decide
    rw [Text.sameName_eq_beq, lower, beq_iff_eq]
  rw [isReserved_iff, isReserved_iff, name, Table.scanIndexName, String.toList_append,
    List.map_append, suffix]
  constructor
  · rintro ⟨rest, whole⟩
    rcases List.append_eq_append_iff.1 whole with ⟨more, within, -⟩ | ⟨more, cut, shared⟩
    · exact .inl ⟨more, within.symm⟩
    · cases more with
      | nil => exact .inl ⟨[], by simpa using cut⟩
      | cons c more =>
          obtain rfl : c = '_' := by simpa using congrArg List.head? shared.symm
          have start : "sqlite_".toList = "sqlite".toList ++ '_' :: [] := by decide
          rw [start] at cut
          exact .inr ((List.append_cons_inj_of_notMem (by decide) (by decide)).1 cut).1.symm
  · rintro (⟨rest, whole⟩ | whole)
    · exact ⟨rest ++ "_trim_idx".toList, by rw [← whole, List.append_assoc]⟩
    · rw [whole]
      exact ⟨"trim_idx".toList, by decide⟩

/-- What the database wants of a definition before it creates its table and index: not too many columns,
    names that it does not keep for itself, and columns that are called differently from each other
    and from the payload, whatever the case of letters. -/
structure Creatable (t : Table) : Prop where
  few : t.keys.length + 3 ≤ columnLimit
  plain : isReserved t.name = false
  unlike : Text.sameName t.name "sqlite" = false
  distinct : (t.columnNames ++ [Table.payloadColumn]).Pairwise fun a b => Text.sameName a b = false

theorem names_plan (t : Table) :
    t.plan.columns.map Column.name = t.columnNames ++ [Table.payloadColumn] := by
  simp [Table.plan, Table.columnNames, Table.keyNames]

theorem shown_termFor {rel : Relation}
    (distinct : rel.columns.Pairwise fun a b => Text.sameName a.name b.name = false)
    {name : String} (known : name ∈ rel.columns.map Column.name) (descending : Bool) :
    ∃ term, TablePlan.termFor rel.columns (.column name descending) = .ok term ∧
      term.shown rel = ⟨name, descending⟩ := by
  obtain ⟨c, hc, rfl⟩ := List.mem_map.1 known
  obtain ⟨i, position⟩ : ∃ i, TablePlan.positionOf? rel.columns c.name = some i := by
    refine Option.isSome_iff_exists.1 (List.findIdx?_isSome.trans ?_)
    exact List.any_eq_true.2 ⟨c, hc, Text.sameName_self _⟩
  obtain ⟨bound, same, -⟩ := List.findIdx?_eq_some_iff_getElem.1 position
  have own : rel.columns[i] = c := by
    by_contra other
    have symmetric : Std.Symm fun a b : Column => Text.sameName a.name b.name = false :=
      ⟨fun a b differ => by rw [Text.sameName_comm, differ]⟩
    rw [distinct.forall hc (List.getElem_mem bound) (Ne.symm other)] at same
    cases same
  refine ⟨.column i descending, ?_, ?_⟩
  · simp only [TablePlan.termFor, position]
  · simp only [IndexTerm.shown, List.getElem?_eq_getElem bound, own, Option.map_some,
      Option.getD_some]

theorem shown_terms {rel : Relation}
    (distinct : rel.columns.Pairwise fun a b => Text.sameName a.name b.name = false)
    (parts : List (String × Bool)) (known : ∀ p ∈ parts, p.1 ∈ rel.columns.map Column.name) :
    ∃ terms, (parts.map fun p => IndexPart.column p.1 p.2).mapM (TablePlan.termFor rel.columns) =
        .ok terms ∧ terms.map (·.shown rel) = parts.map fun p => ⟨p.1, p.2⟩ := by
  induction parts with
  | nil => exact ⟨[], rfl, rfl⟩
  | cons p parts ih =>
      obtain ⟨first, others⟩ := List.forall_mem_cons.1 known
      obtain ⟨term, found, shown⟩ := shown_termFor distinct first p.2
      obtain ⟨terms, rest, shown'⟩ := ih others
      refine ⟨term :: terms, ?_, ?_⟩
      · simp only [List.map_cons, List.mapM_cons, found, rest]
        rfl
      · simp only [List.map_cons, shown, shown']

/-- The table of a definition with an index for its scan order. -/
def Relation.scanned (t : Table) (terms : List IndexTerm) : Relation :=
  { t.plan.relation with indexes := [{ name := t.scanIndexName, terms }] }

/-- The name of a scan index is longer than that of its table. -/
theorem sameName_scanIndexName (t : Table) : Text.sameName t.scanIndexName t.name = false := by
  rw [Bool.eq_false_iff]
  intro same
  have lengths := congrArg (fun name => name.toList.length) (Text.sameName_iff.1 same)
  simp [Text.lowerAscii, Table.scanIndexName] at lengths

/-- The terms of a scan index are found, and they are shown as the ordered scan needs them. -/
theorem exists_scanTerms {t : Table}
    (distinct : t.plan.columns.Pairwise fun a b => Text.sameName a.name b.name = false) :
    ∃ terms, t.scanIndexPlan.parts.mapM (TablePlan.termFor t.plan.relation.columns) = .ok terms ∧
      terms.map (·.shown t.plan.relation) = (t.scanIndexNamed t.scanIndexName).columns := by
  have names : t.plan.relation.columns.map Column.name = t.columnNames ++ [Table.payloadColumn] := by
    rw [← names_plan]
    exact List.map_map
  let parts : List (String × Bool) := t.keyNames.map (·, false) ++ [(t.heightColumn, true)]
  have known : ∀ p ∈ parts, p.1 ∈ t.plan.relation.columns.map Column.name := by
    rw [names]
    intro p hp
    refine List.mem_append_left _ ?_
    rcases List.mem_append.1 hp with key | height
    · obtain ⟨name, hn, rfl⟩ := List.mem_map.1 key
      exact List.mem_append_left _ hn
    · cases List.mem_singleton.1 height
      exact List.mem_append_right _ List.mem_cons_self
  have distinct' : t.plan.relation.columns.Pairwise fun a b => Text.sameName a.name b.name = false :=
    List.pairwise_map.2 distinct
  obtain ⟨terms, found, shown⟩ := shown_terms distinct' parts known
  have planned : t.scanIndexPlan.parts = parts.map fun p => IndexPart.column p.1 p.2 := by
    simp [Table.scanIndexPlan, parts]
  refine ⟨terms, by rw [planned, found], shown.trans ?_⟩
  simp [Table.scanIndexNamed, IndexColumn.asc, IndexColumn.desc, parts]

theorem find?_plan (t : Table) : ({ relations := [t.plan.relation] } : Database).find? t.name =
    some t.plan.relation :=
  List.find?_cons_of_pos (Text.sameName_self t.name)

theorem createIndex_scanIndex {t : Table} {terms : List IndexTerm}
    (plain : isReserved t.scanIndexName = false)
    (found : t.scanIndexPlan.parts.mapM (TablePlan.termFor t.plan.relation.columns) = .ok terms) :
    createIndex { relations := [t.plan.relation] } true t.name t.scanIndexPlan =
      .ok { relations := [.scanned t terms] } := by
  have there := find?_plan t
  have unnamed : ({ relations := [t.plan.relation] } : Database).find? t.scanIndexPlan.name =
      none := by
    have other : Text.sameName t.scanIndexPlan.name t.plan.relation.name = false :=
      sameName_scanIndexName t
    rw [find?, List.find?_cons_of_neg (by rw [other]; exact Bool.false_ne_true), List.find?_nil]
  have planned : t.scanIndexPlan.index t.plan.relation =
      .ok { name := t.scanIndexName, terms } := by
    simp only [IndexPlan.index, found]
    rfl
  have plain' : isReserved t.scanIndexPlan.name = false := plain
  have replaced : ({ relations := [t.plan.relation] } : Database).replace t.name
      (.scanned t terms) = { relations := [.scanned t terms] } := by
    have own : Text.sameName t.name t.plan.relation.name = true := Text.sameName_self t.name
    simp only [replace, replaceIn, own, if_true]
  simp only [createIndex, there, plain', unnamed, planned, bind, Except.bind, Bool.false_eq_true,
    if_false, Option.isSome_none]
  exact congrArg Except.ok replaced

theorem createVersioned_creatable {t : Table} (creatable : Creatable t) :
    ∃ terms, createVersioned {} t = (.ok (), { relations := [.scanned t terms] }) ∧
      (Relation.scanned t terms).shownIndexes = [t.scanIndexNamed t.scanIndexName] := by
  have distinct : t.plan.columns.Pairwise fun a b => Text.sameName a.name b.name = false := by
    have names := creatable.distinct
    rwa [← names_plan, List.pairwise_map] at names
  have few : t.plan.columns.length ≤ columnLimit := by
    simpa [Table.plan] using creatable.few
  obtain ⟨terms, found, shown⟩ := exists_scanTerms distinct
  have plain : isReserved t.scanIndexName = false := by
    rw [Bool.eq_false_iff, ne_eq, isReserved_scanIndexName, creatable.plain, creatable.unlike]
    simp
  refine ⟨terms, ?_, ?_⟩
  · simp only [createVersioned, createTable_plan creatable.plain few distinct,
      createIndex_scanIndex plain found]
  · exact congrArg (fun columns => [(⟨t.scanIndexName, columns⟩ : Index)]) shown

theorem length_le_of_checkColumns {table : String} {taken : List String} {columns : List Column}
    (within : taken.length ≤ columnLimit)
    (ok : TablePlan.checkColumns table taken columns = .ok ()) :
    taken.length + columns.length ≤ columnLimit := by
  induction columns generalizing taken with
  | nil => exact within
  | cons c cs ih =>
      simp only [TablePlan.checkColumns] at ok
      split at ok
      · cases ok
      next room =>
        split at ok
        · cases ok
        · have rest := ih (by rw [List.length_cons]; omega) ok
          simp only [List.length_cons] at rest ⊢
          omega

theorem creatable_of_createVersioned {t : Table} (done : (createVersioned {} t).1 = .ok ()) :
    Creatable t := by
  obtain ⟨middle, tableDone, indexDone⟩ := createVersioned_ok done
  cases createTable_ok tableDone with
  | there _ found _ => cases found
  | new plain _ _ checked _ _ _ =>
      have plain' : isReserved t.scanIndexName = false := (createIndex_ok indexDone).plain
      have few := length_le_of_checkColumns (Nat.zero_le _) checked
      refine ⟨?_, plain, ?_, ?_⟩
      · simpa [Table.plan] using few
      · rw [Bool.eq_false_iff] at plain' ⊢
        exact fun same => plain' ((isReserved_scanIndexName t).2 (.inr same))
      · rw [← names_plan, List.pairwise_map]
        exact (distinct_of_checkColumns checked).1

theorem unlike_of_sameName {a b name : String} (differ : Text.sameName a b = false)
    (same : Text.sameName a name = true) : Text.sameName b name = false := by
  rw [Bool.eq_false_iff] at differ ⊢
  intro same'
  rw [ne_eq, Text.sameName_iff] at differ
  exact differ ((Text.sameName_iff.1 same).trans (Text.sameName_iff.1 same').symm)

section Catalog

variable {t : Table} {leading : KeyColumn} {further : List KeyColumn} {terms : List IndexTerm}

theorem find?_scanned : ({ relations := [.scanned t terms] } : Database).find? t.name =
    some (.scanned t terms) :=
  List.find?_cons_of_pos (Text.sameName_self t.name)

theorem checkFunction_scanned (function : String) :
    ({ relations := [.scanned t terms] } : Database).checkFunction function =
      if Text.sameName function t.name then .error (.database (.engine (.noFunction function)))
      else .ok () := by
  have name : (Relation.scanned t terms).name = t.name := rfl
  by_cases same : Text.sameName function t.name = true
  · simp [checkFunction, find?, name, same]
  · simp [checkFunction, find?, name, same]

theorem columnType_scanned (keys : t.keys = leading :: further)
    (free : Text.sameName columnFunction t.name = false) :
    ({ relations := [.scanned t terms] } : Database).catalog.columnType t.name leading.name =
      .ok (some leading.type) := by
  obtain ⟨c, first, type⟩ : ∃ c,
      ((Relation.scanned t terms).columns.find? fun c => c.name = leading.name) = some c ∧
        c.type = leading.type := by
    simp [Relation.scanned, TablePlan.relation, Table.plan, keys, Column.type, ofDeclared_sqlName]
  simp only [catalog, checkFunction_scanned, free, find?_scanned, bind, Option.bind, first, type]
  rfl

theorem indexes_scanned
    (shown : (Relation.scanned t terms).shownIndexes = [t.scanIndexNamed t.scanIndexName])
    (free : Text.sameName indexFunction t.name = false)
    (free' : Text.sameName termFunction t.name = false) :
    ({ relations := [.scanned t terms] } : Database).catalog.indexes t.name =
      .ok [t.scanIndexNamed t.scanIndexName] := by
  simp only [catalog, checkFunction_scanned, free, free', find?_scanned, Option.map_some, shown]
  rfl

/-- A function of the catalog that a table hides. -/
def hidden (function : String) : ScanOrderMismatch :=
  .catalogUnavailable (.database (.engine (.noFunction function)))

theorem columnType_hidden (hides : Text.sameName columnFunction t.name = true) (column : String) :
    ({ relations := [.scanned t terms] } : Database).catalog.columnType t.name column =
      .error (.database (.engine (.noFunction columnFunction))) := by
  simp only [catalog, checkFunction_scanned, hides, if_true]
  rfl

theorem indexes_hidden
    (shown : (Relation.scanned t terms).shownIndexes = [t.scanIndexNamed t.scanIndexName])
    {function : String} (asked : function = indexFunction ∨ function = termFunction)
    (hides : Text.sameName function t.name = true) :
    ({ relations := [.scanned t terms] } : Database).catalog.indexes t.name =
      .error (.database (.engine (.noFunction function))) := by
  rcases asked with rfl | rfl
  · simp only [catalog, checkFunction_scanned, hides, if_true]
    rfl
  · have free : Text.sameName indexFunction t.name = false :=
      unlike_of_sameName (by rw [Text.sameName_eq_beq]; decide) hides
    simp only [catalog, checkFunction_scanned, free, hides, find?_scanned, Option.map_some, shown]
    rfl

/-- The functions of the catalog that are asked for the scan order of a table whose leading column has
    this type. -/
def askedFunctions (type : ColumnType) : List String :=
  if type = .integer then [columnFunction, indexFunction, termFunction] else [columnFunction]

theorem columnFunction_mem_asked (type : ColumnType) : columnFunction ∈ askedFunctions type := by
  unfold askedFunctions
  split <;> exact List.mem_cons_self

theorem scanOrder_scanned (keys : t.keys = leading :: further)
    (shown : (Relation.scanned t terms).shownIndexes = [t.scanIndexNamed t.scanIndexName])
    (free : ∀ f ∈ askedFunctions leading.type, Text.sameName f t.name = false) :
    t.scanOrder ({ relations := [.scanned t terms] } : Database).catalog =
      t.createdOrder leading := by
  refine Table.scanOrder_eq_createdOrder keys (columnType_scanned keys
    (free columnFunction (columnFunction_mem_asked leading.type))) fun integer => ?_
  have asked : askedFunctions leading.type = [columnFunction, indexFunction, termFunction] :=
    if_pos integer
  rw [asked] at free
  exact indexes_scanned shown (free indexFunction (by simp)) (free termFunction (by simp))

theorem scanOrder_hidden (keys : t.keys = leading :: further)
    (shown : (Relation.scanned t terms).shownIndexes = [t.scanIndexNamed t.scanIndexName])
    {function : String} (asked : function ∈ askedFunctions leading.type)
    (hides : Text.sameName function t.name = true) :
    t.scanOrder ({ relations := [.scanned t terms] } : Database).catalog =
      .unavailable (hidden function) := by
  have names := Table.keyNames_cons keys
  by_cases first : function = columnFunction
  · subst first
    simp only [Table.scanOrder, Table.checkScanOrder, names, columnType_hidden hides, hidden]
  · obtain ⟨integer, later⟩ : leading.type = .integer ∧
        (function = indexFunction ∨ function = termFunction) := by
      unfold askedFunctions at asked
      split at asked
      next integer => exact ⟨integer, by simpa [first] using asked⟩
      · exact absurd (List.mem_singleton.1 asked) first
    have free : Text.sameName columnFunction t.name = false := by
      refine unlike_of_sameName ?_ hides
      rw [Text.sameName_eq_beq]
      rcases later with rfl | rfl <;> decide
    simp only [Table.scanOrder, Table.checkScanOrder, names, columnType_scanned keys free, integer,
      ne_eq, not_true_eq_false, if_false, indexes_hidden shown later hides, hidden]

end Catalog

end Database

/-- Whenever the table is registered with this catalog, it is found to have this scan order. -/
def Table.RegistersAs (t : Table) (catalog : Catalog) (order : ScanOrder) : Prop :=
  ∀ trimmer : Trimmer, ∃ trimmer', trimmer.register catalog t = .ok (order, trimmer')

theorem Table.registersAs {t : Table} (valid : t.validate = .ok ()) {catalog : Catalog}
    {order : ScanOrder} (found : t.scanOrder catalog = order) : t.RegistersAs catalog order := by
  intro trimmer
  simp only [Trimmer.register, valid, found]
  exact ⟨_, rfl⟩

namespace Database

open MemoryStore (accounts validate_accounts)

/-- A usable table that was created in memory can be trimmed in order exactly if its leading column has
    integers. An empty database creates it if it is creatable, and only then; after this the same
    holds, unless its name hides a function that the catalog is asked by. -/
theorem created_tables_registered {t : Table} {leading : KeyColumn} {further : List KeyColumn}
    (valid : t.validate = .ok ()) (keys : t.keys = leading :: further) :
    (∀ s : MemoryStore, t.RegistersAs (s.createTable t).catalog (t.createdOrder leading)) ∧
      ((createVersioned {} t).1 = .ok () ↔ Creatable t) ∧
      (Creatable t → (∀ f ∈ askedFunctions leading.type, Text.sameName f t.name = false) →
        t.RegistersAs (createVersioned {} t).2.catalog (t.createdOrder leading)) ∧
      (Creatable t → ∀ f ∈ askedFunctions leading.type, Text.sameName f t.name = true →
        t.RegistersAs (createVersioned {} t).2.catalog (.unavailable (hidden f))) := by
  refine ⟨fun s => Table.registersAs valid (MemoryStore.scanOrder_createTable valid keys s),
    ⟨creatable_of_createVersioned, fun creatable => ?_⟩, fun creatable free => ?_,
    fun creatable f asked hides => ?_⟩
  · obtain ⟨terms, created, -⟩ := createVersioned_creatable creatable
    rw [created]
  · obtain ⟨terms, created, shown⟩ := createVersioned_creatable creatable
    rw [created]
    exact Table.registersAs valid (scanOrder_scanned keys shown free)
  · obtain ⟨terms, created, shown⟩ := createVersioned_creatable creatable
    rw [created]
    exact Table.registersAs valid (scanOrder_hidden keys shown asked hides)

theorem created_tables_registered_accounts :
    accounts.validate = .ok () ∧ Creatable accounts ∧
      (∀ s : MemoryStore,
        accounts.RegistersAs (s.createTable accounts).catalog (.available "account_trim_idx")) ∧
      accounts.RegistersAs (createVersioned {} accounts).2.catalog
        (.available "account_trim_idx") := by
  have created : (createVersioned {} accounts).1 = .ok () := by decide +kernel
  have free : ∀ f ∈ askedFunctions .integer, Text.sameName f accounts.name = false := by
    simp only [Text.sameName_eq_beq]
    decide
  obtain ⟨memory, creatable, database, -⟩ := created_tables_registered validate_accounts rfl
  exact ⟨validate_accounts, creatable.1 created, memory, database (creatable.1 created) free⟩

/-- Accounts whose key column is called like the column of the payload. -/
def payloadAccounts : Table := { accounts with keys := [⟨"payload", .integer⟩] }

/-- The definition is usable, and no table is created for it. -/
theorem created_tables_refused :
    payloadAccounts.validate = .ok () ∧
      (createVersioned {} payloadAccounts).1 = .error (.duplicateColumn "payload") ∧
      payloadAccounts.RegistersAs (createVersioned {} payloadAccounts).2.catalog
        (.unavailable (.missingColumn "payload")) := by
  have valid : payloadAccounts.validate = .ok () := by decide
  exact ⟨valid, by decide +kernel, Table.registersAs valid (by decide +kernel)⟩

end Database

end HistoryTrim
