import HistoryTrim.Proofs.Database.CreatedTables
import Mathlib.Data.Nat.Find

/-! # Scan orders and first mismatches

Only the indexes that start with the leading key, ascending, can give a table its scan order, and there
has to be a single one. Its columns are held against the other keys and the height, position by position.
A mismatch that is reported is the first one: whatever is checked before it passes.
-/

namespace HistoryTrim

namespace Index

variable {i : Index} {keys : List String} {height : String} {p q : Nat} {m : ScanOrderMismatch}

theorem startsWith_iff {column : String} :
    i.startsWith column = true ↔ i.columns.head? = some (.asc column) := by
  unfold startsWith
  cases i.columns with
  | nil => simp
  | cons c cs => cases c; simp [IndexColumn.asc]

/-- The index has the key of a position there, ascending. -/
def HasKey (i : Index) (keys : List String) (p : Nat) : Prop :=
  ∃ key, keys[p]? = some key ∧ i.columns[p]? = some (.asc key)

/-- So it is from the second key on, up to a position. -/
def HasKeysBefore (i : Index) (keys : List String) (p : Nat) : Prop :=
  ∀ q, 0 < q → q < p → i.HasKey keys q

/-- After the leading key the index has the other keys, ascending, and then the height, descending. -/
structure Follows (i : Index) (keys : List String) (height : String) : Prop where
  further : i.HasKeysBefore keys keys.length
  last : i.columns[keys.length]? = some (.desc height)

/-- What is wrong at a position where a key is expected or, after the keys, the height. -/
inductive Mismatch (i : Index) (keys : List String) (height : String) (p : Nat) :
    ScanOrderMismatch → Prop where
  | otherKey {key : String} (expected : keys[p]? = some key)
      (found : i.columns[p]?.map IndexColumn.name ≠ some key) :
      Mismatch i keys height p
        (.keyColumnMismatch i.name p key (i.columns[p]?.map IndexColumn.name))
  | keyDescending {key : String} (expected : keys[p]? = some key)
      (found : i.columns[p]? = some (.desc key)) :
      Mismatch i keys height p (.keyColumnDescending i.name key)
  | otherHeight (expected : p = keys.length)
      (found : i.columns[p]?.map IndexColumn.name ≠ some height) :
      Mismatch i keys height p (.missingHeightColumn i.name height)
  | heightAscending (expected : p = keys.length) (found : i.columns[p]? = some (.asc height)) :
      Mismatch i keys height p (.heightNotDescending i.name height)

/-- The walk along an index from a position on. -/
def fitsFrom (i : Index) (keys : List String) (height : String) (p : Nat) :
    Except ScanOrderMismatch Unit :=
  fits i.name p height (keys.drop p) (i.columns.drop p)

theorem drop_of_getElem? {α : Type} {xs : List α} {x : α} (here : xs[p]? = some x) :
    xs.drop p = x :: xs.drop (p + 1) := by
  rw [List.drop_eq_getElem?_toList_append, here]
  rfl

theorem fitsFrom_of_hasKey (here : i.HasKey keys p) :
    i.fitsFrom keys height p = i.fitsFrom keys height (p + 1) := by
  obtain ⟨key, expected, found⟩ := here
  simp [fitsFrom, drop_of_getElem? expected, drop_of_getElem? found, fits, IndexColumn.asc]

theorem fitsFrom_length (found : i.columns[keys.length]? = some (.desc height)) :
    i.fitsFrom keys height keys.length = .ok () := by
  simp [fitsFrom, drop_of_getElem? found, fits, IndexColumn.desc]

theorem drop_of_name_ne {name : String} (found : i.columns[p]?.map IndexColumn.name ≠ some name) :
    (i.columns[p]? = none ∧ i.columns.drop p = []) ∨
      ∃ c, i.columns[p]? = some c ∧ c.name ≠ name ∧
        i.columns.drop p = c :: i.columns.drop (p + 1) := by
  cases column : i.columns[p]? with
  | none => exact .inl ⟨rfl, List.drop_eq_nil_of_le (List.getElem?_eq_none_iff.1 column)⟩
  | some c =>
      rw [column] at found
      exact .inr ⟨c, rfl, fun same => found (congrArg some same), drop_of_getElem? column⟩

theorem fitsFrom_of_mismatch (wrong : i.Mismatch keys height p m) :
    i.fitsFrom keys height p = .error m := by
  unfold fitsFrom
  cases wrong with
  | otherKey expected found =>
      rw [drop_of_getElem? expected]
      rcases drop_of_name_ne found with ⟨past, rest⟩ | ⟨c, column, other, rest⟩
      · rw [rest, past, fits, Option.map_none]
      · rw [rest, column, fits, if_pos other, Option.map_some]
  | keyDescending expected found =>
      simp [drop_of_getElem? expected, drop_of_getElem? found, fits, IndexColumn.desc]
  | otherHeight expected found =>
      rw [List.drop_eq_nil_of_le expected.ge]
      rcases drop_of_name_ne found with ⟨-, rest⟩ | ⟨c, -, other, rest⟩
      · rw [rest, fits]
      · rw [rest, fits, if_pos other]
  | heightAscending expected found =>
      simp [List.drop_eq_nil_of_le expected.ge, drop_of_getElem? found, fits, IndexColumn.asc]

theorem fitsFrom_of_hasKeysBefore (positive : 0 < p) (before : i.HasKeysBefore keys p) :
    i.fitsFrom keys height 1 = i.fitsFrom keys height p := by
  induction p, positive using Nat.le_induction with
  | base => rfl
  | succ p positive ih =>
      have earlier : i.HasKeysBefore keys p := fun q later less => before q later (by omega)
      rw [ih earlier, fitsFrom_of_hasKey (before p positive p.lt_succ_self)]

theorem hasKey_or_mismatch (height : String) (within : p < keys.length) :
    i.HasKey keys p ∨ ∃ m, i.Mismatch keys height p m := by
  have expected : keys[p]? = some keys[p] := List.getElem?_eq_getElem within
  by_cases named : i.columns[p]?.map IndexColumn.name = some keys[p]
  · obtain ⟨⟨_, descending⟩, found, rfl⟩ := Option.map_eq_some_iff.1 named
    cases descending with
    | false => exact .inl ⟨_, expected, found⟩
    | true => exact .inr ⟨_, .keyDescending expected found⟩
  · exact .inr ⟨_, .otherKey expected named⟩

theorem height_or_mismatch (i : Index) (keys : List String) (height : String) :
    i.columns[keys.length]? = some (.desc height) ∨ ∃ m, i.Mismatch keys height keys.length m := by
  by_cases named : i.columns[keys.length]?.map IndexColumn.name = some height
  · obtain ⟨⟨_, descending⟩, found, rfl⟩ := Option.map_eq_some_iff.1 named
    cases descending with
    | false => exact .inr ⟨_, .heightAscending rfl found⟩
    | true => exact .inl found
  · exact .inr ⟨_, .otherHeight rfl named⟩

/-- The index follows the keys, or there is a first position at which it does not. -/
theorem follows_or_mismatch (i : Index) (height : String) (keyed : 0 < keys.length) :
    i.Follows keys height ∨
      ∃ p m, 0 < p ∧ i.HasKeysBefore keys p ∧ i.Mismatch keys height p m := by
  classical
  by_cases further : i.HasKeysBefore keys keys.length
  · rcases height_or_mismatch i keys height with last | ⟨m, wrong⟩
    · exact .inl ⟨further, last⟩
    · exact .inr ⟨_, m, keyed, further, wrong⟩
  · have wrong : ∃ p, 0 < p ∧ p < keys.length ∧ ¬ i.HasKey keys p := by
      simpa [HasKeysBefore] using further
    obtain ⟨later, within, missing⟩ := Nat.find_spec wrong
    obtain ⟨m, mismatch⟩ := (hasKey_or_mismatch height within).resolve_left missing
    refine .inr ⟨_, m, later, fun q positive less => ?_, mismatch⟩
    by_contra absent
    exact Nat.find_min wrong less ⟨positive, less.trans within, absent⟩

theorem fitsFrom_eq_ok_iff (keyed : 0 < keys.length) :
    i.fitsFrom keys height 1 = .ok () ↔ i.Follows keys height := by
  constructor
  · intro fits
    refine (i.follows_or_mismatch height keyed).resolve_right ?_
    rintro ⟨p, m, positive, before, wrong⟩
    rw [fitsFrom_of_hasKeysBefore positive before, fitsFrom_of_mismatch wrong] at fits
    cases fits
  · rintro ⟨further, last⟩
    rw [fitsFrom_of_hasKeysBefore keyed further, fitsFrom_length last]

theorem fitsFrom_eq_error_iff (keyed : 0 < keys.length) :
    i.fitsFrom keys height 1 = .error m ↔
      ∃ p, 0 < p ∧ i.HasKeysBefore keys p ∧ i.Mismatch keys height p m := by
  constructor
  · intro refused
    rcases i.follows_or_mismatch height keyed with
      follows | ⟨p, m', positive, before, wrong⟩
    · rw [(fitsFrom_eq_ok_iff keyed).2 follows] at refused
      cases refused
    · rw [fitsFrom_of_hasKeysBefore positive before, fitsFrom_of_mismatch wrong] at refused
      cases refused
      exact ⟨p, positive, before, wrong⟩
  · rintro ⟨p, positive, before, wrong⟩
    rw [fitsFrom_of_hasKeysBefore positive before, fitsFrom_of_mismatch wrong]

end Index

namespace Table

variable {t : Table} {catalog : Catalog} {leading : KeyColumn} {further : List KeyColumn}

/-- The indexes that start with a column, ascending, in the order of the catalog. -/
def startingWith (column : String) (indexes : List Index) : List Index :=
  indexes.filter fun i => i.columns.head? = some (.asc column)

/-- The catalog shows an integer as the leading column, and a single index that starts with it. -/
structure Candidate (t : Table) (catalog : Catalog) (leading : String) (i : Index) : Prop where
  integer : catalog.columnType t.name leading = .ok (some .integer)
  single : ∃ indexes, catalog.indexes t.name = .ok indexes ∧ startingWith leading indexes = [i]

/-- The first of the checks of a table against a catalog that does not pass. -/
inductive FirstMismatch (t : Table) (catalog : Catalog) (leading : String) :
    ScanOrderMismatch → Prop where
  | typeUnread {e : StoreError} (type : catalog.columnType t.name leading = .error e) :
      FirstMismatch t catalog leading (.catalogUnavailable e)
  | noColumn (type : catalog.columnType t.name leading = .ok none) :
      FirstMismatch t catalog leading (.missingColumn leading)
  | notInteger {type : ColumnType} (shown : catalog.columnType t.name leading = .ok (some type))
      (other : type ≠ .integer) :
      FirstMismatch t catalog leading (.leadingColumnNotInteger leading type)
  | indexesUnread {e : StoreError}
      (integer : catalog.columnType t.name leading = .ok (some .integer))
      (unread : catalog.indexes t.name = .error e) :
      FirstMismatch t catalog leading (.catalogUnavailable e)
  | noCandidate {indexes : List Index}
      (integer : catalog.columnType t.name leading = .ok (some .integer))
      (read : catalog.indexes t.name = .ok indexes)
      (absent : ∀ i ∈ indexes, i.columns.head? ≠ some (.asc leading)) :
      FirstMismatch t catalog leading (.noCandidateIndex leading)
  | ambiguous {indexes : List Index}
      (integer : catalog.columnType t.name leading = .ok (some .integer))
      (read : catalog.indexes t.name = .ok indexes)
      (several : 1 < (startingWith leading indexes).length) :
      FirstMismatch t catalog leading
        (.ambiguousIndex leading ((startingWith leading indexes).map Index.name))
  | position {i : Index} {p : Nat} {m : ScanOrderMismatch}
      (candidate : t.Candidate catalog leading i) (later : 0 < p)
      (before : i.HasKeysBefore t.keyNames p)
      (wrong : i.Mismatch t.keyNames t.heightColumn p m) :
      FirstMismatch t catalog leading m

theorem filter_startsWith (column : String) (indexes : List Index) :
    indexes.filter (·.startsWith column) = startingWith column indexes := by
  refine List.filter_congr fun i _ => ?_
  rw [Bool.eq_iff_iff, Index.startsWith_iff, decide_eq_true_iff]

theorem length_keyNames_pos (keys : t.keys = leading :: further) : 0 < t.keyNames.length := by
  simp [keyNames_cons keys]

theorem checkScanOrder_of_read (keys : t.keys = leading :: further)
    (integer : catalog.columnType t.name leading.name = .ok (some .integer))
    {indexes : List Index} (read : catalog.indexes t.name = .ok indexes) :
    t.checkScanOrder catalog =
      match startingWith leading.name indexes with
      | [] => .error (.noCandidateIndex leading.name)
      | [i] => (i.fitsFrom t.keyNames t.heightColumn 1).map fun _ => i.name
      | several => .error (.ambiguousIndex leading.name (several.map Index.name)) := by
  simp only [checkScanOrder, keyNames_cons keys, integer, ne_eq, not_true_eq_false, if_false, read,
    filter_startsWith, Index.fitsFrom, List.drop_one, List.tail_cons]
  match startingWith leading.name indexes with
  | [] | _ :: _ :: _ => rfl
  | [i] =>
      dsimp only
      cases Index.fits i.name 1 t.heightColumn (further.map KeyColumn.name) i.columns.tail <;> rfl

theorem checkScanOrder_of_candidate (keys : t.keys = leading :: further) {i : Index}
    (candidate : t.Candidate catalog leading.name i) :
    t.checkScanOrder catalog =
      (i.fitsFrom t.keyNames t.heightColumn 1).map fun _ => i.name := by
  obtain ⟨integer, indexes, read, single⟩ := candidate
  rw [checkScanOrder_of_read keys integer read, single]

theorem checkScanOrder_of_firstMismatch (keys : t.keys = leading :: further)
    {m : ScanOrderMismatch} (first : t.FirstMismatch catalog leading.name m) :
    t.checkScanOrder catalog = .error m := by
  have names := keyNames_cons keys
  cases first with
  | typeUnread type => simp only [checkScanOrder, names, type]
  | noColumn type => simp only [checkScanOrder, names, type]
  | notInteger shown other =>
      simp only [checkScanOrder, names, shown, ne_eq, other, not_false_eq_true, if_true]
  | indexesUnread integer unread =>
      simp only [checkScanOrder, names, integer, ne_eq, not_true_eq_false, if_false, unread]
  | noCandidate integer read absent =>
      have empty : startingWith leading.name _ = [] :=
        List.filter_eq_nil_iff.2 fun i hi starts => absent i hi (of_decide_eq_true starts)
      rw [checkScanOrder_of_read keys integer read, empty]
  | ambiguous integer read several =>
      rw [checkScanOrder_of_read keys integer read]
      split
      next empty => simp [empty] at several
      next single => simp [single] at several
      next => rfl
  | position candidate later before wrong =>
      have refused := (Index.fitsFrom_eq_error_iff (length_keyNames_pos keys)).2
        ⟨_, later, before, wrong⟩
      rw [checkScanOrder_of_candidate keys candidate, refused]
      rfl

theorem candidate_or_firstMismatch (t : Table) (catalog : Catalog) (leading : String) :
    (∃ i, t.Candidate catalog leading i) ∨ ∃ m, t.FirstMismatch catalog leading m := by
  cases type : catalog.columnType t.name leading with
  | error e => exact .inr ⟨_, .typeUnread type⟩
  | ok shown =>
      cases shown with
      | none => exact .inr ⟨_, .noColumn type⟩
      | some found =>
          by_cases integer : found = .integer
          · subst integer
            cases read : catalog.indexes t.name with
            | error e => exact .inr ⟨_, .indexesUnread type read⟩
            | ok indexes =>
                match candidates : startingWith leading indexes with
                | [] =>
                    have absent := List.filter_eq_nil_iff.1 candidates
                    exact .inr ⟨_, .noCandidate type read fun i hi starts =>
                      absent i hi (decide_eq_true starts)⟩
                | [i] => exact .inl ⟨i, type, indexes, read, candidates⟩
                | _ :: _ :: _ =>
                    exact .inr ⟨_, .ambiguous type read (by simp [candidates])⟩
          · exact .inr ⟨_, .notInteger type integer⟩

/-- The index gives the scan order: it is the single candidate, and its columns follow the keys. -/
structure GivesOrder (t : Table) (catalog : Catalog) (leading : String) (i : Index) : Prop where
  candidate : t.Candidate catalog leading i
  follows : i.Follows t.keyNames t.heightColumn

theorem scanOrder_of_givesOrder (keys : t.keys = leading :: further) {i : Index}
    (gives : t.GivesOrder catalog leading.name i) : t.scanOrder catalog = .available i.name := by
  have fits := (Index.fitsFrom_eq_ok_iff (length_keyNames_pos keys)).2 gives.follows
  rw [scanOrder, checkScanOrder_of_candidate keys gives.candidate, fits]
  rfl

theorem scanOrder_of_firstMismatch (keys : t.keys = leading :: further) {m : ScanOrderMismatch}
    (first : t.FirstMismatch catalog leading.name m) : t.scanOrder catalog = .unavailable m := by
  rw [scanOrder, checkScanOrder_of_firstMismatch keys first]

theorem givesOrder_or_firstMismatch (keys : t.keys = leading :: further) (catalog : Catalog) :
    (∃ i, t.GivesOrder catalog leading.name i) ∨
      ∃ m, t.FirstMismatch catalog leading.name m := by
  rcases candidate_or_firstMismatch t catalog leading.name with ⟨i, candidate⟩ | mismatch
  · rcases i.follows_or_mismatch t.heightColumn (length_keyNames_pos keys) with
      follows | ⟨p, m, later, before, wrong⟩
    · exact .inl ⟨i, candidate, follows⟩
    · exact .inr ⟨m, .position candidate later before wrong⟩
  · exact .inr mismatch

theorem scanOrder_eq_available_iff (keys : t.keys = leading :: further) {name : String} :
    t.scanOrder catalog = .available name ↔
      ∃ i, t.GivesOrder catalog leading.name i ∧ i.name = name := by
  constructor
  · intro shown
    rcases givesOrder_or_firstMismatch keys catalog with ⟨i, gives⟩ | ⟨m, first⟩
    · rw [scanOrder_of_givesOrder keys gives] at shown
      cases shown
      exact ⟨i, gives, rfl⟩
    · rw [scanOrder_of_firstMismatch keys first] at shown
      cases shown
  · rintro ⟨i, gives, rfl⟩
    exact scanOrder_of_givesOrder keys gives

theorem scanOrder_eq_unavailable_iff (keys : t.keys = leading :: further)
    {m : ScanOrderMismatch} :
    t.scanOrder catalog = .unavailable m ↔ t.FirstMismatch catalog leading.name m := by
  constructor
  · intro shown
    rcases givesOrder_or_firstMismatch keys catalog with ⟨i, gives⟩ | ⟨m', first⟩
    · rw [scanOrder_of_givesOrder keys gives] at shown
      cases shown
    · rw [scanOrder_of_firstMismatch keys first] at shown
      cases shown
      exact first
  · exact scanOrder_of_firstMismatch keys

/-- A table can be trimmed in order exactly if a single index starts with its leading column, an integer
    column, and goes on with the other keys and the height. Otherwise the first check that fails says
    why. Whatever the catalog shows, a usable definition is registered. -/
theorem available_or_first_mismatch (keys : t.keys = leading :: further) (catalog : Catalog) :
    (∀ name, t.scanOrder catalog = .available name ↔
      ∃ i, t.GivesOrder catalog leading.name i ∧ i.name = name) ∧
    (∀ m, t.scanOrder catalog = .unavailable m ↔ t.FirstMismatch catalog leading.name m) ∧
    (t.validate = .ok () → t.RegistersAs catalog (t.scanOrder catalog)) :=
  ⟨fun _ => scanOrder_eq_available_iff keys, fun _ => scanOrder_eq_unavailable_iff keys,
    fun valid => registersAs valid rfl⟩

section Balances

def balances : Table :=
  { name := "balance", keys := [⟨"account_id", .integer⟩, ⟨"asset_id", .integer⟩] }

/-- A catalog of balances with these indexes. -/
def balancesCatalog (indexes : Except StoreError (List Index)) : Catalog where
  columnType _ column := .ok (if column ∈ balances.columnNames then some .integer else none)
  indexes _ := indexes

/-- An index whose columns go on after the height. -/
def coveringIndex : Index :=
  ⟨"covering_idx", [.asc "account_id", .asc "asset_id", .desc "height", .asc "latest"]⟩

/-- An index with two columns the wrong way round. -/
def turnedIndex : Index := ⟨"turned_idx", [.asc "account_id", .desc "asset_id", .asc "height"]⟩

theorem available_or_first_mismatch_balances :
    balances.keys = [⟨"account_id", .integer⟩, ⟨"asset_id", .integer⟩] ∧
    (∃ i, balances.GivesOrder (balancesCatalog (.ok [coveringIndex])) "account_id" i ∧
      i.name = "covering_idx") ∧
    balances.FirstMismatch (balancesCatalog (.ok [turnedIndex])) "account_id"
      (.keyColumnDescending "turned_idx" "asset_id") ∧
    balances.FirstMismatch (balancesCatalog (.ok [turnedIndex, coveringIndex])) "account_id"
      (.ambiguousIndex "account_id" ["turned_idx", "covering_idx"]) ∧
    balances.RegistersAs (balancesCatalog (.error (.unavailable "locked")))
      (.unavailable (.catalogUnavailable (.unavailable "locked"))) := by
  have keys : balances.keys = [⟨"account_id", .integer⟩, ⟨"asset_id", .integer⟩] := rfl
  have valid : balances.validate = .ok () := by decide
  have decided := available_or_first_mismatch keys
  refine ⟨keys, ?_, ?_, ?_, (decided _).2.2 valid⟩
  · exact ((decided (balancesCatalog (.ok [coveringIndex]))).1 _).1 (by decide)
  · exact ((decided (balancesCatalog (.ok [turnedIndex]))).2.1 _).1 (by decide)
  · exact ((decided (balancesCatalog (.ok [turnedIndex, coveringIndex]))).2.1 _).1 (by decide)

end Balances

end Table

end HistoryTrim
