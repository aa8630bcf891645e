import HistoryTrim.Proofs.Definitions
import HistoryTrim.Table.Schema

/-! # Reading schema texts back

A schema text alternates between fixed words and names, with a double quote wherever one meets the other.
Plain names have no double quote in them, so the text falls apart at its double quotes into just these
pieces, and what it was made from can be read off them.
-/

namespace HistoryTrim

namespace Text

/-- The pieces of a text that is cut at its double quotes. -/
def cutAtQuotes (text : String) : List String := (text.split '"').toList.map (·.copy)

def oddPositions : List String → List String
  | _ :: name :: rest => name :: oddPositions rest
  | _ => []

/-- The pieces at odd positions, which are those between an opening quote and the closing one. -/
def quotedNames (text : String) : List String := oddPositions (cutAtQuotes text)

/-- Words, and then names that each have words after them. -/
def pieces (before : String) : List (String × String) → List String
  | [] => [before]
  | (name, after) :: rest => before :: name :: pieces after rest

/-- The text that these pieces make. -/
def assembled (before : String) (rest : List (String × String)) : String :=
  "\"".intercalate (pieces before rest)

theorem pieces_ne_nil (before : String) (rest : List (String × String)) : pieces before rest ≠ [] := by
  cases rest <;> simp only [pieces, ne_eq, reduceCtorEq, not_false_eq_true]

theorem assembled_nil (before : String) : assembled before [] = before := String.intercalate_singleton

theorem assembled_cons (before name after : String) (rest : List (String × String)) :
    assembled before ((name, after) :: rest) =
      before ++ Table.quoteName name ++ assembled after rest := by
  simp only [assembled, pieces, String.intercalate_cons_cons,
    String.intercalate_cons_of_ne_nil (pieces_ne_nil after rest), Table.quoteName, String.append_assoc]

theorem append_assembled (first before : String) (rest : List (String × String)) :
    first ++ assembled before rest = assembled (first ++ before) rest := by
  cases rest with
  | nil => simp only [assembled_nil]
  | cons p rest =>
      obtain ⟨name, after⟩ := p
      simp only [assembled_cons, String.append_assoc]

theorem oddPositions_pieces (before : String) (rest : List (String × String)) :
    oddPositions (pieces before rest) = rest.map Prod.fst := by
  induction rest generalizing before with
  | nil => rfl
  | cons p rest ih => simp only [pieces, oddPositions, ih, List.map_cons]

theorem pieces_inj {before before' : String} {rest rest' : List (String × String)}
    (same : pieces before rest = pieces before' rest') : before = before' ∧ rest = rest' := by
  induction rest generalizing before before' rest' with
  | nil =>
      cases rest' with
      | nil => exact ⟨(List.cons.inj same).1, rfl⟩
      | cons p' rest' => cases same
  | cons p rest ih =>
      cases rest' with
      | nil => cases same
      | cons p' rest' =>
          obtain ⟨first, same⟩ := List.cons.inj same
          obtain ⟨name, same⟩ := List.cons.inj same
          obtain ⟨after, others⟩ := ih same
          exact ⟨first, List.cons_eq_cons.2 ⟨Prod.ext name after, others⟩⟩

def Unquoted (piece : String) : Prop := '"' ∉ piece.toList

instance (piece : String) : Decidable (Unquoted piece) := inferInstanceAs (Decidable (¬ _))

theorem Unquoted.append {a b : String} (left : Unquoted a) (right : Unquoted b) :
    Unquoted (a ++ b) := by
  rw [Unquoted, String.toList_append, List.mem_append]
  exact not_or.2 ⟨left, right⟩

theorem IsPlainName.unquoted {name : String} (plain : IsPlainName name) : Unquoted name := by
  obtain ⟨first, rest, same, start, others⟩ := plain
  rw [Unquoted, same, List.mem_cons, not_or]
  constructor
  · rintro rfl
    exact absurd start (by decide)
  · intro quote
    exact absurd (others _ quote) (by decide)

/-- A text falls apart into the pieces that it was made from. -/
theorem cutAtQuotes_assembled {before : String} {rest : List (String × String)}
    (words : Unquoted before) (unquoted : ∀ p ∈ rest, Unquoted p.1 ∧ Unquoted p.2) :
    cutAtQuotes (assembled before rest) = pieces before rest := by
  have clean : ∀ s ∈ pieces before rest, '"' ∉ s.toList := by
    induction rest generalizing before with
    | nil => exact List.forall_mem_singleton.2 words
    | cons p rest ih =>
        obtain ⟨⟨name, after⟩, others⟩ := List.forall_mem_cons.1 unquoted
        exact List.forall_mem_cons.2 ⟨words, List.forall_mem_cons.2 ⟨name, ih after others⟩⟩
  have cut := String.toList_split_intercalate clean
  rwa [if_neg (pieces_ne_nil before rest)] at cut

theorem intercalate_columns (columns : List (String × String)) (name after close : String)
    (more : List String) :
    ", ".intercalate (columns.map (fun c => Table.quoteName c.1 ++ c.2) ++
        (Table.quoteName name ++ after) :: more) ++ close =
      assembled "" (columns.map (fun c => (c.1, c.2 ++ ", ")) ++
        [(name, ", ".intercalate (after :: more) ++ close)]) := by
  induction columns with
  | nil =>
      simp only [List.map_nil, List.nil_append, String.intercalate_cons_append, assembled_cons,
        assembled_nil, String.empty_append, String.append_assoc]
  | cons c columns ih =>
      have others : columns.map (fun c => Table.quoteName c.1 ++ c.2) ++
          (Table.quoteName name ++ after) :: more ≠ [] := List.append_ne_nil_of_right_ne_nil _ (by simp)
      rw [List.map_cons, List.cons_append, String.intercalate_cons_of_ne_nil others,
        String.append_assoc, ih, List.map_cons, List.cons_append, assembled_cons, append_assembled]
      simp only [String.append_assoc, String.empty_append, String.append_empty, append_assembled]

theorem statement_eq (head name after : String) (columns : List (String × String))
    (last words close : String) (more : List String) :
    head ++ Table.quoteName name ++ after ++ ", ".intercalate
        (columns.map (fun c => Table.quoteName c.1 ++ c.2) ++ (Table.quoteName last ++ words) :: more)
        ++ close =
      assembled head ((name, after) :: (columns.map (fun c => (c.1, c.2 ++ ", ")) ++
        [(last, ", ".intercalate (words :: more) ++ close)])) := by
  rw [String.append_assoc, intercalate_columns, assembled_cons, String.append_assoc,
    append_assembled, String.append_empty]

end Text

theorem ColumnType.sqlName_inj {a b : ColumnType} : a.sqlName = b.sqlName ↔ a = b := by
  cases a <;> cases b <;> decide

namespace Table

variable {t u : Table}

/-- The columns of the table up to the latest flag, each with the words after its name. -/
def declaredColumns (t : Table) : List (String × String) :=
  t.keys.map (fun c => (c.name, " " ++ c.type.sqlName ++ " NOT NULL")) ++
    [(t.heightColumn, " INTEGER NOT NULL")]

/-- The names in the text that creates the table, each with the words up to the next one. -/
def tableNames (t : Table) : List (String × String) :=
  (t.name, " (") :: (t.declaredColumns.map (fun c => (c.1, c.2 ++ ", ")) ++
    [(t.latestColumn,
      ", ".intercalate [" BOOLEAN NOT NULL DEFAULT 1", payloadColumn ++ " BLOB"] ++ ")")])

/-- The names in the text that creates the index, each with the words up to the next one. -/
def indexNames (t : Table) : List (String × String) :=
  (t.scanIndexName, " ON ") :: (t.name, " (") ::
    ((t.keyNames.map (·, " ASC")).map (fun c => (c.1, c.2 ++ ", ")) ++
      [(t.heightColumn, ", ".intercalate [" DESC"] ++ ")")])

theorem columnDefinitions_eq (t : Table) :
    t.columnDefinitions = t.declaredColumns.map (fun c => quoteName c.1 ++ c.2) ++
      [quoteName t.latestColumn ++ " BOOLEAN NOT NULL DEFAULT 1", payloadColumn ++ " BLOB"] := by
  simp only [columnDefinitions, declaredColumns, List.map_append, List.map_map, List.append_assoc,
    String.append_assoc, Function.comp_def, List.map_cons, List.map_nil, List.cons_append,
    List.nil_append]

theorem scanIndexTerms_eq (t : Table) :
    t.scanIndexTerms = (t.keyNames.map (·, " ASC")).map (fun c => quoteName c.1 ++ c.2) ++
      [quoteName t.heightColumn ++ " DESC"] := by
  rw [scanIndexTerms, List.map_map]
  rfl

theorem createTableText_eq (t : Table) :
    t.createTableText = Text.assembled "CREATE TABLE IF NOT EXISTS " t.tableNames := by
  unfold createTableText
  rw [columnDefinitions_eq, Text.statement_eq, tableNames]

theorem createScanIndexText_eq (t : Table) :
    t.createScanIndexText = Text.assembled "CREATE INDEX IF NOT EXISTS " t.indexNames := by
  have statement := Text.statement_eq " ON " t.name " (" (t.keyNames.map (·, " ASC"))
    t.heightColumn " DESC" ")" []
  rw [← scanIndexTerms_eq] at statement
  unfold createScanIndexText
  rw [indexNames, Text.assembled_cons, ← statement]
  simp only [String.append_assoc]

theorem map_fst_tableNames (t : Table) : t.tableNames.map Prod.fst = t.name :: t.columnNames := by
  simp only [tableNames, declaredColumns, columnNames, keyNames, List.map_append, List.map_map,
    List.map_cons, List.map_nil, List.append_assoc, List.cons_append, List.nil_append,
    Function.comp_def]

theorem map_fst_indexNames (t : Table) :
    t.indexNames.map Prod.fst = t.scanIndexName :: t.name :: (t.keyNames ++ [t.heightColumn]) := by
  simp only [indexNames, List.map_append, List.map_map, List.map_cons, List.map_nil,
    Function.comp_def, List.map_id']

theorem unquoted_tableWords (t : Table) : ∀ p ∈ t.tableNames, Text.Unquoted p.2 := by
  simp only [tableNames, declaredColumns, List.mem_cons, List.mem_append, List.mem_map,
    List.not_mem_nil, or_false]
  rintro p (rfl | ⟨_, ⟨c, -, rfl⟩ | rfl, rfl⟩ | rfl) <;> dsimp only
  · decide
  · cases c.type <;> decide
  · decide
  · decide

theorem unquoted_indexWords (t : Table) : ∀ p ∈ t.indexNames, Text.Unquoted p.2 := by
  simp only [indexNames, List.mem_cons, List.mem_append, List.mem_map, List.not_mem_nil, or_false]
  rintro p (rfl | rfl | ⟨_, ⟨name, -, rfl⟩, rfl⟩ | rfl) <;> dsimp only <;> decide

theorem tableNames_inj : t.tableNames = u.tableNames ↔ t = u := by
  refine ⟨fun same => ?_, congrArg tableNames⟩
  simp only [tableNames, declaredColumns, List.cons.injEq, Prod.mk.injEq, and_true,
    List.append_singleton_inj, List.map_append, List.map_map, List.map_cons, List.map_nil] at same
  obtain ⟨name, ⟨keys, height⟩, latest⟩ := same
  have keys : t.keys = u.keys := by
    refine (List.map_inj_right fun c d same => ?_).1 keys
    obtain ⟨name, words⟩ := Prod.mk.inj same
    rw [String.append_left_inj, String.append_left_inj, String.append_right_inj,
      ColumnType.sqlName_inj] at words
    exact (KeyColumn.mk.injEq ..).mpr ⟨name, words⟩
  exact (Table.mk.injEq ..).mpr ⟨name, keys, height, latest⟩

theorem indexNames_inj : t.indexNames = u.indexNames ↔
    t.name = u.name ∧ t.keyNames = u.keyNames ∧ t.heightColumn = u.heightColumn := by
  constructor
  · intro same
    have names := congrArg (List.map Prod.fst) same
    rw [map_fst_indexNames, map_fst_indexNames, List.cons.injEq, List.cons.injEq,
      List.append_singleton_inj] at names
    exact names.2
  · rintro ⟨name, keys, height⟩
    rw [indexNames, indexNames, scanIndexName, scanIndexName, name, keys, height]

theorem Usable.cut_createTableText (usable : t.Usable) :
    Text.cutAtQuotes t.createTableText = Text.pieces "CREATE TABLE IF NOT EXISTS " t.tableNames := by
  rw [createTableText_eq]
  refine Text.cutAtQuotes_assembled (by decide) fun p known => ?_
  have name : p.1 ∈ t.name :: t.columnNames :=
    t.map_fst_tableNames ▸ List.mem_map_of_mem known
  exact ⟨(usable.plain _ name).unquoted, t.unquoted_tableWords p known⟩

theorem Usable.cut_createScanIndexText (usable : t.Usable) :
    Text.cutAtQuotes t.createScanIndexText = Text.pieces "CREATE INDEX IF NOT EXISTS " t.indexNames := by
  rw [createScanIndexText_eq]
  refine Text.cutAtQuotes_assembled (by decide) fun p known => ⟨?_, t.unquoted_indexWords p known⟩
  have unquoted := fun name known => (usable.plain name known).unquoted
  have name : p.1 ∈ t.scanIndexName :: t.name :: (t.keyNames ++ [t.heightColumn]) :=
    t.map_fst_indexNames ▸ List.mem_map_of_mem known
  rcases List.mem_cons.1 name with index | name
  · rw [index, scanIndexName]
    exact (unquoted t.name List.mem_cons_self).append (by decide)
  · refine unquoted p.1 ?_
    rw [columnNames, List.append_cons]
    exact List.cons_subset_cons _ (List.subset_append_left ..) name

/-- Usable definitions can be read off the texts that create their tables; what an index is about can be
    read off the text that creates it. Between the double quotes of these texts stand just the names. -/
theorem schema_texts_unambiguous (tUsable : t.validate = .ok ()) (uUsable : u.validate = .ok ()) :
    (t.createTableText = u.createTableText ↔ t = u) ∧
    (t.createScanIndexText = u.createScanIndexText ↔
      t.name = u.name ∧ t.keyNames = u.keyNames ∧ t.heightColumn = u.heightColumn) ∧
    Text.quotedNames t.createTableText = t.name :: t.columnNames ∧
    Text.quotedNames t.createScanIndexText =
      t.scanIndexName :: t.name :: (t.keyNames ++ [t.heightColumn]) := by
  rw [validate_eq_ok_iff] at tUsable uUsable
  refine ⟨⟨fun same => ?_, congrArg createTableText⟩, ⟨fun same => ?_, fun same => ?_⟩, ?_, ?_⟩
  · have cut := congrArg Text.cutAtQuotes same
    rw [tUsable.cut_createTableText, uUsable.cut_createTableText] at cut
    exact tableNames_inj.1 (Text.pieces_inj cut).2
  · have cut := congrArg Text.cutAtQuotes same
    rw [tUsable.cut_createScanIndexText, uUsable.cut_createScanIndexText] at cut
    exact indexNames_inj.1 (Text.pieces_inj cut).2
  · rw [createScanIndexText_eq, createScanIndexText_eq, indexNames_inj.2 same]
  · rw [Text.quotedNames, tUsable.cut_createTableText, Text.oddPositions_pieces, map_fst_tableNames]
  · rw [Text.quotedNames, tUsable.cut_createScanIndexText, Text.oddPositions_pieces,
      map_fst_indexNames]

theorem schema_texts_unambiguous_holding :
    let holding : Table := { name := "holding", keys := [⟨"account", .integer⟩, ⟨"asset", .text⟩] }
    let bytes : Table := { name := "holding", keys := [⟨"account", .integer⟩, ⟨"asset", .blob⟩] }
    holding.createTableText ≠ bytes.createTableText ∧
    holding.createScanIndexText = bytes.createScanIndexText ∧
    Text.quotedNames holding.createTableText = ["holding", "account", "asset", "height", "latest"] ∧
    Text.quotedNames holding.createScanIndexText =
      ["holding_trim_idx", "holding", "account", "asset", "height"] := by
  intro holding bytes
  have valid : holding.validate = .ok () := validate_eq (by decide) (by decide) (by decide)
  have bytesValid : bytes.validate = .ok () := validate_eq (by decide) (by decide) (by decide)
  obtain ⟨table, index, tableNames, indexNames⟩ :=
    schema_texts_unambiguous valid bytesValid
  exact ⟨fun same => absurd (table.1 same) (by decide), index.2 ⟨rfl, rfl, rfl⟩, tableNames, indexNames⟩

end Table

end HistoryTrim
