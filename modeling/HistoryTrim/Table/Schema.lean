import HistoryTrim.Text.Characters

/-! # Versioned tables

The types of columns, what a definition of a table has to be like, and the statements that create
the table and the index of its ordered scan.
-/

/-! ## Column types

A column has one of five storage types. A declared type is free text, and the type it stands for
is read off the words that occur in it.
-/

namespace HistoryTrim

/-- Storage type of a column. -/
inductive ColumnType where
  /-- 64-bit signed integers. -/
  | integer
  /-- Text, ordered by code point. -/
  | text
  /-- Bytes, kept as they are given. -/
  | blob
  /-- Floating point numbers. -/
  | real
  /-- Whatever number the text of a value denotes. -/
  | numeric
  deriving Repr, DecidableEq

namespace ColumnType

/-- Words that decide a declared type, in the order in which they are looked for. -/
def words : List (String × ColumnType) :=
  [("INT", .integer), ("CHAR", .text), ("CLOB", .text), ("TEXT", .text), ("BLOB", .blob),
   ("REAL", .real), ("FLOA", .real), ("DOUB", .real)]

/-- The type a declared type stands for: that of the first word that occurs in it, whatever the
    case of its letters. An empty declaration means bytes, any other text a number. -/
def ofDeclared (declared : String) : ColumnType :=
  let cs := (Text.upperAscii declared).toList
  if cs.isEmpty then .blob
  else match words.find? fun w => Text.occursIn w.1.toList cs with
    | some w => w.2
    | none => .numeric

/-- The name under which a type is declared. -/
def sqlName : ColumnType → String
  | integer => "INTEGER"
  | text => "TEXT"
  | blob => "BLOB"
  | real => "REAL"
  | numeric => "NUMERIC"

end ColumnType

/-! ## Table definitions

A versioned table has a name, one or more key columns, a column for the height and one for the
latest flag. A definition is usable when its names are plain identifiers and no column is named
twice.
-/

structure KeyColumn where
  name : String
  type : ColumnType
  deriving Repr, DecidableEq

/-- Shape of a versioned table. -/
structure Table where
  name : String
  /-- Key columns, the leading one first. -/
  keys : List KeyColumn
  heightColumn : String := "height"
  latestColumn : String := "latest"
  deriving Repr, DecidableEq

inductive DefinitionError where
  /-- There is no key column. -/
  | noKeyColumns (table : String)
  /-- A name is not a plain identifier. -/
  | invalidIdentifier (name : String)
  /-- A column is named a second time. -/
  | duplicateColumn (table column : String)
  deriving Repr, DecidableEq

namespace DefinitionError

def message : DefinitionError → String
  | noKeyColumns table => s!"Table {table} has no key columns"
  | invalidIdentifier name => s!"Invalid identifier '{name}'"
  | duplicateColumn table column => s!"Column '{column}' is used more than once in table {table}"

end DefinitionError

/-- The first element of a list that equals an earlier one. -/
def firstRepeated? (seen : List String) : List String → Option String
  | [] => none
  | x :: xs => if x ∈ seen then some x else firstRepeated? (x :: seen) xs

namespace Table

def keyNames (t : Table) : List String := t.keys.map KeyColumn.name

/-- Names of all columns: keys, height, latest flag. -/
def columnNames (t : Table) : List String := t.keyNames ++ [t.heightColumn, t.latestColumn]

/-- Check a definition: first that there is a key, then the names in order, then repetitions. -/
def validate (t : Table) : Except DefinitionError Unit :=
  if t.keys.isEmpty then .error (.noKeyColumns t.name)
  else match (t.name :: t.columnNames).find? fun n => !Text.isIdentifier n with
    | some n => .error (.invalidIdentifier n)
    | none =>
      match firstRepeated? [] t.columnNames with
      | some c => .error (.duplicateColumn t.name c)
      | none => .ok ()

end Table

end HistoryTrim

/-! ## Table schema texts

The statements that create a versioned table and the index its ordered scan needs. Names stand
between double quotes; the payload of a row is an opaque column of its own.
-/

namespace HistoryTrim.Table

def quoteName (name : String) : String := "\"" ++ name ++ "\""

def scanIndexName (t : Table) : String := t.name ++ "_trim_idx"

/-- Column of the payload that every created table has. -/
def payloadColumn : String := "payload"

def columnDefinitions (t : Table) : List String :=
  t.keys.map (fun c => quoteName c.name ++ " " ++ c.type.sqlName ++ " NOT NULL") ++
    [quoteName t.heightColumn ++ " INTEGER NOT NULL",
     quoteName t.latestColumn ++ " BOOLEAN NOT NULL DEFAULT 1",
     payloadColumn ++ " BLOB"]

/-- The statement that creates the table unless it exists. -/
def createTableText (t : Table) : String :=
  "CREATE TABLE IF NOT EXISTS " ++ quoteName t.name ++
    " (" ++ ", ".intercalate t.columnDefinitions ++ ")"

/-- The columns of the scan index: keys ascending, then the height descending. -/
def scanIndexTerms (t : Table) : List String :=
  t.keyNames.map (quoteName · ++ " ASC") ++ [quoteName t.heightColumn ++ " DESC"]

/-- The statement that creates the scan index unless it exists. -/
def createScanIndexText (t : Table) : String :=
  "CREATE INDEX IF NOT EXISTS " ++ quoteName t.scanIndexName ++ " ON " ++ quoteName t.name ++
    " (" ++ ", ".intercalate t.scanIndexTerms ++ ")"

end HistoryTrim.Table
