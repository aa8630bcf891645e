import HistoryTrim.Database.Cell
import HistoryTrim.Text.Quoted

/-! # Database errors

What can go wrong when a statement is prepared, run or read, each cause with its wording.
-/

namespace HistoryTrim.Database

/-- Why a statement could not be prepared or run. -/
inductive EngineError where
  | noSuchTable (table : String)
  /-- A table is asked like a function, whose name it has taken. -/
  | noFunction (name : String)
  /-- A name that denotes no column; a qualified one is spelled with its table. -/
  | noSuchColumn (name : String)
  /-- A statement writes to a column that the table does not have. -/
  | noColumnInTable (table column : String)
  | duplicateColumn (column : String)
  | tooManyColumns (table : String)
  | tableExists (table : String)
  | indexExists (index : String)
  /-- A table would get the name of an index. -/
  | nameOfIndex (name : String)
  /-- An index would get the name of a table. -/
  | nameOfTable (name : String)
  /-- The name is kept for the database itself. -/
  | reservedName (name : String)
  /-- A table ordered by its primary key has none. -/
  | primaryKeyMissing (table : String)
  | primaryKeyRepeated (table : String)
  /-- A key has something other than columns. -/
  | computedKey
  /-- A condition nests too deeply. -/
  | expressionTooDeep
  /-- A statement cannot be read at a word. -/
  | syntaxError (word : String)
  | incompleteInput
  /-- A value is missing in a column that requires one. -/
  | notNull (table column : String)
  /-- A row equals another one in all columns of a key. -/
  | notUnique (table : String) (columns : List String) (primary : Bool)
  /-- The number of a row is no integer. -/
  | datatypeMismatch
  /-- A row equals another one under an index on expressions. -/
  | notUniqueUnder (index : String)
  | readOnly
  | cannotOpen
  /-- There is no way of this name to reach files. -/
  | noSuchFileSystem (name : String)
  /-- An address names another machine. -/
  | invalidAuthority (name : String)
  deriving Repr, DecidableEq

namespace EngineError

/-- The number that stands for the kind of an error. -/
def code : EngineError → Nat
  | notNull .. => 1299
  | notUnique _ _ primary => if primary then 1555 else 2067
  | notUniqueUnder _ => 2067
  | readOnly => 8
  | datatypeMismatch => 20
  | cannotOpen => 14
  | _ => 1

/-- Depth to which the conditions of a statement may nest. -/
def depthLimit : Nat := 1000

def text : EngineError → String
  | noSuchTable t => s!"no such table: {t}"
  | noFunction n => s!"'{n}' is not a function"
  | noSuchColumn n => s!"no such column: {n}"
  | noColumnInTable t c => s!"table {t} has no column named {c}"
  | duplicateColumn c => s!"duplicate column name: {c}"
  | tooManyColumns t => s!"too many columns on {t}"
  | tableExists t => s!"table \"{t}\" already exists"
  | indexExists i => s!"index {i} already exists"
  | nameOfIndex n => s!"there is already an index named {n}"
  | nameOfTable n => s!"there is already a table named {n}"
  | reservedName n => s!"object name reserved for internal use: {n}"
  | primaryKeyMissing t => s!"PRIMARY KEY missing on table {t}"
  | primaryKeyRepeated t => s!"table \"{t}\" has more than one primary key"
  | computedKey => "expressions prohibited in PRIMARY KEY and UNIQUE constraints"
  | datatypeMismatch => "datatype mismatch"
  | expressionTooDeep => s!"Expression tree is too large (maximum depth {depthLimit})"
  | syntaxError w => s!"near \"{w}\": syntax error"
  | incompleteInput => "incomplete input"
  | notNull t c => s!"NOT NULL constraint failed: {t}.{c}"
  | notUnique t cs _ =>
    "UNIQUE constraint failed: " ++ ", ".intercalate (cs.map fun c => s!"{t}.{c}")
  | notUniqueUnder i => s!"UNIQUE constraint failed: index '{i}'"
  | readOnly => "attempt to write a readonly database"
  | cannotOpen => "unable to open database file"
  | noSuchFileSystem n => s!"no such vfs: {n}"
  | invalidAuthority n => s!"invalid uri authority: {n}"

/-- The wording of an error with its number. -/
def numbered (e : EngineError) : String := s!"(code: {e.code}) {e.text}"

/-- The wording of an error as the database answers it. -/
def message (e : EngineError) : String := "error returned from database: " ++ e.numbered

end EngineError

/-- What a cell is read as. -/
inductive Reading where
  | integer
  /-- An integer that may be missing. -/
  | optionalInteger
  | truth
  | text
  | bytes
  deriving Repr, DecidableEq

namespace Reading

def typeName : Reading → String
  | integer => "i64"
  | optionalInteger => "core::option::Option<i64>"
  | truth => "bool"
  | text => "alloc::string::String"
  | bytes => "alloc::vec::Vec<u8>"

/-- Name of the column type that fits. -/
def columnType : Reading → String
  | integer => "INTEGER"
  | optionalInteger => "INTEGER"
  | truth => "BOOLEAN"
  | text => "TEXT"
  | bytes => "BLOB"

end Reading

namespace StorageClass

def sqlName : StorageClass → String
  | null => "NULL"
  | integer => "INTEGER"
  | real => "REAL"
  | text => "TEXT"
  | blob => "BLOB"

end StorageClass

/-- Why a statement has no answer. -/
inductive DatabaseError where
  /-- It could not be prepared or run. -/
  | engine (cause : EngineError)
  /-- A cell of an answer has a class that cannot be read as wanted. -/
  | mismatch (column : Nat) (wanted : Reading) (found : StorageClass)
  /-- The answer has no row. -/
  | noRow
  deriving Repr, DecidableEq

namespace DatabaseError

/-- The wording of a cell that cannot be read. -/
def mismatchText (wanted : Reading) (found : StorageClass) : String :=
  s!"mismatched types; Rust type `{wanted.typeName}` (as SQL type `{wanted.columnType}`) " ++
  s!"is not compatible with SQL type `{found.sqlName}`"

def message : DatabaseError → String
  | engine e => e.message
  | mismatch c w f => s!"error occurred while decoding column {c}: {mismatchText w f}"
  | noRow => "no rows returned by a query that expected to return at least one row"

/-- The form of a database error in which its parts are named. -/
def inspect : DatabaseError → String
  | engine e =>
    s!"Database(SqliteError \x7b code: {e.code}, message: {Text.quoted e.text} \x7d)"
  | mismatch c w f =>
    s!"ColumnDecode \x7b index: {Text.quoted (toString c)}, " ++
    s!"source: {Text.quoted (mismatchText w f)} \x7d"
  | noRow => "RowNotFound"

end DatabaseError

/-! ## What success tells

A sequence of steps succeeds just if every step does, and a guard lets on just what it does not refuse.
-/

section Success

variable {ε α β : Type}

theorem bind_eq_ok {x : Except ε α} {f : α → Except ε β} {b : β} :
    x >>= f = .ok b ↔ ∃ a, x = .ok a ∧ f a = .ok b := by
  cases x with
  | error e =>
      constructor
      · intro done
        cases done
      · rintro ⟨a, done, -⟩
        cases done
  | ok a =>
      constructor
      · intro done
        exact ⟨a, rfl, done⟩
      · rintro ⟨a', same, done⟩
        cases same
        exact done

theorem map_eq_ok {x : Except ε α} {f : α → β} {b : β} :
    x.map f = .ok b ↔ ∃ a, x = .ok a ∧ f a = b := by
  cases x <;> simp [Except.map]

theorem pure_eq_ok {a b : α} : (pure a : Except ε α) = .ok b ↔ a = b :=
  ⟨Except.ok.inj, congrArg Except.ok⟩

theorem guard_eq_ok {refused : Prop} [Decidable refused] {e : ε} {f : PUnit → Except ε α}
    {x : Except ε α} {b : α} :
    (if refused then throw e >>= f else x) = .ok b ↔ ¬ refused ∧ x = .ok b := by
  by_cases h : refused
  · rw [if_pos h]
    constructor
    · intro done
      cases done
    · rintro ⟨free, -⟩
      exact absurd h free
  · rw [if_neg h]
    exact ⟨fun done => ⟨h, done⟩, And.right⟩

end Success

end HistoryTrim.Database
