import HistoryTrim.Database.Error
import HistoryTrim.RowSelector
import HistoryTrim.Table.Schema

/-! # Stores

What a trim needs of a store, what a store tells about its tables, and why it may fail.
-/

/-! ## Store errors

Why a store could not do what a trim asked of it.
-/

namespace HistoryTrim

inductive StoreError where
  /-- The database answered with an error. -/
  | database (cause : Database.DatabaseError)
  /-- The table definition is not usable. -/
  | invalidTable (cause : DefinitionError)
  | unknownTable (table : String)
  /-- Batches cannot be resumed, because the leading key is not an integer. -/
  | nonIntegerLeadingKey (table column : String)
  | unavailable (reason : String)
  deriving Repr, DecidableEq

namespace StoreError

def message : StoreError → String
  | database e => s!"Database error: {e.message}"
  | invalidTable e => s!"Invalid table definition: {e.message}"
  | unknownTable t => s!"Unknown table {t}"
  | nonIntegerLeadingKey t c =>
    s!"Table {t}: leading key column {c} is not a 64-bit integer"
  | unavailable reason => s!"Storage unavailable: {reason}"

end StoreError

/-! ## Catalogs

What a store tells about its tables: the types of their columns and their indexes.
-/

structure IndexColumn where
  name : String
  descending : Bool
  deriving Repr, DecidableEq

namespace IndexColumn

def asc (name : String) : IndexColumn := ⟨name, false⟩

def desc (name : String) : IndexColumn := ⟨name, true⟩

end IndexColumn

/-- An index that covers every row of its table. -/
structure Index where
  name : String
  columns : List IndexColumn
  deriving Repr, DecidableEq

/-- The columns and indexes of a store, either of which may be out of reach. -/
structure Catalog where
  /-- Type of a column of a table; nothing when there is no such column. -/
  columnType : String → String → Except StoreError (Option ColumnType)
  /-- Indexes of a table, in the order of the catalog. -/
  indexes : String → Except StoreError (List Index)

/-- The index that the ordered scan of a table needs. -/
def Table.scanIndexNamed (t : Table) (name : String) : Index :=
  ⟨name, t.keyNames.map IndexColumn.asc ++ [IndexColumn.desc t.heightColumn]⟩

/-! ## Version stores

What a trim needs of a store: its catalog, one committed batch of an ordered trim, and a trim that
needs no order. A batch that reports so many deleted rows has made its table smaller by as many,
which is what ends a run of batches.
-/

/-- Result of a batch. -/
structure Batch (σ : Type) where
  /-- Number of deleted rows; on an error the rows are untouched. -/
  outcome : Except StoreError Nat
  selector : RowSelector
  store : σ

/-- A store of versioned tables. -/
class VersionStore (σ : Type) where
  catalog : σ → Catalog
  /-- Delete the rows that the selector picks, from its marker on and up to a limit. -/
  deleteBatch : σ → Table → RowSelector → Option Nat → Batch σ
  /-- Delete the obsolete rows without using an order. -/
  trimUnordered : σ → Table → RetentionRule → Except StoreError Nat × σ
  population : σ → Table → Nat
  population_deleteBatch : ∀ (s : σ) (t : Table) (selector : RowSelector) (limit : Option Nat)
    (n : Nat), (deleteBatch s t selector limit).outcome = .ok n →
      population (deleteBatch s t selector limit).store t + n ≤ population s t

end HistoryTrim
