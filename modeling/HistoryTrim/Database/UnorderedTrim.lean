import HistoryTrim.Database.Relation
import HistoryTrim.RowSelector
import HistoryTrim.Store

/-! # Unordered trims of relations

One statement deletes all obsolete rows. A row below the trim height that is not latest goes when
its key has neither a latest row nor one in the window, or when a newer row of its key within
reach stands in for it. Within the statement the other rows of the table go by the name `b`: in a
table of that very name the row in question cannot be told from them.
-/

namespace HistoryTrim.Database

/-- Name of the other rows of the table within the statement. -/
def otherRowsName : String := "b"

/-- How deeply the condition on a row that keeps a key alive nests, for so many key columns. -/
def aliveDepth (keys : Nat) : Nat := max (keys + 2) 4 + 1

/-- How deeply the condition on a row that stands in for another one nests. -/
def supersededDepth (keys : Nat) (retained : Bool) : Nat := keys + 4 + (if retained then 1 else 0)

/-- How deeply the whole condition of the statement nests. -/
def conditionDepth (keys : Nat) (retained : Bool) : Nat :=
  max (aliveDepth keys + 2) (supersededDepth keys retained + 1) + 2

/-- A condition may nest no deeper than the limit. -/
def checkDepth (depth : Nat) : Except EngineError Unit :=
  if EngineError.depthLimit < depth then .error .expressionTooDeep else .ok ()

/-- Where an unordered trim finds its columns in a relation. -/
structure TrimColumns where
  keys : List Source
  height : Source
  latest : Source

namespace Relation

/-- The column of a qualified name, which has to exist. -/
def qualified (rel : Relation) (qualifier name : String) : Except EngineError Source :=
  match rel.source? name with
  | some s => .ok s
  | none => .error (.noSuchColumn s!"{qualifier}.{name}")

/-- The columns of qualified names. -/
def qualifiedAll (rel : Relation) (qualifier : String) :
    List String → Except EngineError (List Source)
  | [] => .ok []
  | name :: names => do
    let s ← rel.qualified qualifier name
    let rest ← rel.qualifiedAll qualifier names
    return s :: rest

/-- Where a definition finds its columns; the first name that denotes none is the error. A condition
    on other rows nests within the whole one, and is refused before its names are looked up. -/
def trimColumns (rel : Relation) (t : Table) (retained : Bool) :
    Except EngineError TrimColumns := do
  let depth := conditionDepth t.keys.length retained
  let height ← rel.qualified t.name t.heightColumn
  let latest ← rel.qualified t.name t.latestColumn
  checkDepth (depth + aliveDepth t.keys.length)
  let keys ← rel.qualifiedAll otherRowsName t.keyNames
  checkDepth (depth + supersededDepth t.keys.length retained)
  return { keys, height, latest }

end Relation

/-- How a trim without an order sees the rows of a table. -/
structure TrimView where
  columns : TrimColumns
  rule : RetentionRule
  /-- The table is named like the other rows in the statement. -/
  captured : Bool

namespace TrimView

def below (v : TrimView) (r : Record) : Bool :=
  v.columns.height.holds Ordering.isLT r v.rule.trimHeight

/-- The row is not at the retained height, if there is one. -/
def apart (v : TrimView) (r : Record) : Bool :=
  v.rule.retained.all fun h => v.columns.height.holds Ordering.isNe r h

/-- The two rows have the same key; missing values are the same. -/
def sameKey (v : TrimView) (b r : Record) : Bool :=
  v.captured || v.columns.keys.all fun s => (s.cell b).same (s.cell r)

/-- The row keeps its key alive: it is latest or lies in the window. -/
def alive (v : TrimView) (b : Record) : Bool :=
  v.columns.latest.holds Ordering.isNe b 0 ||
    v.columns.height.holds Ordering.isGE b v.rule.trimHeight

/-- The row stands in for an older one within reach of the trim. -/
def supersedes (v : TrimView) (b r : Record) : Bool :=
  v.below b &&
    (v.columns.height.cell b).holds Ordering.isGT
      (v.columns.height.cell (if v.captured then b else r)) &&
    v.apart b

def isDoomed (v : TrimView) (records : List Record) (r : Record) : Bool :=
  v.below r && v.columns.latest.holds (· == .eq) r 0 && v.apart r &&
    (!records.any (fun b => v.sameKey b r && v.alive b) ||
      records.any fun b => v.sameKey b r && v.supersedes b r)

end TrimView

/-- Trim a table with one statement. -/
def trimUnordered (db : Database) (t : Table) (rule : RetentionRule) :
    Except StoreError Nat × Database :=
  let fail (e : EngineError) := (Except.error (.database (.engine e)), db)
  match t.validate with
  | .error e => (.error (.invalidTable e), db)
  | .ok () =>
    match checkDepth (conditionDepth t.keys.length rule.retained.isSome) with
    | .error e => fail e
    | .ok () =>
      match db.find? t.name with
      | none => fail (.noSuchTable t.name)
      | some rel =>
        match rel.trimColumns t rule.retained.isSome with
        | .error e => fail e
        | .ok columns =>
          if !db.writable then fail .readOnly
          else
            let view : TrimView :=
              { columns, rule, captured := Text.sameName t.name otherRowsName }
            let rest := rel.keep fun r => !view.isDoomed rel.records r
            (.ok (rel.records.length - rest.records.length), db.replace t.name rest)

theorem trimUnordered_cases (db : Database) (t : Table) (rule : RetentionRule) :
    (∃ e, db.trimUnordered t rule = (.error e, db)) ∨
      ∃ rel columns, db.find? t.name = some rel ∧
        rel.trimColumns t rule.retained.isSome = .ok columns ∧ db.writable = true ∧
        let view : TrimView := { columns, rule, captured := Text.sameName t.name otherRowsName }
        let rest := rel.keep fun r => !view.isDoomed rel.records r
        db.trimUnordered t rule =
          (.ok (rel.records.length - rest.records.length), db.replace t.name rest) := by
  unfold trimUnordered
  cases t.validate with
  | error e => exact .inl ⟨_, rfl⟩
  | ok =>
      cases checkDepth (conditionDepth t.keys.length rule.retained.isSome) with
      | error e => exact .inl ⟨_, rfl⟩
      | ok =>
          cases found : db.find? t.name with
          | none => exact .inl ⟨_, rfl⟩
          | some rel =>
              cases columnsFound : rel.trimColumns t rule.retained.isSome with
              | error e =>
                  simp only [columnsFound]
                  exact .inl ⟨_, rfl⟩
              | ok columns =>
                  simp only [columnsFound]
                  cases writable : db.writable with
                  | false => exact .inl ⟨_, rfl⟩
                  | true => exact .inr ⟨rel, columns, rfl, columnsFound, rfl, rfl⟩

end HistoryTrim.Database
