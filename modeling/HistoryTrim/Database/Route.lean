import HistoryTrim.Database.Relation

/-! # Routes

A query visits the rows of a table by their numbers or along an index. The route shows where rows
are equal in the order that is asked for: these stay in the order in which they were visited.
Whatever the route, every row is visited once.
-/

namespace HistoryTrim.Database

/-- A way to visit the rows of a relation: sorted by some of its columns, rows that agree in them
    by number, and all of it the other way round if the route leads backwards. -/
structure Route where
  order : List (Source × Bool)
  backwards : Bool
  deriving Repr, DecidableEq

namespace Route

/-- Rows by their numbers. -/
def byNumber : Route := ⟨[], false⟩

/-- The rows in the order of a route. -/
def visit (route : Route) (records : List Record) : List Record :=
  let forwards := Relation.sortBy route.order records
  if route.backwards then forwards.reverse else forwards

theorem visit_perm (route : Route) (records : List Record) :
    (route.visit records).Perm records := by
  have h : (Relation.sortBy route.order records).Perm records := List.mergeSort_perm ..
  unfold visit
  split
  · exact (List.reverse_perm _).trans h
  · exact h

end Route

namespace Relation

/-- What a term of an index orders by; nothing for what is computed. -/
def termSource (rel : Relation) : IndexTerm → Option Source × Bool
  | .column position descending =>
    (rel.columns[position]?.map fun c => .column position c.type, descending)
  | .expression _ descending => (none, descending)

/-- The columns of an index with their directions; computed terms are left out. -/
def indexOrder (rel : Relation) (i : RelationIndex) : List (Source × Bool) :=
  i.terms.filterMap fun t =>
    match rel.termSource t with
    | (some s, descending) => some (s, descending)
    | (none, _) => none

end Relation

/-- How many sources of an order the terms of an index follow, all in the direction that is asked
    for, or all in the other one if the index is walked backwards. -/
def followed (backwards : Bool) : List (Source × Bool) → List (Option Source × Bool) → Nat
  | (s, descending) :: order, t :: terms =>
    if t = (some s, descending != backwards) then followed backwards order terms + 1 else 0
  | _, _ => 0

/-- An index with these terms holds a source; what is no column is at hand in every index. -/
def holdsSource (terms : List (Option Source × Bool)) : Source → Bool
  | .column position type => terms.any fun t => t.1 = some (.column position type)
  | .rowid => true
  | .literal _ => true

/-- An index as it serves a query: which way it is walked, by how many sources its rows are left to
    be sorted, and whether it holds all that is asked for. -/
structure Candidate where
  index : RelationIndex
  backwards : Bool
  unsorted : Nat
  complete : Bool

namespace Candidate

/-- The cost of a candidate: first the sorting that is left, then the rows to look up, then the
    length of the index. -/
def cost (c : Candidate) : List Nat :=
  [c.unsorted, if c.complete then 0 else 1, c.index.terms.length]

/-- The cheapest of some candidates, the first of them if there are several. -/
def cheapest? (candidates : List Candidate) : Option Candidate :=
  (candidates.mergeSort fun a b => (compare a.cost b.cost).isLE).head?

end Candidate

namespace Relation

/-- The order in which the rows themselves are kept: by number, or by the primary key. -/
def ownRoute (rel : Relation) : Route :=
  if rel.numbered then ⟨(rel.numbering.map fun i => (.column i .integer, false)).toList, false⟩
  else
    match rel.indexes.find? RelationIndex.primary with
    | some i => ⟨rel.indexOrder i, false⟩
    | none => .byNumber

/-- The indexes that cover every row, as they serve a query that asks for some sources in an
    order. -/
def candidates (rel : Relation) (order : List (Source × Bool)) (asked : List Source) :
    List Candidate :=
  rel.indexes.filterMap fun i =>
    match i.coverage with
    | .onlyWhere _ => none
    | .everyRow =>
      let terms := i.terms.map rel.termSource
      let descending {α : Type} (terms : List (α × Bool)) : Bool := terms.head?.any Prod.snd
      let backwards := descending order != descending terms
      some
        { index := i
          backwards
          unsorted := order.length - followed backwards order terms
          complete := asked.all (holdsSource terms) }

/-- The route of a query that asks for some sources in an order, and for the rows from a value of
    the first of them on. It follows an index that leads with that source; if there is none, an
    index that holds all that is asked for and less than the rows do; else the rows themselves. -/
def route (rel : Relation) (order : List (Source × Bool)) (asked : List Source) : Route :=
  let candidates := rel.candidates order asked
  match Candidate.cheapest? (candidates.filter fun c => c.unsorted < order.length) with
  | some c => ⟨rel.indexOrder c.index, c.backwards⟩
  | none =>
    let smaller (c : Candidate) : Bool :=
      c.complete && decide (c.index.terms.length < rel.columns.length)
    match Candidate.cheapest? (candidates.filter smaller) with
    | some c => ⟨rel.indexOrder c.index, false⟩
    | none => rel.ownRoute

end Relation

end HistoryTrim.Database
