import HistoryTrim.Database.Insertion
import HistoryTrim.Database.Route
import HistoryTrim.Database.Written
import HistoryTrim.Trimmer

/-! # Height queries

The current height is read with a query that answers one value: a constant, a column of the first
row of a table, or the greatest or least value of a column. A missing value stands for an empty
chain, whose height is zero; an answer without any row is an error.
-/

namespace HistoryTrim.Database

/-- The value of a row that a height query asks for. -/
inductive HeightTerm where
  | constant (value : Cell)
  /-- A column; a quoted name that denotes none is a text. -/
  | column (name : String) (quoted : Bool)
  deriving Repr, DecidableEq

/-- Which of the values is the answer. -/
inductive HeightChoice where
  | first
  | greatest
  | least
  deriving Repr, DecidableEq

structure HeightQuery where
  choice : HeightChoice
  term : HeightTerm
  table : Option String
  deriving Repr, DecidableEq

namespace HeightQuery

/-- A number as it is written in a query. -/
def numberCell (n : Int) : Cell :=
  if fitsInt64 n then .integer (Int64.ofInt n) else .real (Text.nearestBinary64 n)

/-- A number with a point as it is written in a query. -/
def decimalCell (negative : Bool) (whole fraction : List Char) : Cell :=
  let magnitude : Rat := Text.digitsValue (whole ++ fraction) / (10 : Rat) ^ fraction.length
  .real (Text.nearestBinary64 (if negative then -magnitude else magnitude))

/-- The value asked for, and the words after it. -/
def takeTerm : List Token → Except EngineError (HeightTerm × List Token)
  | .number n :: rest => .ok (.constant (numberCell n), rest)
  | .symbol '-' :: .number n :: rest => .ok (.constant (numberCell (-(n : Int))), rest)
  | .decimal w f :: rest => .ok (.constant (decimalCell false w f), rest)
  | .symbol '-' :: .decimal w f :: rest => .ok (.constant (decimalCell true w f), rest)
  | .textLiteral s :: rest => .ok (.constant (.text s), rest)
  | .quotedName s :: rest => .ok (.column s true, rest)
  | .word s :: rest =>
    if Text.sameName s "null" then .ok (.constant .null, rest) else .ok (.column s false, rest)
  | t :: _ => .error (.syntaxError t.spelling)
  | [] => .error .incompleteInput

/-- The value asked for, with the choice among the values of several rows. -/
def takeChoice : List Token → Except EngineError (HeightChoice × HeightTerm × List Token)
  | t :: .symbol '(' :: rest => do
    let choice ←
      if t.isKeyword "max" then .ok HeightChoice.greatest
      else if t.isKeyword "min" then .ok HeightChoice.least
      else .error (.syntaxError "(")
    let (term, rest) ← takeTerm rest
    match rest with
    | .symbol ')' :: rest => return (choice, term, rest)
    | t :: _ => throw (.syntaxError t.spelling)
    | [] => throw .incompleteInput
  | tokens => do
    let (term, rest) ← takeTerm tokens
    return (.first, term, rest)

/-- The table that is read, if one is named, up to the end of the query. -/
def takeTable : List Token → Except EngineError (Option String)
  | [] => .ok none
  | [.symbol ';'] => .ok none
  | t :: rest =>
    if t.isKeyword "from" then
      match rest with
      | [.word s] => .ok (some s)
      | [.quotedName s] => .ok (some s)
      | [.word s, .symbol ';'] => .ok (some s)
      | [.quotedName s, .symbol ';'] => .ok (some s)
      | [] => .error .incompleteInput
      | [t] => .error (.syntaxError t.spelling)
      | _ :: t :: _ => .error (.syntaxError t.spelling)
    else .error (.syntaxError t.spelling)

/-- The query that a text is; a text without any words is no query. -/
def read (text : String) : Except EngineError (Option HeightQuery) :=
  match Token.read text.toList with
  | none => .error .incompleteInput
  | some [] => .ok none
  | some (t :: rest) =>
    if t.isKeyword "select" then do
      let (choice, term, rest) ← takeChoice rest
      let table ← takeTable rest
      return some { choice, term, table }
    else .error (.syntaxError t.spelling)

/-- The values of the rows that a query reads, in their order. -/
def values (q : HeightQuery) (db : Database) : Except EngineError (List Cell) :=
  match q.table with
  | none =>
    match q.term with
    | .constant c => .ok [c]
    | .column name quoted =>
      if quoted then .ok [.text name] else .error (.noSuchColumn name)
  | some table =>
    match db.find? table with
    | none => .error (.noSuchTable table)
    | some rel =>
      match q.term with
      | .constant c => .ok (rel.records.map fun _ => c)
      | .column name quoted =>
        match rel.source? name with
        | some s => .ok (((rel.route [] [s]).visit rel.records).map s.cell)
        | none =>
          if quoted then .ok (rel.records.map fun _ => .text name)
          else .error (.noSuchColumn name)

/-- The one of two values that comes later in the order; a missing value never does. -/
def greater (a b : Cell) : Cell := if (compare a b).isLT then b else a

/-- The one of two values that comes earlier in the order, unless it is missing. -/
def less (a b : Cell) : Cell :=
  if a = .null then b else if b = .null then a else if (compare b a).isLT then b else a

/-- The answer of a query; nothing if it has no row. -/
def answer (choice : HeightChoice) (values : List Cell) : Option Cell :=
  match choice with
  | .first => values.head?
  | .greatest => some (values.foldl greater .null)
  | .least => some (values.foldl less .null)

end HeightQuery

/-- Read the answer of a height query. -/
def readHeight : Option Cell → Except DatabaseError Height
  | none => .error .noRow
  | some .null => .ok 0
  | some (.integer n) => .ok n
  | some c => .error (.mismatch 0 .optionalInteger c.storageClass)

/-- The current height by a query. -/
def currentHeight (db : Database) (query : String) : Except DatabaseError Height :=
  match HeightQuery.read query with
  | .error e => .error (.engine e)
  | .ok none => .error .noRow
  | .ok (some q) =>
    match q.values db with
    | .error e => .error (.engine e)
    | .ok values => readHeight (HeightQuery.answer q.choice values)

/-- The current height by a query, with the depth of a rollback there. -/
def heightSource (db : Database) (query : String) (depth : Height) : HeightSource where
  current := (db.currentHeight query).mapError .database
  depth := depth

/-- The plan of a table of block heights. -/
def blockPlan : TablePlan where
  name := "block"
  columns := [{ name := "height", declared := "INTEGER" }]

/-- Add heights to the table of blocks, which is created if it is missing. -/
def addBlocks (db : Database) (heights : List Height) : Except EngineError Database := do
  let db ← db.createTable true blockPlan
  db.insert blockPlan.name ["height"] (heights.map fun h => [.integer h])

end HistoryTrim.Database
