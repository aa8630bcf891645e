import HistoryTrim.Database.Creation
import HistoryTrim.Text.Characters
import HistoryTrim.Text.Number

/-! # Written definitions

The words of a statement, and the parts of definitions that are read from them.
-/

/-! ## Words of statements

The few texts of statements that are given from outside are split into words: names, quoted names,
texts, numbers and single symbols, with blanks between them.
-/

namespace HistoryTrim.Database

/-- A word of a statement. -/
inductive Token where
  /-- A keyword or a plain name. -/
  | word (text : String)
  /-- A name between double quotes. -/
  | quotedName (text : String)
  /-- A text between single quotes. -/
  | textLiteral (text : String)
  | number (value : Nat)
  | decimal (whole fraction : List Char)
  | symbol (char : Char)
  deriving Repr, DecidableEq

namespace Token

/-- The word as it is written, for messages. -/
def spelling : Token → String
  | word s => s
  | quotedName s => "\"" ++ s ++ "\""
  | textLiteral s => "'" ++ s ++ "'"
  | number n => toString n
  | decimal whole fraction => String.ofList (whole ++ '.' :: fraction)
  | symbol c => c.toString

/-- The token is a keyword, whatever the case of its letters. -/
def isKeyword (t : Token) (keyword : String) : Bool :=
  match t with
  | word s => Text.sameName s keyword
  | _ => false

/-- Split a text into tokens; nothing if a quote is not closed. -/
def read (cs : List Char) : Option (List Token) :=
  match cs with
  | [] => some []
  | c :: rest =>
    if Text.isNumberBlank c then read rest
    else if Text.isNameStart c then do
      let tokens ← read (rest.dropWhile Text.isNameRest)
      return .word (String.ofList (c :: rest.takeWhile Text.isNameRest)) :: tokens
    else if c.isDigit then
      let whole := c :: rest.takeWhile Char.isDigit
      match _h : rest.dropWhile Char.isDigit with
      | '.' :: after => do
        let tokens ← read (after.dropWhile Char.isDigit)
        return .decimal whole (after.takeWhile Char.isDigit) :: tokens
      | after => do
        let tokens ← read after
        return .number (Text.digitsValue whole) :: tokens
    else if c = '"' ∨ c = '\'' then
      match _h : rest.dropWhile (· != c) with
      | [] => none
      | _ :: after => do
        let inner := String.ofList (rest.takeWhile (· != c))
        let tokens ← read after
        return (if c = '"' then .quotedName inner else .textLiteral inner) :: tokens
    else do
      let tokens ← read rest
      return .symbol c :: tokens
termination_by cs.length
decreasing_by
  · simp
  · exact Nat.lt_succ_of_le (List.dropWhile_sublist _).length_le
  · have hle := (List.dropWhile_sublist Char.isDigit (l := rest)).length_le
    have hafter := (List.dropWhile_sublist Char.isDigit (l := after)).length_le
    rw [_h] at hle
    simp only [List.length_cons] at hle ⊢
    omega
  · have hle := (List.dropWhile_sublist Char.isDigit (l := rest)).length_le
    rw [_h] at hle
    simp only [List.length_cons] at hle ⊢
    omega
  · have hle := (List.dropWhile_sublist (· != c) (l := rest)).length_le
    rw [_h] at hle
    simp only [List.length_cons] at hle ⊢
    omega
  · simp

end Token

/-! ## Written parts of definitions

Keys, declared types and conditions of indexes are given as they stand in a statement, and are
read here.
-/

/-- The words of a text; a quote that is not closed is an error. -/
def wordsOf (text : String) : Except EngineError (List Token) :=
  match Token.read text.toList with
  | some tokens => .ok tokens
  | none => .error .incompleteInput

namespace KeyPlan

/-- The direction after a column; ascending if none is written. -/
def takeDirection : List Token → Bool × List Token
  | [] => (false, [])
  | t :: rest =>
    if t.isKeyword "desc" then (true, rest)
    else if t.isKeyword "asc" then (false, rest)
    else (false, t :: rest)

/-- A column of a key with its direction. -/
def takeColumn : List Token → Except EngineError ((WrittenName × Bool) × List Token)
  | [] => .error .incompleteInput
  | .word s :: rest => let (d, rest) := takeDirection rest; .ok ((⟨s, false⟩, d), rest)
  | .quotedName s :: rest => let (d, rest) := takeDirection rest; .ok ((⟨s, true⟩, d), rest)
  | t :: _ => .error (.syntaxError t.spelling)

/-- Columns up to the closing bracket; there are at most as many as words. -/
def takeColumns : Nat → List Token →
    Except EngineError (List (WrittenName × Bool) × List Token)
  | 0, _ => .error .incompleteInput
  | fuel + 1, tokens => do
    let (column, rest) ← takeColumn tokens
    match rest with
    | .symbol ')' :: rest => return ([column], rest)
    | .symbol ',' :: rest =>
      let (columns, rest) ← takeColumns fuel rest
      return (column :: columns, rest)
    | t :: _ => throw (.syntaxError t.spelling)
    | [] => throw .incompleteInput

/-- A key: unique columns, or those of the primary key. -/
def takeKey : List Token → Except EngineError (KeyPlan × List Token)
  | [] => .error .incompleteInput
  | [t] => .error (.syntaxError t.spelling)
  | t :: u :: rest =>
    if t.isKeyword "unique" && u == .symbol '(' then do
      let (columns, rest) ← takeColumns rest.length rest
      return ({ primary := false, columns }, rest)
    else if t.isKeyword "primary" && u.isKeyword "key" then
      match rest with
      | .symbol '(' :: rest => do
        let (columns, rest) ← takeColumns rest.length rest
        return ({ primary := true, columns }, rest)
      | t :: _ => .error (.syntaxError t.spelling)
      | [] => .error .incompleteInput
    else .error (.syntaxError t.spelling)

/-- Keys separated by commas. -/
def takeKeys : Nat → List Token → Except EngineError (List KeyPlan)
  | 0, _ => .error .incompleteInput
  | fuel + 1, tokens => do
    let (key, rest) ← takeKey tokens
    match rest with
    | [] => return [key]
    | .symbol ',' :: rest =>
      let keys ← takeKeys fuel rest
      return key :: keys
    | t :: _ => throw (.syntaxError t.spelling)

/-- The keys that a text lists. -/
def readAll (text : String) : Except EngineError (List KeyPlan) := do
  let tokens ← wordsOf text
  takeKeys tokens.length tokens

end KeyPlan

namespace Column

/-- Words that begin what is said of a column beside its type. -/
def isClause (t : Token) : Bool :=
  ["not", "null", "primary", "unique", "default", "check", "collate", "references",
    "constraint"].any t.isKeyword

/-- What is said of a column beside its type: whether a value is required, and its own keys. Words
    that say anything else are passed over. -/
def clauses (name : WrittenName) : List Token → Bool × List KeyPlan
  | t :: u :: rest =>
    if t.isKeyword "not" && u.isKeyword "null" then (true, (clauses name rest).2)
    else if t.isKeyword "primary" && u.isKeyword "key" then
      let (required, keys) := clauses name rest
      (required, { primary := true, columns := [(name, false)] } :: keys)
    else if t.isKeyword "unique" then
      let (required, keys) := clauses name (u :: rest)
      (required, { primary := false, columns := [(name, false)] } :: keys)
    else clauses name (u :: rest)
  | [t] =>
    if t.isKeyword "unique" then (false, [{ primary := false, columns := [(name, false)] }])
    else (false, [])
  | [] => (false, [])

/-- A column with a declared type and what is said of it. -/
def read (name declared : String) : Except EngineError (Column × List KeyPlan) := do
  let tokens ← wordsOf declared
  let (notNull, keys) := clauses ⟨name, true⟩ (tokens.dropWhile fun t => !isClause t)
  if !tokens.any isClause then return ({ name, declared }, [])
  else
    let type := (tokens.takeWhile fun t => !isClause t).map Token.spelling
    return ({ name, declared := " ".intercalate type, notNull }, keys)

end Column

namespace Summand

/-- A written sum of numbers and columns; nothing for any other expression. -/
def read? : List Token → Option (List (Summand WrittenName))
  | [t] => (operand false t).map ([·])
  | .symbol '-' :: t :: rest => do
    let first ← operand true t
    return first :: (← further rest)
  | t :: rest => do
    let first ← operand false t
    return first :: (← further rest)
  | [] => none
where
  /-- A number or a column. -/
  operand (subtracted : Bool) : Token → Option (Summand WrittenName)
    | .number n => some (.number (if subtracted then -(n : Int) else n))
    | .word s => some (.column subtracted ⟨s, false⟩)
    | .quotedName s => some (.column subtracted ⟨s, true⟩)
    | _ => none
  /-- What follows the first part of a sum. -/
  further : List Token → Option (List (Summand WrittenName))
    | [] => some []
    | .symbol '+' :: t :: rest => do
      let next ← operand false t
      return next :: (← further rest)
    | .symbol '-' :: t :: rest => do
      let next ← operand true t
      return next :: (← further rest)
    | _ => none

end Summand

/-- A written expression of an index. -/
def IndexPart.readExpression (text : String) : IndexPart :=
  .expression ((Token.read text.toList).bind Summand.read?) false

namespace WrittenCondition

/-- What a comparison sign tests. -/
def testOf? : List Char → Option (Ordering → Bool)
  | ['='] => some (· == .eq)
  | ['=', '='] => some (· == .eq)
  | ['<'] => some Ordering.isLT
  | ['<', '='] => some Ordering.isLE
  | ['>'] => some Ordering.isGT
  | ['>', '='] => some Ordering.isGE
  | ['<', '>'] => some Ordering.isNe
  | ['!', '='] => some Ordering.isNe
  | _ => none

/-- The symbols a list of words begins with. -/
def takeSymbols : List Token → List Char × List Token
  | .symbol c :: rest => let (cs, rest) := takeSymbols rest; (c :: cs, rest)
  | tokens => ([], tokens)

/-- A comparison of a column with a number; nothing for any other condition. -/
def read? (text : String) : Option WrittenCondition := do
  let tokens ← Token.read text.toList
  let (column, rest) ←
    match tokens with
    | .word s :: rest => some (WrittenName.mk s false, rest)
    | .quotedName s :: rest => some (WrittenName.mk s true, rest)
    | _ => none
  let (symbols, rest) := takeSymbols rest
  let test ← testOf? symbols
  match rest with
  | [.number n] => return { column, test, value := Int64.ofNat n }
  | _ => none

end WrittenCondition

namespace TablePlan

/-- The plan of a table from written columns, keys and the words after the closing bracket. -/
def read (name : String) (columns : List (String × String)) (keys tail : String) :
    Except EngineError TablePlan := do
  let read ← columns.mapM fun c => Column.read c.1 c.2
  let columns := read.map Prod.fst
  let further ← if (← wordsOf keys).isEmpty then .ok [] else KeyPlan.readAll keys
  let keys := read.flatMap Prod.snd ++ further
  match ← wordsOf tail with
  | [] => return { name, columns, keys }
  | [t, u] =>
    if t.isKeyword "without" && u.isKeyword "rowid" then
      return { name, columns, keys, numbered := false }
    else throw (.syntaxError t.spelling)
  | t :: _ => throw (.syntaxError t.spelling)

end TablePlan

/-- Create indexes on a table, one after the other; those before an error stay. -/
def createIndexes (db : Database) (table : String) :
    List IndexPlan → Except EngineError Unit × Database
  | [] => (.ok (), db)
  | p :: ps =>
    match db.createIndex false table p with
    | .error e => (.error e, db)
    | .ok db => createIndexes db table ps

end HistoryTrim.Database
