import HistoryTrim.Config.Value
import HistoryTrim.Text.Characters
import HistoryTrim.Text.Reader
import HistoryTrim.Text.Number

/-! # Environment variables

Variables whose names start with a certain mark belong to the configuration. What follows the mark
is the way to a field: two underscores, like a point, lead from a table to an entry. A value is
read as a truth value, a number, a quoted text, a list or a table where it can be; otherwise it is
a text.
-/

namespace HistoryTrim.Config.Environment

open Text (Reader)
open Text.Reader

/-! ## Names -/

/-- What the names of the variables start with, whatever the case of its letters. -/
def mark : String := "LEDGERDB__"

/-- Put points in place of pairs of underscores, from the left. -/
def withPoints : List Char → List Char
  | '_' :: '_' :: cs => '.' :: withPoints cs
  | c :: cs => c :: withPoints cs
  | [] => []

/-- The parts of a text between points. -/
def parts : List Char → List (List Char)
  | [] => [[]]
  | c :: cs =>
    if c = '.' then [] :: parts cs
    else match parts cs with
      | [] => [[c]]
      | p :: ps => (c :: p) :: ps

/-- The way to the field that a variable is meant for, in lower case; nothing if the variable does
    not belong to the configuration or if a part of the way is empty. -/
def path? (name : String) : Option (List String) :=
  let name := Text.trimBlanks name
  if Text.sameName (String.ofList (name.toList.take mark.length)) mark then
    let way := Text.trimBlanks (String.ofList (withPoints (name.toList.drop mark.length)))
    let ps := parts way.toList
    if ps.any List.isEmpty then none
    else some (ps.map fun p => Text.lowerAscii (String.ofList p))
  else none

/-! ## Values -/

/-- A blank around a value. -/
def isSpace (c : Char) : Bool := c == ' ' || c == '\t' || c == '\n' || c == '\x0c' || c == '\r'

/-- A character that ends a value without quotes. -/
def isSeparator (c : Char) : Bool :=
  c == ',' || c == '\x7b' || c == '\x7d' || c == '[' || c == ']'

/-- What stands for some characters after a backslash; a backslash before the end of a line leaves
    out all blanks that follow. -/
def escape : Reader (List Char) := do
  match ← any with
  | '"' => return ['"']
  | '\\' => return ['\\']
  | 'b' => return ['\x08']
  | 'f' => return ['\x0c']
  | 'n' => return ['\n']
  | 'r' => return ['\r']
  | 't' => return ['\t']
  | 'u' => return [← codePoint 4]
  | 'U' => return [← codePoint 8]
  | '\n' => skipBlanks
  | c =>
    if c = ' ' ∨ c = '\t' then
      skipWhile fun c => c == ' ' || c == '\t'
      exactly '\n'
      skipBlanks
    else failure
where
  skipBlanks : Reader (List Char) := do
    skipWhile fun c => c == ' ' || c == '\t' || c == '\n'
    return []

def quotedText : Reader String := do
  exactly '"'
  let cs ← many ((do return [← one fun c => c != '"' && c != '\\']) <|> do exactly '\\'; escape)
  exactly '"'
  return String.ofList cs.flatten

def real? (text : String) : Option Text.Binary64 :=
  if !text.contains '.' then none
  else real.all? text
where
  /-- A number with an optional sign, fraction and exponent. -/
  real : Reader Text.Binary64 := do
    let negative ← sign
    let whole ← takeWhile Char.isDigit
    let decimals := (← optional? (do exactly '.'; takeWhile Char.isDigit)).getD []
    let digits := whole ++ decimals
    if digits.isEmpty then failure
    let exponent := (← optional? exponent).getD 0
    return .ofDecimal negative (Text.digitsValue digits) (exponent - decimals.length)
  /-- A sign, if one is written: whether it is that of negative numbers. -/
  sign : Reader Bool := do
    return (← optional? (one fun c => c == '+' || c == '-')) == some '-'
  exponent : Reader Int := do
    let _ ← one fun c => c == 'e' || c == 'E'
    let negative ← sign
    let n : Int := Text.digitsValue (← takeSome Char.isDigit)
    return if negative then -n else n

/-- An integer, if a text is one of 64 bits: without a sign below zero, with one otherwise. -/
def integer? (text : String) : Option Value :=
  let (negative, digits) := Text.takeSign text.toList
  if digits.isEmpty || !digits.all Char.isDigit then none
  else
    let n := Text.digitsValue digits
    if negative then (if fitsInt64 (-n) then some (.signed (-n)) else none)
    else if fitsUInt64 n then some (.unsigned n)
    else none

def bareValue (text : String) : Value :=
  match real? text with
  | some x => .real x
  | none => (integer? text).getD (.text text)

def entryName : Reader String :=
  quotedText <|> do
    return String.ofList (← takeSome fun c => c.isAlphanum || c == '_' || c == '-')

/-- A value that nests at most so deep, with blanks around it. -/
def valueWithin : Nat → Reader Value
  | 0 => failure
  | n + 1 => do
    let entry : Reader (String × Value) := do
      skipWhile isSpace
      let name ← entryName
      skipWhile isSpace
      exactly '='
      return (name, ← valueWithin n)
    skipWhile isSpace
    let v ← known entry (valueWithin n)
    skipWhile isSpace
    return v
where
  /-- A value without blanks before it. -/
  known (entry : Reader (String × Value)) (item : Reader Value) : Reader Value := do
    if ← taken (word "true") then return .truth true
    if ← taken (word "false") then return .truth false
    match ← peek? with
    | some '\x7b' =>
      exactly '\x7b'
      return .table (Entries.ofPairs (← items (pure ()) entry ',' '\x7d'))
    | some '[' =>
      exactly '['
      return .sequence (← items (pure ()) item ',' ']')
    | some '"' => return .text (← quotedText)
    | some '\'' =>
      exactly '\''
      let c ← any
      exactly '\''
      return .character c
    | _ =>
      let cs ← takeWhile fun c => !isSeparator c
      return bareValue (Text.trimBlanks (String.ofList cs))

/-- The value that a text stands for; a text that cannot be read to its end stands for itself. -/
def readValue (text : String) : Value :=
  ((valueWithin (text.length + 1)).all? text).getD (.text text)

/-! ## Variables -/

def nest (v : Value) : List String → Value
  | [] => v
  | name :: path => .table [(name, nest v path)]

/-- The table that variables describe; of two variables for one field the later one counts. -/
def read (environment : List (String × String)) : Value :=
  environment.foldl
    (fun base e =>
      match path? e.1 with
      | some path => (nest (readValue e.2) path).onto (some base)
      | none => base)
    (.table [])

end HistoryTrim.Config.Environment
