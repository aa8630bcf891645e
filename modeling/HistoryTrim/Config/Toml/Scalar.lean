import HistoryTrim.Config.Value
import HistoryTrim.Text.Reader
import HistoryTrim.Text.Number

/-! # Scalars of TOML texts

Strings, numbers and dates, as the first version of the TOML format writes them.
-/

namespace HistoryTrim.Config.Toml

open Text (Reader)
open Text.Reader

/-- A character that may stand in a comment or a string; control characters other than the
    tabulator may not. -/
def isPlain (c : Char) : Bool := c == '\t' || (0x20 ≤ c.toNat && c.toNat != 0x7f)

/-- A blank within a line. -/
def isSpace (c : Char) : Bool := c == ' ' || c == '\t'

def spaces : Reader Unit := skipWhile isSpace

def newline : Reader Unit := word "\n" <|> word "\r\n"

/-- A comment, without the end of its line. -/
def comment : Reader Unit := do
  exactly '#'
  skipWhile isPlain

/-! ## Strings -/

/-- What stands for a character after a backslash. -/
def escape : Reader Char := do
  match ← any with
  | 'b' => return '\x08'
  | 't' => return '\t'
  | 'n' => return '\n'
  | 'f' => return '\x0c'
  | 'r' => return '\r'
  | '"' => return '"'
  | '\\' => return '\\'
  | 'u' => codePoint 4
  | 'U' => codePoint 8
  | _ => failure

/-- A character between double quotes. -/
def basicChar : Reader Char :=
  one (fun c => isPlain c && c != '"' && c != '\\') <|> (do exactly '\\'; escape)

/-- A character between single quotes, where nothing is escaped. -/
def literalChar : Reader Char := one fun c => isPlain c && c != '\''

def lineString (quote : Char) (char : Reader Char) : Reader String := do
  exactly quote
  let cs ← many char
  exactly quote
  return String.ofList cs

/-- A backslash at the end of a line: the end of the line and all blanks after it are left out. -/
def continuation : Reader (List Char) := do
  exactly '\\'
  spaces
  newline
  let _ ← many ((do let _ ← one isSpace) <|> newline)
  return []

/-- The inside of a string of several lines, at most so many pieces. One or two quotes are part of
    the string; of three to five the last three close it. -/
def blockUpTo (quote : Char) (piece : Reader (List Char)) : Nat → Reader (List Char)
  | 0 => failure
  | n + 1 => do
    let quotes ← takeWhile (· == quote)
    if 5 < quotes.length then failure
    else if 3 ≤ quotes.length then return quotes.drop 3
    else
      let cs ← piece
      return quotes ++ cs ++ (← blockUpTo quote piece n)

/-- A string of several lines; the end of the line right after the opening quotes is left out. -/
def blockString (quote : Char) (piece : Reader (List Char)) : Reader String := do
  word (String.ofList [quote, quote, quote])
  let _ ← optional? newline
  let cs ← blockUpTo quote piece ((← rest).length + 1)
  return String.ofList cs

/-- The end of a line within a string is a line feed, however it is written. -/
def lineFeed : Reader (List Char) := do
  newline
  return ['\n']

def string : Reader String :=
  blockString '"' ((do return [← basicChar]) <|> continuation <|> lineFeed) <|>
  blockString '\'' ((do return [← literalChar]) <|> lineFeed) <|>
  lineString '"' basicChar <|> lineString '\'' literalChar

/-! ## Numbers -/

/-- Digits, with single underscores between them, which are left out. -/
def digitsOf (isDigit : Char → Bool) : Reader (List Char) := do
  let first ← one isDigit
  let others ← many (one isDigit <|> do exactly '_'; one isDigit)
  return first :: others

/-- Decimal digits of a whole number; only a lone one may be zero at the front. -/
def wholeDigits : Reader (List Char) := do
  if ← taken (exactly '0') then return ['0']
  digitsOf Char.isDigit

def integer (n : Int) : Reader Value :=
  if fitsInt64 n then return .signed n else failure

/-- Value of a digit in any base up to sixteen. -/
def digitValue (c : Char) : Nat :=
  if c.isDigit then c.toNat - '0'.toNat else c.toLower.toNat - 'a'.toNat + 10

/-- An integer in a base that is not ten. -/
def basedInteger : Reader Value := do
  exactly '0'
  let base ← match ← any with
    | 'x' => pure 16
    | 'o' => pure 8
    | 'b' => pure 2
    | _ => failure
  let ds ← digitsOf fun c => c.isAlphanum && digitValue c < base
  integer (ds.foldl (fun n c => base * n + digitValue c) 0)

/-- A sign, if one is written: whether it is that of negative numbers. -/
def sign : Reader Bool := do
  match ← optional? (one fun c => c == '+' || c == '-') with
  | some '-' => return true
  | _ => return false

def exponent : Reader Int := do
  let _ ← one fun c => c == 'e' || c == 'E'
  let negative ← sign
  let n : Int := Text.digitsValue (← digitsOf Char.isDigit)
  return if negative then -n else n

def fraction : Reader (List Char) := do
  exactly '.'
  digitsOf Char.isDigit

/-- A decimal number: an integer unless it has a fraction or an exponent. -/
def decimal : Reader Value := do
  let negative ← sign
  let whole ← wholeDigits
  let fraction ← optional? fraction
  let exponent ← optional? exponent
  if fraction.isNone && exponent.isNone then
    let n : Int := Text.digitsValue whole
    integer (if negative then -n else n)
  else
    let decimals := fraction.getD []
    let x := Text.Binary64.ofDecimal negative (Text.digitsValue (whole ++ decimals))
      (exponent.getD 0 - decimals.length)
    if x = .infinite false then failure else return .real x

/-- A floating point number that is not finite. -/
def specialReal : Reader Value := do
  let negative ← sign
  (do word "inf"; return .real (.infinite negative)) <|>
    (do word "nan"; return .real .notANumber)

/-! ## Dates and times -/

def fixedDigits : Nat → Reader (List Char)
  | 0 => return []
  | n + 1 => do return (← one Char.isDigit) :: (← fixedDigits n)

/-- A number of two digits between two bounds, as it is written. -/
def twoDigits (low high : Nat) : Reader String := do
  let ds ← fixedDigits 2
  let n := Text.digitsValue ds
  if low ≤ n ∧ n ≤ high then return String.ofList ds else failure

def daysOf (year month : Nat) : Nat :=
  if month = 2 then
    if year % 4 = 0 ∧ (year % 100 ≠ 0 ∨ year % 400 = 0) then 29 else 28
  else if month ∈ [4, 6, 9, 11] then 30 else 31

def date : Reader String := do
  let year ← fixedDigits 4
  exactly '-'
  let month ← twoDigits 1 12
  exactly '-'
  let day ← twoDigits 1 (daysOf (Text.digitsValue year) (Text.digitsValue month.toList))
  return s!"{String.ofList year}-{month}-{day}"

/-- A time of day; its fraction is kept to the nanosecond, without zeros at the end. -/
def time : Reader String := do
  let hour ← twoDigits 0 23
  exactly ':'
  let minute ← twoDigits 0 59
  exactly ':'
  let second ← twoDigits 0 60
  let decimals ← optional? (do exactly '.'; takeSome Char.isDigit)
  let kept := (((decimals.getD []).take 9).reverse.dropWhile (· == '0')).reverse
  let tail := if kept.isEmpty then "" else "." ++ String.ofList kept
  return s!"{hour}:{minute}:{second}{tail}"

/-- The distance from universal time. -/
def timeOffset : Reader String :=
  (do let _ ← one fun c => c == 'Z' || c == 'z'; return "Z") <|> do
    let negative ← (· == '-') <$> one fun c => c == '+' || c == '-'
    let hour ← twoDigits 0 23
    exactly ':'
    let minute ← twoDigits 0 59
    let mark := if negative && (hour, minute) != ("00", "00") then "-" else "+"
    return s!"{mark}{hour}:{minute}"

/-- A date, a time, or both, in the usual spelling. -/
def dateTime : Reader String :=
  (do
    let day ← date
    let clock ← optional? do
      let _ ← one fun c => c == 'T' || c == 't' || c == ' '
      let clock ← time
      return "T" ++ clock ++ (← optional? timeOffset).getD ""
    return day ++ clock.getD "") <|> time

/-- Name of the only entry of a table that stands for a date or a time. -/
def dateTimeEntry : String := "$__toml_private_datetime"

/-- A value that has no parts. -/
def scalar : Reader Value :=
  (do return .text (← string)) <|>
  (do word "true"; return .truth true) <|>
  (do word "false"; return .truth false) <|>
  (do return .table [(dateTimeEntry, .text (← dateTime))]) <|>
  specialReal <|> basedInteger <|> decimal

end HistoryTrim.Config.Toml
