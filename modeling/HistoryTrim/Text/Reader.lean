/-! # Readers

A reader takes something off the front of a text and leaves the rest, or fails. Alternatives are
tried from the same place, so a reader that fails has taken nothing.
-/

namespace HistoryTrim.Text

/-- What takes a value off the front of a text. -/
abbrev Reader := StateT (List Char) Option

namespace Reader

variable {α β : Type}

/-- The value that a whole text denotes. -/
def all? (r : Reader α) (text : String) : Option α :=
  match r text.toList with
  | some (a, []) => some a
  | _ => none

/-- What is left of the text. -/
def rest : Reader (List Char) := get

/-- The next character, which stays where it is. -/
def peek? : Reader (Option Char) := do return (← rest).head?

/-- The next character, if it passes a test. -/
def one (test : Char → Bool) : Reader Char := fun cs =>
  match cs with
  | [] => none
  | c :: cs => if test c then some (c, cs) else none

def any : Reader Char := one fun _ => true

def exactly (c : Char) : Reader Unit := do let _ ← one (· == c)

def word (text : String) : Reader Unit := fun cs =>
  if text.toList.isPrefixOf cs then some ((), cs.drop text.length) else none

def takeWhile (test : Char → Bool) : Reader (List Char) := fun cs =>
  some (cs.takeWhile test, cs.dropWhile test)

/-- As many characters as pass a test, at least one. -/
def takeSome (test : Char → Bool) : Reader (List Char) := do
  let cs ← takeWhile test
  if cs.isEmpty then failure else return cs

def skipWhile (test : Char → Bool) : Reader Unit := do let _ ← takeWhile test

/-- What a reader takes; nothing if it fails. -/
def optional? (r : Reader α) : Reader (Option α) := (some <$> r) <|> pure none

/-- Whether a reader took something. -/
def taken (r : Reader α) : Reader Bool := (do let _ ← r; return true) <|> pure false

/-- At most so many values, until the reader fails. -/
def upTo (r : Reader α) : Nat → Reader (List α)
  | 0 => pure []
  | n + 1 => do
    match ← optional? r with
    | none => return []
    | some a => return a :: (← upTo r n)

/-- Values until the reader fails; it has to take something each time. -/
def many (r : Reader α) : Reader (List α) := do upTo r (← rest).length

/-- The items of a list and its end, at most so many. -/
def itemsUpTo (skip : Reader Unit) (item : Reader α) (separator close : Char) :
    Nat → Reader (List α)
  | 0 => failure
  | n + 1 => do
    skip
    if ← taken (exactly close) then return []
    let a ← item
    skip
    if ← taken (exactly separator) then return a :: (← itemsUpTo skip item separator close n)
    exactly close
    return [a]

/-- The items of a list up to the character that closes it. Items are separated; a separator may
    also follow the last one. -/
def items (skip : Reader Unit) (item : Reader α) (separator close : Char) : Reader (List α) := do
  itemsUpTo skip item separator close ((← rest).length + 1)

/-- One or more values with a separator between each two of them. -/
def separated (item : Reader α) (separator : Char) : Reader (List α) := do
  let first ← item
  let others ← many (do exactly separator; item)
  return first :: others

/-- The character with a code point of so many hexadecimal digits. -/
def codePoint (digits : Nat) : Reader Char := do
  let mut n := 0
  for _ in List.range digits do
    let c ← one fun c => c.isDigit || ('a' ≤ c && c ≤ 'f') || ('A' ≤ c && c ≤ 'F')
    let digit := if c.isDigit then c.toNat - '0'.toNat else c.toLower.toNat - 'a'.toNat + 10
    n := 16 * n + digit
  if h : n.isValidChar then return Char.ofNatAux n h else failure

end Reader

end HistoryTrim.Text
