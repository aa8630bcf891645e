import HistoryTrim.Table.Schema
import HistoryTrim.Text.Number

/-! # Cells and affinity

Stored values with their order, and how a value is fitted to the type of a column.
-/

/-! ## Cells

A stored value carries its own storage class, whatever the type of its column. Values of all
classes have one order: nothing, numbers by value, texts by code point, bytes.
-/

namespace HistoryTrim.Database

inductive StorageClass where
  | null
  | integer
  | real
  | text
  | blob
  deriving Repr, DecidableEq

/-- A stored value. -/
inductive Cell where
  | null
  | integer (value : Int64)
  /-- A floating point number, as the number it denotes. -/
  | real (value : Rat)
  | text (value : String)
  | blob (bytes : List UInt8)
  deriving Repr, DecidableEq

namespace Cell

def storageClass : Cell → StorageClass
  | null => .null
  | integer _ => .integer
  | real _ => .real
  | text _ => .text
  | blob _ => .blob

/-- A truth value, as the number that stands for it. -/
def ofBool (b : Bool) : Cell := .integer (if b then 1 else 0)

instance : Inhabited Cell := ⟨null⟩

def compareRat (a b : Rat) : Ordering :=
  if a < b then .lt else if a = b then .eq else .gt

/-- The number an integer denotes. -/
def ratOf (n : Int64) : Rat := n.toInt

/-- The order of stored values. Numbers of both classes compare by value. -/
protected def compare : Cell → Cell → Ordering
  | null, null => .eq
  | null, _ => .lt
  | _, null => .gt
  | integer a, integer b => Ord.compare a b
  | integer a, real b => compareRat (ratOf a) b
  | real a, integer b => compareRat a (ratOf b)
  | real a, real b => compareRat a b
  | integer _, _ => .lt
  | real _, _ => .lt
  | _, integer _ => .gt
  | _, real _ => .gt
  | text a, text b => Ord.compare a b
  | text _, blob _ => .lt
  | blob _, text _ => .gt
  | blob a, blob b => Ord.compare a b

instance : Ord Cell := ⟨Cell.compare⟩

/-- Two values are the same value; nothing is the same as nothing. -/
def same (a b : Cell) : Bool := Ord.compare a b == .eq

/-- A comparison of two values that holds only where neither is missing. -/
def holds (test : Ordering → Bool) (a b : Cell) : Bool :=
  match a, b with
  | null, _ => false
  | _, null => false
  | _, _ => test (Ord.compare a b)

end Cell

/-! ## Affinity

The type of a column is a preference, not a constraint: a value is converted to it where nothing
is lost, and stored as it is otherwise. The same conversion is applied to a value that is compared
with a column.
-/

/-- A fraction in a column that prefers integers: an integer if it is one and fits. -/
def integerIfExact (q : Rat) : Cell :=
  if q.den = 1 ∧ Int64.minValue.toInt < q.num ∧ q.num < Int64.maxValue.toInt then
    .integer (Int64.ofInt q.num)
  else .real q

/-- A text as a number, where it denotes one. -/
def numericText (s : String) : Cell :=
  match Text.number? s with
  | some (.whole n) =>
    if fitsInt64 n then .integer (Int64.ofInt n)
    else integerIfExact (Text.nearestBinary64 n)
  | some (.decimal q) => integerIfExact (Text.nearestBinary64 q)
  | none => .text s

/-- A number in a column of floating point numbers. -/
def toReal : Cell → Cell
  | .integer n => .real (Text.nearestBinary64 n.toInt)
  | c => c

/-- The value as a column of the type stores it. -/
def store (type : ColumnType) (c : Cell) : Cell :=
  match type, c with
  | .integer, .text s => numericText s
  | .integer, .real q => integerIfExact q
  | .numeric, .text s => numericText s
  | .numeric, .real q => integerIfExact q
  | .real, .text s => toReal (numericText s)
  | .real, .integer n => toReal (.integer n)
  | .text, .integer n => .text (toString n.toInt)
  | _, c => c

/-- A value without a type of its own, as it is compared with a column of the type: digits become
    numbers beside numbers, and numbers become texts beside texts. -/
def comparand (type : ColumnType) (c : Cell) : Cell :=
  match type, c with
  | .text, .integer n => .text (toString n.toInt)
  | .integer, .text s => numericText s
  | .real, .text s => numericText s
  | .numeric, .text s => numericText s
  | _, c => c

end HistoryTrim.Database
