import HistoryTrim.Dictionary
import HistoryTrim.Text.Number
import HistoryTrim.Text.Quoted

/-! # Values and misfits

What a source of configuration says, and why that may not fit the field it is meant for.
-/

/-! ## Configuration values

What a configuration file or the environment says, before it is known which field it is meant for.
Values of several sources are laid over each other: tables are merged entry by entry, and any
other value takes the place of what was there.
-/

namespace HistoryTrim.Config

/-- A value as it was written. -/
inductive Value where
  | text (value : String)
  | character (value : Char)
  | truth (value : Bool)
  /-- An integer from a source that tells integers below zero apart. -/
  | unsigned (value : Nat)
  | signed (value : Int)
  | real (value : Text.Binary64)
  | sequence (items : List Value)
  /-- Entries in the order of their names. -/
  | table (entries : List (String × Value))
  | nothing
  deriving Repr

namespace Value

instance : Inhabited Value := ⟨nothing⟩

mutual

/-- Lay a value over another one. -/
def onto : Value → Option Value → Value
  | .table entries, some (.table base) => .table (overEntries entries base)
  | v, _ => v

def overEntries : List (String × Value) → Entries Value → Entries Value
  | [], base => base
  | (name, v) :: entries, base => overEntries entries (base.change name (onto v))

end

/-- A character between single quotes. -/
def quotedChar (c : Char) : String :=
  if c = '\'' then "'\\''" else if c = '"' then "'\"'" else "'" ++ Text.quoteChar c ++ "'"

/-- The value as messages name it. -/
def describe : Value → String
  | text s => "string " ++ Text.quoted s
  | character c => "char " ++ quotedChar c
  | truth b => s!"bool {b}"
  | unsigned n => s!"unsigned int `{n}`"
  | signed n => s!"signed int `{n}`"
  | real x => s!"float `{x.text}`"
  | sequence _ => "sequence"
  | table _ => "map"
  | nothing => "unit"

end Value

/-! ## Misfits

Why a value does not fit the field it is meant for, and where that field is.
-/

/-- What a field takes. -/
inductive Expected where
  | text
  | truth
  /-- A height: 64 bits with a sign. -/
  | height
  /-- A number of rows: 64 bits without a sign. -/
  | size
  /-- A multiplier: 32 bits without a sign. -/
  | multiplier
  | duration
  | table
  | sequence
  | fields (group : String)
  | choice (name : String)
  /-- The single name that a table stands for. -/
  | variant
  /-- Nothing beside a name. -/
  | nothing
  deriving Repr, DecidableEq

namespace Expected

def name : Expected → String
  | text => "a string"
  | truth => "a boolean"
  | height => "i64"
  | size => "usize"
  | multiplier => "u32"
  | duration => "a duration"
  | table => "a map"
  | sequence => "a sequence"
  | fields group => s!"struct {group}"
  | choice name => s!"enum {name}"
  | variant => "enum"
  | nothing => "unit"

end Expected

inductive Fault where
  /-- It is of another kind. -/
  | invalidType (found : Value) (expected : Expected)
  /-- It is of the right kind, but out of range or not readable. -/
  | invalidValue (found : Value) (expected : Expected)
  /-- A group that is given as a sequence ends before a field that is needed. -/
  | invalidLength (length : Nat) (group : String) (fields : Nat)
  | missingField (name : String)
  /-- A name is none of those to choose from. -/
  | unknownVariant (name : String) (variants : List String)
  deriving Repr

namespace Fault

def message : Fault → String
  | invalidType v e => s!"invalid type: found {v.describe}, expected {e.name}"
  | invalidValue v e => s!"invalid value {v.describe}, expected {e.name}"
  | invalidLength n group fields =>
    s!"invalid length {n}, expected struct {group} with {fields} " ++
      (if fields = 1 then "element" else "elements")
  | missingField n => s!"missing field `{n}`"
  | unknownVariant n variants =>
    s!"unknown variant: found `{n}`, expected `one of " ++
      ", ".intercalate (variants.map fun v => s!"`{v}`") ++ "`"

end Fault

/-- A fault at a place. -/
structure Misfit where
  fault : Fault
  /-- Names and positions from the outermost table to the place. -/
  path : List String := []
  deriving Repr

namespace Misfit

/-- The place with points between its parts. -/
def place (m : Misfit) : String := ".".intercalate m.path

/-- The misfit as it is seen from the table that has its place under a name. -/
def under (name : String) (m : Misfit) : Misfit := { m with path := name :: m.path }

end Misfit

/-- What is read from a value, unless the value does not fit. -/
abbrev Reading (α : Type) := Except Misfit α

namespace Reading

variable {α : Type}

def wrongType (found : Value) (expected : Expected) : Reading α :=
  .error { fault := .invalidType found expected }

def wrongValue (found : Value) (expected : Expected) : Reading α :=
  .error { fault := .invalidValue found expected }

def under (name : String) (r : Reading α) : Reading α := r.mapError (Misfit.under name)

end Reading

end HistoryTrim.Config
