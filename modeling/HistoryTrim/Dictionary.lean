/-! # Values under names

Two kinds of lists of values under names: in the order in which the names were first written, and
in the order of the names.
-/

/-! ## Dictionaries

Entries in the order in which their names were first written. Writing a name again replaces its
value and keeps its place, so every name written with `put` occurs once.
-/

namespace HistoryTrim

/-- Values under names. -/
structure Dictionary (α : Type) where
  entries : List (String × α)
  deriving Repr, DecidableEq

namespace Dictionary

variable {α : Type}

def empty : Dictionary α := ⟨[]⟩

instance : EmptyCollection (Dictionary α) := ⟨empty⟩

instance : Inhabited (Dictionary α) := ⟨empty⟩

def getEntry? (name : String) : List (String × α) → Option α
  | [] => none
  | e :: es => if e.1 = name then some e.2 else getEntry? name es

def get? (d : Dictionary α) (name : String) : Option α := getEntry? name d.entries

/-- The names in order. -/
def names (d : Dictionary α) : List String := d.entries.map Prod.fst

def putEntry (name : String) (value : α) : List (String × α) → List (String × α)
  | [] => [(name, value)]
  | e :: es => if e.1 = name then (name, value) :: es else e :: putEntry name value es

def put (d : Dictionary α) (name : String) (value : α) : Dictionary α :=
  ⟨putEntry name value d.entries⟩

/-- The dictionary that results from writing pairs one after the other. -/
def ofPairs (pairs : List (String × α)) : Dictionary α :=
  pairs.foldl (fun d p => d.put p.1 p.2) ∅

@[simp] theorem get?_empty (name : String) : (∅ : Dictionary α).get? name = none := rfl

theorem getEntry?_putEntry (name other : String) (value : α) (es : List (String × α)) :
    getEntry? other (putEntry name value es) =
      if other = name then some value else getEntry? other es := by
  induction es with
  | nil => simp only [putEntry, getEntry?, eq_comm]
  | cons e es ih => grind [putEntry, getEntry?]

theorem get?_put (d : Dictionary α) (name other : String) (value : α) :
    (d.put name value).get? other = if other = name then some value else d.get? other :=
  getEntry?_putEntry name other value d.entries

end Dictionary

end HistoryTrim

/-! ## Entries under names

Entries of a table of a configuration, sorted by their names, at most one per name.
-/

namespace HistoryTrim.Config

/-- Entries in the order of their names. -/
abbrev Entries (α : Type) := List (String × α)

namespace Entries

variable {α : Type}

def get? (name : String) (es : Entries α) : Option α := es.lookup name

/-- Give the entry under a name a value that depends on the present one. -/
def change (name : String) (value : Option α → α) : Entries α → Entries α
  | [] => [(name, value none)]
  | e :: es =>
    if name = e.1 then (name, value (some e.2)) :: es
    else if name < e.1 then (name, value none) :: e :: es
    else e :: change name value es

/-- Put an entry under a name, in place of the present one. -/
def put (name : String) (value : α) (es : Entries α) : Entries α := es.change name fun _ => value

/-- The entries that result from putting pairs one after the other. -/
def ofPairs (pairs : List (String × α)) : Entries α :=
  pairs.foldl (fun es p => es.put p.1 p.2) []

end Entries

end HistoryTrim.Config
