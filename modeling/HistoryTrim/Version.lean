/-! # Keys, versions and histories

What a scan meets: recorded states of entities, by key, and those of one key newest first. The
states that a table has are a list in this order.
-/

/-! ## Keys

A key names an entity: a leading 64-bit integer, then any number of further values. Keys are
ordered by the leading integer, then lexicographically by the rest.
-/

namespace HistoryTrim

/-- Value of a key column after the leading one. -/
inductive KeyValue where
  | integer (value : Int64)
  /-- A text, ordered by code point. -/
  | text (value : String)
  /-- Bytes, ordered bytewise. -/
  | blob (bytes : List UInt8)
  deriving Repr, DecidableEq

namespace KeyValue

/-- Integers come before texts and texts before bytes. -/
protected def compare : KeyValue → KeyValue → Ordering
  | integer a, integer b => Ord.compare a b
  | integer _, _ => .lt
  | text _, integer _ => .gt
  | text a, text b => Ord.compare a b
  | text _, blob _ => .lt
  | blob a, blob b => Ord.compare a b
  | blob _, _ => .gt

instance : Ord KeyValue := ⟨KeyValue.compare⟩

theorem compare_integer (a b : Int64) :
    Ord.compare (integer a) (integer b) = Ord.compare a b := rfl

theorem compare_text (a b : String) : Ord.compare (text a) (text b) = Ord.compare a b := rfl

theorem compare_blob (a b : List UInt8) : Ord.compare (blob a) (blob b) = Ord.compare a b := rfl

instance : Std.OrientedOrd KeyValue where
  eq_swap {a b} := by
    cases a <;> cases b <;>
      first
        | rfl
        | (simp only [compare_integer, compare_text, compare_blob]
           exact Std.OrientedOrd.eq_swap)

instance : Std.TransOrd KeyValue where
  isLE_trans {a b c} hab hbc := by
    cases a <;> cases b <;> cases c <;>
      first
        | rfl
        | exact absurd hab Bool.false_ne_true
        | exact absurd hbc Bool.false_ne_true
        | (simp only [compare_integer, compare_text, compare_blob] at hab hbc ⊢
           exact Std.TransOrd.isLE_trans hab hbc)

instance : Std.LawfulEqOrd KeyValue where
  eq_of_compare {a b} h := by
    cases a <;> cases b <;>
      first
        | exact absurd h Ordering.noConfusion
        | (simp only [compare_integer, compare_text, compare_blob] at h
           exact congrArg _ (Std.LawfulEqOrd.eq_of_compare h))

/-- A value as it stands in the written form of a key. -/
def render : KeyValue → String
  | integer n => toString n.toInt
  | text s => s
  | blob bytes => s!"<{bytes.length} bytes>"

end KeyValue

/-- Business key of an entity. -/
structure Key where
  /-- The leading value, by which a scan can be resumed. -/
  leading : Int64
  /-- The values of the further key columns. -/
  rest : List KeyValue
  deriving Repr, DecidableEq

namespace Key

/-- By the leading value, then lexicographically by the rest; a shorter key comes first. -/
protected def compare (a b : Key) : Ordering :=
  (Ord.compare a.leading b.leading).then (Ord.compare a.rest b.rest)

instance : Ord Key := ⟨Key.compare⟩

theorem compare_def (a b : Key) :
    Ord.compare a b = (Ord.compare a.leading b.leading).then (Ord.compare a.rest b.rest) := rfl

theorem compare_eq_lex :
    (Ord.compare : Key → Key → Ordering) =
      compareLex (compareOn Key.leading) (compareOn Key.rest) := rfl

instance : Std.TransOrd Key := by
  unfold Std.TransOrd
  rw [compare_eq_lex]
  infer_instance

instance : Std.LawfulEqOrd Key where
  eq_of_compare {a b} h := by
    cases a
    cases b
    rw [compare_def, Ordering.then_eq_eq] at h
    obtain ⟨h1, h2⟩ := h
    exact Key.mk.injEq .. |>.mpr
      ⟨Std.LawfulEqOrd.eq_of_compare h1, Std.LawfulEqOrd.eq_of_compare h2⟩

/-- The written form of a key: its values separated by slashes. -/
def render (k : Key) : String :=
  "/".intercalate (toString k.leading.toInt :: k.rest.map KeyValue.render)

end Key

/-! ## Versions

A version is one recorded state of an entity: its key, the height at which the state was recorded,
and whether it is the latest. A scan meets versions by key, and those of one key newest first.
-/

/-- Position in the chain. Negative heights are reserved for versions that are kept forever. -/
abbrev Height := Int64

/-- One recorded state of an entity. -/
structure Version where
  key : Key
  height : Height
  /-- Whether the entity still has this state. -/
  latest : Bool
  deriving Repr, DecidableEq

namespace Version

/-- Scan order: ascending by key, descending by height within a key. -/
def scanCompare (a b : Version) : Ordering :=
  (compare a.key b.key).then (compare b.height a.height)

/-- A scan meets `a` strictly before `b`. -/
def Precedes (a b : Version) : Prop := a.scanCompare b = .lt

instance (a b : Version) : Decidable (a.Precedes b) := inferInstanceAs (Decidable (_ = _))

theorem scanCompare_eq_lex :
    scanCompare =
      compareLex (compareOn Version.key) (fun a b => compareOn Version.height b a) := rfl

instance : Std.TransCmp scanCompare := by
  rw [scanCompare_eq_lex]
  infer_instance

theorem scanCompare_eq_eq {a b : Version} :
    a.scanCompare b = .eq ↔ a.key = b.key ∧ a.height = b.height := by
  rw [scanCompare, Ordering.then_eq_eq]
  constructor
  · rintro ⟨h1, h2⟩
    exact ⟨Std.LawfulEqOrd.eq_of_compare h1, (Std.LawfulEqOrd.eq_of_compare h2).symm⟩
  · rintro ⟨h1, h2⟩
    rw [h1, h2]
    exact ⟨Std.ReflOrd.compare_self, Std.ReflOrd.compare_self⟩

theorem Precedes.trans {a b c : Version} (hab : a.Precedes b) (hbc : b.Precedes c) :
    a.Precedes c :=
  Std.TransCmp.lt_trans hab hbc

theorem not_precedes_self (a : Version) : ¬ a.Precedes a := by
  have h : a.scanCompare a = .eq := scanCompare_eq_eq.2 ⟨rfl, rfl⟩
  simp [Precedes, h]

theorem precedes_of_gt {a b : Version} (h : a.scanCompare b = .gt) : b.Precedes a :=
  Std.OrientedCmp.lt_of_gt h

end Version

/-! ## Histories

The versions of one table in scan order, at most one per key and height. The order is part of the
type, so every operation below keeps it.
-/

/-- Put a version into a list in scan order, in place of the one with its key and height. -/
def Version.insertInto (v : Version) : List Version → List Version
  | [] => [v]
  | r :: rs =>
    match v.scanCompare r with
    | .lt => v :: r :: rs
    | .eq => v :: rs
    | .gt => r :: v.insertInto rs

theorem Version.mem_insertInto {v x : Version} {rows : List Version} :
    x ∈ v.insertInto rows → x = v ∨ x ∈ rows := by
  induction rows with
  | nil => simp [insertInto]
  | cons r rs ih =>
    simp only [insertInto]
    split <;> simp only [List.mem_cons] <;> grind

theorem Version.pairwise_insertInto {v : Version} {rows : List Version}
    (h : rows.Pairwise Precedes) : (v.insertInto rows).Pairwise Precedes := by
  induction rows with
  | nil => simp [insertInto]
  | cons r rs ih =>
    obtain ⟨hr, hrs⟩ := List.pairwise_cons.1 h
    simp only [insertInto]
    split
    next hlt =>
      refine List.pairwise_cons.2 ⟨fun x hx => ?_, h⟩
      rcases List.mem_cons.1 hx with rfl | hx
      · exact hlt
      · exact Precedes.trans hlt (hr x hx)
    next heq =>
      refine List.pairwise_cons.2 ⟨fun x hx => ?_, hrs⟩
      exact Std.TransCmp.lt_of_eq_of_lt heq (hr x hx)
    next hgt =>
      refine List.pairwise_cons.2 ⟨fun x hx => ?_, ih hrs⟩
      rcases mem_insertInto hx with rfl | hx
      · exact precedes_of_gt hgt
      · exact hr x hx

/-- The versions of a table in scan order. -/
structure History where
  rows : List Version
  ordered : rows.Pairwise Version.Precedes

namespace History

@[ext] theorem ext {a b : History} (h : a.rows = b.rows) : a = b := by
  cases a
  cases b
  simp_all

def empty : History := ⟨[], .nil⟩

instance : EmptyCollection History := ⟨empty⟩

instance : Inhabited History := ⟨empty⟩

instance : Membership Version History := ⟨fun h v => v ∈ h.rows⟩

@[simp] theorem rows_empty : (∅ : History).rows = [] := rfl

theorem mem_def {h : History} {v : Version} : v ∈ h ↔ v ∈ h.rows := Iff.rfl

def size (h : History) : Nat := h.rows.length

/-- Record a version, in place of the one with its key and height. -/
def insert (h : History) (v : Version) : History :=
  ⟨v.insertInto h.rows, Version.pairwise_insertInto h.ordered⟩

@[simp] theorem rows_insert (h : History) (v : Version) :
    (h.insert v).rows = v.insertInto h.rows := rfl

/-- The versions that pass a test. -/
def filter (h : History) (keep : Version → Bool) : History :=
  ⟨h.rows.filter keep, h.ordered.sublist List.filter_sublist⟩

@[simp] theorem rows_filter (h : History) (keep : Version → Bool) :
    (h.filter keep).rows = h.rows.filter keep := rfl

/-- What is left of the rows when only those of a sublist stay. -/
def restrict (h : History) (rows : List Version) (sub : rows.Sublist h.rows) : History :=
  ⟨rows, h.ordered.sublist sub⟩

@[simp] theorem rows_restrict (h : History) (rows : List Version) (sub : rows.Sublist h.rows) :
    (h.restrict rows sub).rows = rows := rfl

end History

end HistoryTrim
