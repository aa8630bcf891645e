/-! # Characters

The case of ASCII letters and the names made of them, the characters that separate words, and the
bytes by which characters are encoded.
-/

/-! ## ASCII case and names

Names of tables and columns are compared without regard to the case of ASCII letters; every
other character stands for itself. A plain identifier is what may stand between double quotes in
a statement without ending them.
-/

namespace HistoryTrim.Text

/-- ASCII letters in upper case, every other character unchanged. -/
def upperAscii (s : String) : String := s.map Char.toUpper

/-- ASCII letters in lower case, every other character unchanged. -/
def lowerAscii (s : String) : String := s.map Char.toLower

/-- Two names denote the same object when they differ at most in the case of ASCII letters. -/
def sameName (a b : String) : Bool := lowerAscii a == lowerAscii b

theorem sameName_iff {a b : String} : sameName a b = true ↔ lowerAscii a = lowerAscii b := by
  simp [sameName]

@[simp] theorem sameName_self (a : String) : sameName a a = true := by simp [sameName]

theorem sameName_comm (a b : String) : sameName a b = sameName b a := by
  simp only [sameName]
  exact BEq.comm

theorem sameName_eq_beq (a b : String) :
    sameName a b = (a.toList.map Char.toLower == b.toList.map Char.toLower) := by
  rw [Bool.eq_iff_iff, sameName_iff, beq_iff_eq, ← String.toList_inj, lowerAscii, lowerAscii,
    String.toList_map, String.toList_map]

def occursIn (word : List Char) : List Char → Bool
  | [] => word.isEmpty
  | c :: cs => word.isPrefixOf (c :: cs) || occursIn word cs

/-- A character that may start an identifier. -/
def isNameStart (c : Char) : Bool := c.isAlpha || c == '_'

/-- A character that may continue an identifier. -/
def isNameRest (c : Char) : Bool := c.isAlphanum || c == '_'

/-- A plain identifier: a letter or underscore, then letters, digits and underscores, all ASCII. -/
def isIdentifier (s : String) : Bool :=
  match s.toList with
  | [] => false
  | c :: cs => isNameStart c && cs.all isNameRest

/-! ## Blank characters

The characters that separate words without being written: the ASCII blanks and line ends, the
no-break space, and the spaces and separators of other scripts.
-/

/-- Ranges of blank code points, both ends included. -/
def blankRanges : List (Nat × Nat) :=
  [(0x9, 0xd), (0x20, 0x20), (0x85, 0x85), (0xa0, 0xa0), (0x1680, 0x1680), (0x2000, 0x200a),
   (0x2028, 0x2029), (0x202f, 0x202f), (0x205f, 0x205f), (0x3000, 0x3000)]

/-- A character that separates words. -/
def isBlank (c : Char) : Bool :=
  blankRanges.any fun r => decide (r.1 ≤ c.toNat) && decide (c.toNat ≤ r.2)

/-- The text without the blanks at its two ends. -/
def trimBlanks (s : String) : String :=
  String.ofList ((s.toList.dropWhile isBlank).reverse.dropWhile isBlank).reverse

def isAllBlank (s : String) : Bool := s.toList.all isBlank

/-! ## UTF-8

Characters are encoded in one to four bytes. Bytes that are no encoding are either refused, with
the place of the first fault, or replaced by a mark.
-/

/-- Bytes that are no encoding of a text. -/
inductive Utf8Fault where
  /-- So many bytes from an index on cannot start a character. -/
  | invalid (length index : Nat)
  /-- The last character is cut off. -/
  | incomplete (index : Nat)
  deriving Repr, DecidableEq

namespace Utf8Fault

def message : Utf8Fault → String
  | invalid n i => s!"invalid utf-8 sequence of {n} bytes from index {i}"
  | incomplete i => s!"incomplete utf-8 byte sequence from index {i}"

end Utf8Fault

namespace Utf8

def encode (s : String) : List UInt8 := s.toUTF8.toList

/-- For the first byte of a character the bits it contributes, how many bytes follow, and the
    bounds of the first of those. -/
def lead? (b : UInt8) : Option (Nat × Nat × UInt8 × UInt8) :=
  let n := b.toNat
  if n < 0x80 then some (n, 0, 0x80, 0xbf)
  else if n < 0xc2 then none
  else if n < 0xe0 then some (n - 0xc0, 1, 0x80, 0xbf)
  else if n = 0xe0 then some (0, 2, 0xa0, 0xbf)
  else if n = 0xed then some (0xd, 2, 0x80, 0x9f)
  else if n < 0xf0 then some (n - 0xe0, 2, 0x80, 0xbf)
  else if n = 0xf0 then some (0, 3, 0x90, 0xbf)
  else if n < 0xf4 then some (n - 0xf0, 3, 0x80, 0xbf)
  else if n = 0xf4 then some (4, 3, 0x80, 0x8f)
  else none

/-- The bytes that go on with a character, at most so many. -/
def following : Nat → UInt8 → UInt8 → List UInt8 → List UInt8
  | n + 1, low, high, b :: bs =>
    if low ≤ b ∧ b ≤ high then b :: following n 0x80 0xbf bs else []
  | _, _, _, _ => []

/-- What stands at the front of some bytes. -/
inductive Front where
  /-- A character, with the number of bytes after its first one. -/
  | char (c : Char) (more : Nat)
  /-- No character; so many bytes after the first one belong to the fault. -/
  | invalid (more : Nat)
  /-- The start of a character that is cut off. -/
  | incomplete

/-- What a first byte and those after it stand for. -/
def front (b : UInt8) (bs : List UInt8) : Front :=
  match lead? b with
  | none => .invalid 0
  | some (bits, count, low, high) =>
    let more := following count low high bs
    if more.length = count then
      .char (Char.ofNat (more.foldl (fun n b => 64 * n + (b.toNat - 0x80)) bits)) count
    else if more.length = bs.length then .incomplete
    else .invalid more.length

/-- The characters of some bytes, which start at an index. -/
def decodeFrom (index : Nat) : List UInt8 → Except Utf8Fault (List Char)
  | [] => .ok []
  | b :: bs =>
    match front b bs with
    | .char c more => do return c :: (← decodeFrom (index + more + 1) (bs.drop more))
    | .invalid more => .error (.invalid (more + 1) index)
    | .incomplete => .error (.incomplete index)
termination_by bs => bs.length
decreasing_by simp only [List.length_drop, List.length_cons]; omega

/-- The text of some bytes, if they are one. -/
def decode (bytes : List UInt8) : Except Utf8Fault String := String.ofList <$> decodeFrom 0 bytes

/-- The characters of some bytes, with a mark for each fault. -/
def decodeChars : List UInt8 → List Char
  | [] => []
  | b :: bs =>
    match front b bs with
    | .char c more => c :: decodeChars (bs.drop more)
    | .invalid more => '\ufffd' :: decodeChars (bs.drop more)
    | .incomplete => ['\ufffd']
termination_by bs => bs.length
decreasing_by all_goals simp only [List.length_drop, List.length_cons]; omega

/-- The text of some bytes, with a mark for each fault. -/
def decodeLossy (bytes : List UInt8) : String := String.ofList (decodeChars bytes)

end Utf8

end HistoryTrim.Text
