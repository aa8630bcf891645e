/-! # Words and numbers

Integers that fit a word of 64 bits, the numbers that texts denote, and the shortest texts that
denote a floating point number.
-/

/-! ## Words

Heights and leading keys are signed words of 64 bits, counters unsigned ones. A number that was read
or computed without a bound is checked before it becomes a word.
-/

namespace HistoryTrim

/-- An integer fits a signed word of 64 bits. -/
def fitsInt64 (n : Int) : Bool := Int64.minValue.toInt ≤ n && n ≤ Int64.maxValue.toInt

/-- A number fits an unsigned word of 64 bits. -/
def fitsUInt64 (n : Nat) : Bool := n < UInt64.size

def int64? (n : Int) : Option Int64 := if fitsInt64 n then some (Int64.ofInt n) else none

end HistoryTrim

/-! ## Numbers in texts

A text denotes a number when it is a decimal literal between blanks: digits with an optional
sign, point and exponent. Fractions are kept to the precision of a 64-bit floating point number.
-/

namespace HistoryTrim.Text

/-- The greatest `e` with `2 ^ e ≤ q`, for a positive number. -/
def floorLog2 (q : Rat) : Int :=
  let e : Int := (q.num.natAbs.log2 : Int) - (q.den.log2 : Int)
  if (2 : Rat) ^ e ≤ q then e else e - 1

/-- The integer nearest to a number; of two nearest ones the even one. -/
def roundHalfEven (q : Rat) : Int :=
  let f := q.floor
  let rest := q - f
  if rest < 1 / 2 then f
  else if 1 / 2 < rest then f + 1
  else if f % 2 = 0 then f else f + 1

/-- The nearest number with 53 significant bits and an exponent of at least `-1074`. -/
def nearestBinary64 (q : Rat) : Rat :=
  if q = 0 then 0
  else
    let e := max (floorLog2 q.abs - 52) (-1074)
    roundHalfEven (q / (2 : Rat) ^ e) * (2 : Rat) ^ e

/-- What a text denotes when it denotes a number. -/
inductive Number where
  /-- Written without a point or an exponent. -/
  | whole (value : Int)
  /-- Written with a point or an exponent. -/
  | decimal (value : Rat)
  deriving Repr, DecidableEq

/-- Blanks that may surround a number. -/
def isNumberBlank (c : Char) : Bool :=
  c == ' ' || (9 ≤ c.toNat && c.toNat ≤ 13)

/-- The number that decimal digits denote. -/
def digitsValue (ds : List Char) : Nat :=
  ds.foldl (fun n d => 10 * n + (d.toNat - '0'.toNat)) 0

/-- Leading digits of a text, and the rest. -/
def spanDigits (cs : List Char) : List Char × List Char :=
  (cs.takeWhile Char.isDigit, cs.dropWhile Char.isDigit)

/-- A sign, if one is written, and the rest. -/
def takeSign : List Char → Bool × List Char
  | '-' :: cs => (true, cs)
  | '+' :: cs => (false, cs)
  | cs => (false, cs)

/-- The exponent at the end of a literal, zero if none is written. -/
def exponentOf? : List Char → Option (Bool × Int)
  | [] => some (false, 0)
  | c :: cs =>
    if c = 'e' ∨ c = 'E' then
      let (negative, cs) := takeSign cs
      let (digits, rest) := spanDigits cs
      if digits.isEmpty || !rest.isEmpty then none
      else
        let n : Int := digitsValue digits
        some (true, if negative then -n else n)
    else none

/-- An exponent of ten beside so many digits, kept within bounds beyond which no 64-bit floating
    point number tells two of them apart. -/
def boundedExponent (digits : Nat) (exponent : Int) : Int :=
  max (-(digits : Int) - 400) (min exponent 400)

/-- The number that a text denotes, if it is a decimal literal. -/
def number? (s : String) : Option Number :=
  let inner := ((s.toList.dropWhile isNumberBlank).reverse.dropWhile isNumberBlank).reverse
  let (negative, cs) := takeSign inner
  let (wholeDigits, cs) := spanDigits cs
  let (hasPoint, fraction, cs) :=
    match cs with
    | '.' :: rest =>
      let (f, rest) := spanDigits rest
      (true, f, rest)
    | _ => (false, [], cs)
  if wholeDigits.isEmpty && fraction.isEmpty then none
  else match exponentOf? cs with
    | none => none
    | some (hasExponent, e) =>
      let digits := wholeDigits ++ fraction
      let magnitude := digitsValue digits
      let signed : Int := if negative then -(magnitude : Int) else magnitude
      if hasPoint || hasExponent then
        let exponent := boundedExponent digits.length (e - (fraction.length : Int))
        some (.decimal ((signed : Rat) * (10 : Rat) ^ exponent))
      else some (.whole signed)

/-! ## Shortest decimals

A floating point number is written with the fewest decimal digits that still read back as that
number, and of those the nearest. Digits stand at their places, without an exponent.
-/

/-- A 64-bit floating point number. -/
inductive Binary64 where
  | finite (negative : Bool) (magnitude : Rat)
  | infinite (negative : Bool)
  | notANumber
  deriving Repr, DecidableEq

namespace Binary64

/-- The number nearest to a fraction; beyond the greatest one it is infinite. -/
def ofRat (negative : Bool) (magnitude : Rat) : Binary64 :=
  let q := nearestBinary64 magnitude
  if (2 : Rat) ^ (1024 : Int) ≤ q then infinite negative else finite negative q

/-- The number nearest to digits times a power of ten. All numbers of more than 310 digits are
    infinite, and all whose first 330 decimals are zero are zero. -/
def ofDecimal (negative : Bool) (digits : Nat) (exponent : Int) : Binary64 :=
  let size := exponent + (Nat.toDigits 10 digits).length
  if digits = 0 || size < -330 then finite negative 0
  else if 310 < size then infinite negative
  else ofRat negative (digits * (10 : Rat) ^ exponent)

end Binary64

/-- The greatest `e` with `10 ^ e ≤ q`, for a positive number. -/
def floorLog10 (q : Rat) : Int :=
  let e : Int := ((Nat.toDigits 10 q.num.natAbs).length : Int) - (Nat.toDigits 10 q.den).length
  if (10 : Rat) ^ e ≤ q then e else e - 1

/-- A number as an integer times a power of ten. -/
structure ScaledInt where
  coefficient : Int
  exponent : Int
  deriving Repr, DecidableEq

def ScaledInt.value (s : ScaledInt) : Rat := s.coefficient * (10 : Rat) ^ s.exponent

/-- The next greater number with so many digits. -/
def ScaledInt.next (s : ScaledInt) (digits : Nat) : ScaledInt :=
  if s.coefficient + 1 = Nat.pow 10 digits then ⟨Nat.pow 10 (digits - 1), s.exponent + 1⟩
  else ⟨s.coefficient + 1, s.exponent⟩

/-- The decimal with so many digits that reads back as a number; the nearer of two. -/
def withDigits? (q : Rat) (digits : Nat) : Option ScaledInt :=
  let exponent := floorLog10 q - digits + 1
  let below : ScaledInt := ⟨(q / (10 : Rat) ^ exponent).floor, exponent⟩
  let above := below.next digits
  match nearestBinary64 below.value == q, nearestBinary64 above.value == q with
  | true, true => some (if q - below.value ≤ above.value - q then below else above)
  | true, false => some below
  | false, true => some above
  | false, false => none

/-- The decimal with the fewest digits that reads back as a number. -/
def shortest (q : Rat) : ScaledInt :=
  ((List.range 17).findSome? fun n => withDigits? q (n + 1)).getD ⟨q.floor, 0⟩

/-- A nonnegative decimal with its digits at their places. -/
def ScaledInt.positional (s : ScaledInt) : String :=
  let digits := Nat.toDigits 10 s.coefficient.toNat
  if 0 ≤ s.exponent then String.ofList (digits ++ List.replicate s.exponent.toNat '0')
  else
    let places := (-s.exponent).toNat
    let padded := List.replicate (places + 1 - digits.length) '0' ++ digits
    String.ofList
      (padded.take (padded.length - places) ++ '.' :: padded.drop (padded.length - places))

namespace Binary64

def text : Binary64 → String
  | finite negative q =>
    (if negative then "-" else "") ++ (if q = 0 then "0" else (shortest q).positional)
  | infinite negative => if negative then "-inf" else "inf"
  | notANumber => "NaN"

end Binary64

end HistoryTrim.Text
