import HistoryTrim.Text.Characters
import HistoryTrim.Text.Number

/-! # Spans of time

Spans of time, and the texts that are read and shown for them.
-/

/-! ## Durations

A span of time in seconds and nanoseconds.
-/

namespace HistoryTrim

structure Duration where
  seconds : Nat
  /-- The part below a second. -/
  nanoseconds : Nat
  deriving Repr, DecidableEq

namespace Duration

def nanosPerSecond : Nat := 1000000000

/-- Whole milliseconds of a span. -/
def millis (d : Duration) : Nat := d.seconds * 1000 + d.nanoseconds / 1000000

end Duration

/-! ## Written durations

A duration is written as numbers with units, such as `1h 30m` or `1.5s`; the parts add up. It is
shown either in these units, the greatest first, or as one decimal number in the greatest unit up
to seconds.
-/

inductive TimeUnit where
  | nanosecond
  | microsecond
  | millisecond
  | second
  | minute
  | hour
  | day
  | week
  /-- A twelfth of a year to the hundredth of a day: 30.44 days. -/
  | month
  /-- A year of 365.25 days. -/
  | year
  deriving Repr, DecidableEq

namespace TimeUnit

/-- The unit that a word names. -/
def ofName? (name : String) : Option TimeUnit :=
  if name ∈ ["ns", "nsec", "nanos"] then some nanosecond
  else if name ∈ ["us", "usec", "µs"] then some microsecond
  else if name ∈ ["ms", "msec", "millis"] then some millisecond
  else if name ∈ ["s", "sec", "secs", "second", "seconds"] then some second
  else if name ∈ ["m", "min", "mins", "minute", "minutes"] then some minute
  else if name ∈ ["h", "hr", "hrs", "hour", "hours"] then some hour
  else if name ∈ ["d", "day", "days"] then some day
  else if name ∈ ["w", "wk", "wks", "week", "weeks"] then some week
  else if name ∈ ["M", "month", "months"] then some month
  else if name ∈ ["y", "yr", "yrs", "year", "years"] then some year
  else none

/-- Nanoseconds of a unit that is shorter than a second. -/
def nanos? : TimeUnit → Option Nat
  | nanosecond => some 1
  | microsecond => some 1000
  | millisecond => some 1000000
  | _ => none

/-- Seconds of a unit that is not shorter than a second. -/
def seconds : TimeUnit → Nat
  | minute => 60
  | hour => 3600
  | day => 86400
  | week => 604800
  | month => 2630016
  | year => 31557600
  | _ => 1

end TimeUnit

/-- A number with a unit; the fraction is given by the digits after the point. -/
structure TimeSpan where
  whole : Nat
  fraction : List Char
  unit : TimeUnit
  deriving Repr, DecidableEq

namespace TimeSpan

/-- Numbers that do not fit into 64 bits are not accepted. -/
def fit? (n : Nat) : Option Nat := if fitsUInt64 n then some n else none

/-- Seconds and nanoseconds of a part of a unit; parts of minutes and of shorter units are kept to
    the nanosecond, those of longer units to the second. -/
def fractionOf? (numerator denominator : Nat) (unit : TimeUnit) : Option (Nat × Nat) := do
  match unit with
  | .nanosecond => none
  | .second | .minute =>
    return (0, (← fit? (numerator * (unit.seconds * Duration.nanosPerSecond))) / denominator)
  | _ =>
    match unit.nanos? with
    | some n => return (0, (← fit? (numerator * n)) / denominator)
    | none => return ((← fit? (numerator * unit.seconds)) / denominator, 0)

def addTo? (d : Duration) (seconds nanoseconds : Nat) : Option Duration := do
  let nanos ← fit? (d.nanoseconds + nanoseconds)
  let seconds ← fit? (d.seconds + seconds + nanos / Duration.nanosPerSecond)
  return ⟨seconds, nanos % Duration.nanosPerSecond⟩

def add? (s : TimeSpan) (d : Duration) : Option Duration := do
  let whole ← fit? s.whole
  let d ← match s.unit.nanos? with
    | some n => addTo? d 0 (← fit? (whole * n))
    | none => addTo? d (← fit? (whole * s.unit.seconds)) 0
  if s.fraction.isEmpty then return d
  let denominator ← fit? (Nat.pow 10 s.fraction.length)
  let (seconds, nanos) ← fractionOf? (Text.digitsValue s.fraction) denominator s.unit
  addTo? d seconds nanos

/-- Digits, and blanks that may stand among them. -/
def isDigitOrBlank (c : Char) : Bool := c.isDigit || Text.isBlank c

/-- Letters of units. -/
def isUnitLetter (c : Char) : Bool := c.isAlpha || c == 'µ'

/-- The digits after a point, if there is one, and what follows them. -/
def takeFraction? : List Char → Option (List Char × List Char)
  | '.' :: cs =>
    let digits := (cs.takeWhile isDigitOrBlank).filter Char.isDigit
    if digits.isEmpty then none else some (digits, cs.dropWhile isDigitOrBlank)
  | cs => some ([], cs)

/-- The span at the front of a text that starts with a digit, and what follows it. -/
def take? (cs : List Char) : Option (TimeSpan × List Char) := do
  let digits := (cs.takeWhile isDigitOrBlank).filter Char.isDigit
  let (fraction, cs) ← takeFraction? (cs.dropWhile isDigitOrBlank)
  let unit ← TimeUnit.ofName? (String.ofList (cs.takeWhile isUnitLetter))
  return (⟨Text.digitsValue digits, fraction, unit⟩, cs.dropWhile isUnitLetter)

/-- The spans of a text, at most so many of them. -/
def readUpTo : Nat → List Char → Option (List TimeSpan)
  | 0, _ => none
  | n + 1, cs => do
    match cs.dropWhile Text.isBlank with
    | [] => return []
    | c :: cs =>
      if c.isDigit then
        let (span, rest) ← take? (c :: cs)
        return span :: (← readUpTo n rest)
      else none

def read? (text : String) : Option (List TimeSpan) := readUpTo (text.length + 1) text.toList

end TimeSpan

namespace Duration

/-- The duration that a text denotes; a lone zero needs no unit. -/
def read? (text : String) : Option Duration := do
  if text = "0" then return ⟨0, 0⟩
  match ← TimeSpan.read? text with
  | [] => none
  | spans => spans.foldlM (fun d s => s.add? d) ⟨0, 0⟩

/-- A part of a duration unless it is zero. -/
def part (n : Nat) (unit : String) : List String := if n = 0 then [] else [s!"{n}{unit}"]

/-- A part of a duration whose unit has a plural. -/
def pluralPart (n : Nat) (unit : String) : List String :=
  part n (if n = 1 then unit else unit ++ "s")

/-- The duration in units, the greatest first. -/
def written (d : Duration) : String :=
  let inYear := d.seconds % TimeUnit.year.seconds
  let inMonth := inYear % TimeUnit.month.seconds
  let inDay := inMonth % TimeUnit.day.seconds
  let parts :=
    pluralPart (d.seconds / TimeUnit.year.seconds) "year" ++
    pluralPart (inYear / TimeUnit.month.seconds) "month" ++
    pluralPart (inMonth / TimeUnit.day.seconds) "day" ++
    part (inDay / 3600) "h" ++ part (inDay % 3600 / 60) "m" ++ part (inDay % 60) "s" ++
    part (d.nanoseconds / 1000000) "ms" ++ part (d.nanoseconds / 1000 % 1000) "us" ++
    part (d.nanoseconds % 1000) "ns"
  if parts.isEmpty then "0s" else " ".intercalate parts

/-- A number with `rest / 10 ^ places` as its fraction, without zeros at the end. -/
def decimal (whole rest places : Nat) : String :=
  let digits := Nat.toDigits 10 rest
  let padded := List.replicate (places - digits.length) '0' ++ digits
  let kept := (padded.reverse.dropWhile (· == '0')).reverse
  if rest = 0 then toString whole else toString whole ++ "." ++ String.ofList kept

/-- The duration as one number in the greatest unit up to seconds that it fills. -/
def compact (d : Duration) : String :=
  if 0 < d.seconds then decimal d.seconds d.nanoseconds 9 ++ "s"
  else if 1000000 ≤ d.nanoseconds then
    decimal (d.nanoseconds / 1000000) (d.nanoseconds % 1000000) 6 ++ "ms"
  else if 1000 ≤ d.nanoseconds then
    decimal (d.nanoseconds / 1000) (d.nanoseconds % 1000) 3 ++ "µs"
  else s!"{d.nanoseconds}ns"

end Duration

end HistoryTrim
