-- SUMMARY: Reading of clock times by a pattern of fields and separators.
import HistorySearch.Calendar.Timestamp
import HistorySearch.Text.Blank

/-!
# Date patterns

A pattern is a list of fields and separators. A numeric field may follow white space and need
not be padded with zeros; a year may have a sign and then any number of digits. The whole text
has to be used up.
-/

namespace HistorySearch

/-- The numbers that a text gives for a clock time, not yet checked for range. -/
structure ClockFields where
  year : Int
  month : Nat
  day : Nat
  hour : Nat
  minute : Nat
  second : Nat
  fraction : Nat
  deriving DecidableEq

namespace ClockFields

/-- What is taken for the fields that a pattern does not have. -/
def unset : ClockFields :=
  ⟨0, 0, 0, 0, 0, 0, 0⟩

/-- The clock time that the numbers give, if they are in range. The 60th second of any minute is
taken for a leap second. -/
def toClockTime? (f : ClockFields) : Option ClockTime :=
  let date : Date := ⟨f.year, f.month, f.day⟩
  if date.IsDay ∧ f.hour ≤ 23 ∧ f.minute ≤ 59 ∧ f.second ≤ 60 then
    if f.second = 60 then some ⟨date, f.hour, f.minute, 59, 1000000000 + f.fraction⟩
    else some ⟨date, f.hour, f.minute, f.second, f.fraction⟩
  else none

end ClockFields

/-- The nanoseconds that the digits of a fraction stand for; digits after the ninth are ignored. -/
def fractionNanos (ds : List Char) : Nat :=
  Decimal.value (ds.take 9) * Nat.pow 10 (9 - ds.length)

/-- The digits after a point, as nanoseconds, and the characters after them. -/
def readFraction (cs : List Char) : Option (Nat × List Char) :=
  match cs.takeWhile Decimal.isDigit with
  | [] => none
  | d :: ds => some (fractionNanos (d :: ds), cs.dropWhile Decimal.isDigit)

/-- A part of a pattern. -/
inductive PatternItem
  | year
  | month
  | day
  | hour
  | minute
  | second
  /-- A point and digits; may be missing. -/
  | fraction
  | separator (c : Char)
  deriving DecidableEq

namespace PatternItem

/-- A field of one or two digits after optional white space. -/
def readShort (cs : List Char) : Option (Nat × List Char) :=
  Decimal.readUpTo 2 (Blank.trimStart cs)

/-- A year after optional white space: up to four digits, or a sign and any number of them. -/
def readYear (cs : List Char) : Option (Int × List Char) :=
  match Blank.trimStart cs with
  | '-' :: rest => (Decimal.readAll rest).map fun r => (-(r.1 : Int), r.2)
  | '+' :: rest => (Decimal.readAll rest).map fun r => ((r.1 : Int), r.2)
  | plain => (Decimal.readUpTo 4 plain).map fun r => ((r.1 : Int), r.2)

/-- Reads one part of a pattern into the fields. -/
def read : PatternItem → ClockFields → List Char → Option (ClockFields × List Char)
  | year, f, cs => (readYear cs).map fun r => ({ f with year := r.1 }, r.2)
  | month, f, cs => (readShort cs).map fun r => ({ f with month := r.1 }, r.2)
  | day, f, cs => (readShort cs).map fun r => ({ f with day := r.1 }, r.2)
  | hour, f, cs => (readShort cs).map fun r => ({ f with hour := r.1 }, r.2)
  | minute, f, cs => (readShort cs).map fun r => ({ f with minute := r.1 }, r.2)
  | second, f, cs => (readShort cs).map fun r => ({ f with second := r.1 }, r.2)
  | fraction, f, '.' :: cs => (readFraction cs).map fun r => ({ f with fraction := r.1 }, r.2)
  | fraction, f, cs => some (f, cs)
  | separator c, f, d :: cs => if c = d then some (f, cs) else none
  | separator _, _, [] => none

/-- Reads a whole text by a pattern. -/
def readAll : List PatternItem → ClockFields → List Char → Option ClockFields
  | [], f, [] => some f
  | [], _, _ :: _ => none
  | item :: items, f, cs => (item.read f cs).bind fun r => readAll items r.1 r.2

end PatternItem

/-- A list of fields and separators. -/
abbrev Pattern := List PatternItem

namespace Pattern

open PatternItem

def date : Pattern :=
  [year, separator '-', month, separator '-', day]

def toMinute : Pattern :=
  date ++ [separator 'T', hour, separator ':', minute]

def toSecond : Pattern :=
  toMinute ++ [separator ':', second]

/-- A date and a time to the second, with an optional fraction. -/
def toFraction : Pattern :=
  toSecond ++ [fraction]

/-- The clock time that a text gives by a pattern. -/
def read (p : Pattern) (cs : List Char) : Option ClockTime :=
  (PatternItem.readAll p ClockFields.unset cs).bind ClockFields.toClockTime?

end Pattern

end HistorySearch
