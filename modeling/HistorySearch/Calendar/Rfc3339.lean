-- SUMMARY: Reading of RFC 3339 date-times.
import HistorySearch.Calendar.Pattern

/-!
# RFC 3339

The strict form: every field has its full number of digits and the offset is written. Between
date and time `T`, `t` or a space may stand; the offset is `Z`, `z` or a sign with hours and
minutes, where the sign may also be U+2212.
-/

namespace HistorySearch.Rfc3339

def expect (c : Char) : List Char → Option (List Char)
  | d :: cs => if d = c then some cs else none
  | [] => none

/-- The sign of an offset, as 1 or -1. -/
def readSign : List Char → Option (Int × List Char)
  | '+' :: cs => some (1, cs)
  | '-' :: cs => some (-1, cs)
  | '\u2212' :: cs => some (-1, cs)
  | _ => none

/-- An offset in minutes. -/
def readOffset (cs : List Char) : Option (Int × List Char) :=
  match cs with
  | 'Z' :: rest => some (0, rest)
  | 'z' :: rest => some (0, rest)
  | _ => do
    let (sign, cs) ← readSign cs
    let (hours, cs) ← Decimal.readExactly 2 cs
    let cs ← expect ':' cs
    let (minutes, cs) ← Decimal.readExactly 2 cs
    if hours ≤ 23 ∧ minutes ≤ 59 then some (sign * (60 * hours + minutes : Nat), cs) else none

def readDate (cs : List Char) : Option (ClockFields × List Char) := do
  let (year, cs) ← Decimal.readExactly 4 cs
  let cs ← expect '-' cs
  let (month, cs) ← Decimal.readExactly 2 cs
  let cs ← expect '-' cs
  let (day, cs) ← Decimal.readExactly 2 cs
  some ({ ClockFields.unset with year := year, month := month, day := day }, cs)

/-- An hour, minute and second, added to the fields of a date. -/
def readTime (f : ClockFields) (cs : List Char) : Option (ClockFields × List Char) := do
  let (hour, cs) ← Decimal.readExactly 2 cs
  let cs ← expect ':' cs
  let (minute, cs) ← Decimal.readExactly 2 cs
  let cs ← expect ':' cs
  let (second, cs) ← Decimal.readExactly 2 cs
  some ({ f with hour := hour, minute := minute, second := second }, cs)

def readDelimiter : List Char → Option (List Char)
  | c :: cs => if c = 'T' ∨ c = 't' ∨ c = ' ' then some cs else none
  | [] => none

def read (cs : List Char) : Option Timestamp := do
  let (f, cs) ← readDate cs
  let cs ← readDelimiter cs
  let (f, cs) ← readTime f cs
  let (f, cs) ← PatternItem.fraction.read f cs
  let (offset, cs) ← readOffset cs
  if cs.isEmpty then
    let clock ← f.toClockTime?
    some (clock.withOffset offset)
  else none

end HistorySearch.Rfc3339
