-- SUMMARY: Instants with a UTC offset, their clock fields, and their two written forms.
import HistorySearch.Calendar.Date
import HistorySearch.Text.Decimal

/-!
# Timestamps

A timestamp is an instant together with the UTC offset it was written with. A leap second is
kept as the second before it with a billion nanoseconds or more.
-/

namespace HistorySearch

/-- An instant and the offset it is shown with: whole seconds since 1970-01-01T00:00:00Z,
nanoseconds after that second, and minutes east of UTC. -/
structure Timestamp where
  epoch : Int
  nanos : Nat
  offset : Int
  deriving DecidableEq

/-- A calendar day and the time on its clock. -/
structure ClockTime where
  date : Date
  hour : Nat
  minute : Nat
  second : Nat
  nanos : Nat
  deriving DecidableEq

namespace ClockTime

/-- The clock of UTC at so many whole seconds since 1970. -/
def ofEpoch (epoch : Int) (nanos : Nat) : ClockTime :=
  let ofDay := (epoch % 86400).toNat
  ⟨Date.ofDays (epoch / 86400), ofDay / 3600, ofDay / 60 % 60, ofDay % 60, nanos⟩

/-- The whole seconds since 1970 at which a clock of UTC shows this time. -/
def toEpoch (c : ClockTime) : Int :=
  86400 * c.date.toDays + (3600 * c.hour + 60 * c.minute + c.second : Nat)

/-- The instant at which a clock with this offset shows the time. -/
def withOffset (c : ClockTime) (offset : Int) : Timestamp :=
  ⟨c.toEpoch - 60 * offset, c.nanos, offset⟩

/-- The second as it is written: a leap second is the 60th. -/
def shownSecond (c : ClockTime) : Nat :=
  c.second + c.nanos / 1000000000

def shownNanos (c : ClockTime) : Nat :=
  c.nanos % 1000000000

/-! ## Text -/

/-- The text of a year: four digits, with a sign only outside of 0 to 9999. -/
def yearText (year : Int) : List Char :=
  if 0 ≤ year ∧ year ≤ 9999 then Decimal.padded 4 year.natAbs
  else (if year < 0 then '-' else '+') :: Decimal.padded 4 year.natAbs

def minuteText (c : ClockTime) : List Char :=
  yearText c.date.year ++ '-' :: Decimal.padded 2 c.date.month ++ '-' ::
    Decimal.padded 2 c.date.day ++ 'T' :: Decimal.padded 2 c.hour ++ ':' ::
    Decimal.padded 2 c.minute

def secondText (c : ClockTime) : List Char :=
  c.minuteText ++ ':' :: Decimal.padded 2 c.shownSecond

/-- The fraction of a second in 3, 6 or 9 digits, whichever suffices; nothing for 0. -/
def fractionText (nanos : Nat) : List Char :=
  if nanos = 0 then []
  else if nanos % 1000000 = 0 then '.' :: Decimal.padded 3 (nanos / 1000000)
  else if nanos % 1000 = 0 then '.' :: Decimal.padded 6 (nanos / 1000)
  else '.' :: Decimal.padded 9 nanos

end ClockTime

namespace Timestamp

/-- The clock with the timestamp's own offset. -/
def clock (t : Timestamp) : ClockTime :=
  ClockTime.ofEpoch (t.epoch + 60 * t.offset) t.nanos

def utc (t : Timestamp) : ClockTime :=
  ClockTime.ofEpoch t.epoch t.nanos

/-- The text of an offset: hours and minutes after the sign, and `Z` for UTC. -/
def offsetText (offset : Int) : List Char :=
  if offset = 0 then ['Z']
  else (if offset < 0 then '-' else '+') :: Decimal.padded 2 (offset.natAbs / 60) ++ ':' ::
    Decimal.padded 2 (offset.natAbs % 60)

def encodeChars (t : Timestamp) : List Char :=
  t.clock.secondText ++ ClockTime.fractionText t.clock.shownNanos ++ offsetText t.offset

/-- The form in which a timestamp stands in a URL: the local time with its offset, complete. -/
def encode (t : Timestamp) : String :=
  String.ofList t.encodeChars

def inputValueChars (t : Timestamp) : List Char :=
  let c := t.utc
  if c.nanos ≠ 0 then c.secondText ++ '.' :: Decimal.padded 3 (c.shownNanos / 1000000)
  else if c.second ≠ 0 then c.secondText
  else c.minuteText

/-- The form in which a page shows a timestamp in a `datetime-local` input: UTC, no finer than
milliseconds, without seconds or milliseconds that are zero. -/
def inputValue (t : Timestamp) : String :=
  String.ofList t.inputValueChars

/-- What a `datetime-local` input shows; nothing if there is no date. -/
def inputText (date : Option Timestamp) : String :=
  (date.map inputValue).getD ""

end Timestamp

end HistorySearch
