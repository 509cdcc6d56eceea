-- SUMMARY: Days of the proleptic Gregorian calendar and their number since 1970-01-01.

/-!
# Calendar days

A year's first day is found from the number of leap years before it, a month's from the lengths
of the months before it. `Date.ofDays` estimates the year from the mean length of a year and
corrects the estimate by at most one.
-/

namespace HistorySearch

/-- A year, month and day of the Gregorian calendar, extended to all years. -/
structure Date where
  year : Int
  month : Nat
  day : Nat
  deriving DecidableEq

namespace Date

/-- Every fourth year is a leap year, of the full centuries only every fourth. -/
def isLeap (year : Int) : Bool :=
  year % 4 = 0 && (year % 100 ≠ 0 || year % 400 = 0)

def monthLength (leap : Bool) : Nat → Nat
  | 2 => if leap then 29 else 28
  | 4 => 30
  | 6 => 30
  | 9 => 30
  | 11 => 30
  | _ => 31

/-- Whether the month has such a day. -/
def IsDay (d : Date) : Prop :=
  1 ≤ d.month ∧ d.month ≤ 12 ∧ 1 ≤ d.day ∧ d.day ≤ monthLength (isLeap d.year) d.month

instance (d : Date) : Decidable d.IsDay :=
  inferInstanceAs (Decidable (_ ∧ _ ∧ _ ∧ _))

/-! ## Counting days -/

def daysBeforeMonth (leap : Bool) : Nat → Nat
  | m + 2 => daysBeforeMonth leap (m + 1) + monthLength leap (m + 1)
  | _ => 0

/-- The days before a year, counted from the start of year 1 less 365. -/
def daysBeforeYear (year : Int) : Int :=
  365 * year + (year - 1) / 4 - (year - 1) / 100 + (year - 1) / 400

/-- The number of days since 1970-01-01. -/
def toDays (d : Date) : Int :=
  daysBeforeYear d.year - daysBeforeYear 1970 + daysBeforeMonth (isLeap d.year) d.month +
    (d.day - 1 : Nat)

/-- The year in which the day with this number, counted as in `daysBeforeYear`, lies. -/
def yearOf (n : Int) : Int :=
  let estimate := n * 400 / 146097
  if n < daysBeforeYear estimate then estimate - 1
  else if daysBeforeYear (estimate + 1) ≤ n then estimate + 1
  else estimate

/-- The last month up to `m` that starts by the `n`-th day of the year, counted from 0. -/
def monthOf (leap : Bool) (n : Nat) : Nat → Nat
  | m + 2 => if daysBeforeMonth leap (m + 2) ≤ n then m + 2 else monthOf leap n (m + 1)
  | m => m

/-- The day with this number since 1970-01-01. -/
def ofDays (n : Int) : Date :=
  let n := n + daysBeforeYear 1970
  let year := yearOf n
  let inYear := (n - daysBeforeYear year).toNat
  let month := monthOf (isLeap year) inYear 12
  ⟨year, month, inYear - daysBeforeMonth (isLeap year) month + 1⟩

end Date

end HistorySearch
