-- SUMMARY: Decimal digits.

/-!
# Decimal digits
-/

namespace HistorySearch.Decimal

def isDigit (c : Char) : Bool :=
  '0' ≤ c && c ≤ '9'

/-- The number that digits stand for, the highest first. -/
def value (ds : List Char) : Nat :=
  ds.foldl (fun n d => 10 * n + (d.toNat - 48)) 0

/-- The digits of a number, without leading zeros. -/
def digits (n : Nat) : List Char :=
  Nat.toDigits 10 n

/-- The digits of a number, with leading zeros up to a width. -/
def padded (width n : Nat) : List Char :=
  List.replicate (width - (digits n).length) '0' ++ digits n

/-- The text of an integer: a minus sign if it is negative, then its digits. -/
def ofInt (i : Int) : List Char :=
  if i < 0 then '-' :: digits i.natAbs else digits i.natAbs

/-- A number of exactly `width` digits, and the characters after it. -/
def readExactly (width : Nat) (cs : List Char) : Option (Nat × List Char) :=
  let ds := (cs.take width).takeWhile isDigit
  if ds.length = width then some (value ds, cs.drop width) else none

/-- A number of one digit or more, up to `width` of them, and the characters after it. -/
def readUpTo (width : Nat) (cs : List Char) : Option (Nat × List Char) :=
  match (cs.take width).takeWhile isDigit with
  | [] => none
  | d :: ds => some (value (d :: ds), cs.drop (ds.length + 1))

/-- A number of any count of digits from one up, and the characters after it. -/
def readAll (cs : List Char) : Option (Nat × List Char) :=
  match cs.takeWhile isDigit with
  | [] => none
  | d :: ds => some (value (d :: ds), cs.dropWhile isDigit)

end HistorySearch.Decimal
