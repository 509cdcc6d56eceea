-- SUMMARY: Hexadecimal digits.

/-!
# Hexadecimal digits
-/

namespace HistorySearch.Hex

/-- The digit of a value below 16, in capitals. -/
def upper (n : Nat) : Char :=
  Char.ofNat (if n < 10 then 48 + n else 55 + n)

/-- The digit of a value below 16, in small letters. -/
def lower (n : Nat) : Char :=
  Char.ofNat (if n < 10 then 48 + n else 87 + n)

/-- The value of a digit of either case. -/
def value? (c : Char) : Option Nat :=
  if '0' ≤ c ∧ c ≤ '9' then some (c.toNat - 48)
  else if 'A' ≤ c ∧ c ≤ 'F' then some (c.toNat - 55)
  else if 'a' ≤ c ∧ c ≤ 'f' then some (c.toNat - 87)
  else none

theorem value?_upper {n : Nat} (h : n < 16) : value? (upper n) = some n := by
  have : ∀ m : Fin 16, value? (upper m) = some m.val := by decide
  exact this ⟨n, h⟩

theorem value?_lower {n : Nat} (h : n < 16) : value? (lower n) = some n := by
  have : ∀ m : Fin 16, value? (lower m) = some m.val := by decide
  exact this ⟨n, h⟩

/-- The number that digits stand for, the highest first; `none` if one of them is no digit. -/
def number? (cs : List Char) : Option Nat :=
  cs.foldlM (fun n c => (value? c).map (16 * n + ·)) 0

/-- The digits of a number in small letters, without leading zeros. -/
def lowerDigits (n : Nat) : List Char :=
  Nat.toDigits 16 n

/-- The digits of a number in capitals, with leading zeros up to a width. -/
def upperPadded (width n : Nat) : List Char :=
  let digits := (Nat.toDigits 16 n).map Char.toUpper
  List.replicate (width - digits.length) '0' ++ digits

end HistorySearch.Hex
