-- SUMMARY: Reading of padded decimal numbers.
import Mathlib.Algebra.Group.Nat.Defs
import HistorySearch.Proofs.Text.Blank
import HistorySearch.Text.Decimal

/-!
# Decimal numbers

A number that fits a width is written with exactly that many digits, and these are read back
whatever follows them.
-/

namespace HistorySearch.Decimal

theorem value_eq (ds : List Char) : value ds = Nat.ofDigitChars 10 ds 0 := by
  rw [Nat.ofDigitChars_eq_foldl]
  rfl

theorem value_digits (n : Nat) : value (digits n) = n := by
  rw [value_eq]
  exact Nat.ofDigitChars_ten_toDigits

theorem isDigit_of_mem_digits {n : Nat} {c : Char} (h : c ∈ digits n) : isDigit c :=
  Nat.isDigit_of_mem_toDigits (by decide) (by decide) h

theorem isDigit_of_mem_padded {width n : Nat} {c : Char} (h : c ∈ padded width n) : isDigit c := by
  rcases List.mem_append.mp h with h | h
  · rw [List.eq_of_mem_replicate h]
    rfl
  · exact isDigit_of_mem_digits h

theorem value_padded (width n : Nat) : value (padded width n) = n := by
  rw [value_eq, padded, Nat.ofDigitChars_append, Nat.ofDigitChars_replicate_zero, Nat.mul_zero,
    ← value_eq, value_digits]

theorem length_padded {width n : Nat} (hwidth : 0 < width) (h : n < 10 ^ width) :
    (padded width n).length = width := by
  have hle : (digits n).length ≤ width := (Nat.length_toDigits_le_iff (by decide) hwidth).mpr h
  rw [padded, List.length_append, List.length_replicate]
  omega

/-- Digits are taken as far as they go. -/
theorem takeWhile_digits {ds rest : List Char} (hds : ∀ d ∈ ds, isDigit d)
    (h : ∀ c ∈ rest.head?, !isDigit c) : (ds ++ rest).takeWhile isDigit = ds :=
  (takeWhile_dropWhile_append hds (by simpa using h)).1

theorem dropWhile_digits {ds rest : List Char} (hds : ∀ d ∈ ds, isDigit d)
    (h : ∀ c ∈ rest.head?, !isDigit c) : (ds ++ rest).dropWhile isDigit = rest :=
  (takeWhile_dropWhile_append hds (by simpa using h)).2

theorem takeWhile_padded (width n : Nat) {rest : List Char} (h : ∀ c ∈ rest.head?, !isDigit c) :
    (padded width n ++ rest).takeWhile isDigit = padded width n :=
  takeWhile_digits (fun _ hc => isDigit_of_mem_padded hc) h

theorem dropWhile_padded (width n : Nat) {rest : List Char} (h : ∀ c ∈ rest.head?, !isDigit c) :
    (padded width n ++ rest).dropWhile isDigit = rest :=
  dropWhile_digits (fun _ hc => isDigit_of_mem_padded hc) h

/-- A number that fits the width is written with all the digits that are looked at. -/
theorem takeWhile_take_padded {width n : Nat} (hwidth : 0 < width) (h : n < 10 ^ width)
    (rest : List Char) :
    ((padded width n ++ rest).take width).takeWhile isDigit = padded width n ∧
      (padded width n ++ rest).drop width = rest := by
  have hlength := length_padded hwidth h
  have hself := takeWhile_padded width n (show ∀ c ∈ ([] : List Char).head?, !isDigit c by simp)
  constructor
  · rw [List.take_append_of_le_length (by omega), List.take_of_length_le (by omega)]
    simpa using hself
  · rw [List.drop_append_of_le_length (by omega), List.drop_of_length_le (by omega)]
    rfl

/-- A number is read back from its digits, whatever follows. -/
theorem readExactly_padded {width n : Nat} (hwidth : 0 < width) (h : n < 10 ^ width)
    (rest : List Char) : readExactly width (padded width n ++ rest) = some (n, rest) := by
  obtain ⟨hdigits, hdrop⟩ := takeWhile_take_padded hwidth h rest
  rw [readExactly, hdigits, if_pos (length_padded hwidth h), hdrop, value_padded]

theorem padded_ne_nil (width n : Nat) : padded width n ≠ [] := by
  intro hnil
  have hdigits : digits n = [] := (List.append_eq_nil_iff.mp hnil).2
  exact Nat.toDigits_ne_nil hdigits

/-- So it is where fewer digits would do. -/
theorem readUpTo_padded {width n : Nat} (hwidth : 0 < width) (h : n < 10 ^ width)
    (rest : List Char) : readUpTo width (padded width n ++ rest) = some (n, rest) := by
  obtain ⟨hdigits, hdrop⟩ := takeWhile_take_padded hwidth h rest
  have hlength := length_padded hwidth h
  rw [readUpTo, hdigits]
  split
  · rename_i hnil
    exact absurd hnil (padded_ne_nil width n)
  · rename_i d ds hcons
    rw [hcons, List.length_cons] at hlength
    rw [← hcons, value_padded, hlength, hdrop]

/-- Where any count of digits is read, no other digit may follow. -/
theorem readAll_padded (width n : Nat) {rest : List Char} (h : ∀ c ∈ rest.head?, !isDigit c) :
    readAll (padded width n ++ rest) = some (n, rest) := by
  rw [readAll, takeWhile_padded width n h, dropWhile_padded width n h]
  split
  · rename_i hnil
    exact absurd hnil (padded_ne_nil width n)
  · rename_i d ds hcons
    rw [← hcons, value_padded]

theorem toNat_sub_lt {c : Char} (h : isDigit c) : c.toNat - 48 < 10 := by
  simp only [isDigit, Bool.and_eq_true, decide_eq_true_eq, Char.le_def, UInt32.le_iff_toNat_le] at h
  have hle : c.toNat ≤ 57 := h.2
  omega

/-- So many digits, each below the base, stand for a number below the power of the base. -/
theorem foldl_lt {α : Type} {base : Nat} {f : α → Nat} {as : List α} (h : ∀ a ∈ as, f a < base)
    (n : Nat) :
    as.foldl (fun n a => base * n + f a) n < (n + 1) * base ^ as.length := by
  induction as generalizing n with
  | nil => simp
  | cons a as ih =>
    have ha : f a + 1 ≤ base := h a List.mem_cons_self
    have has := ih (fun b hb => h b (List.mem_cons_of_mem _ hb)) (base * n + f a)
    have hstep : base * n + f a + 1 ≤ (n + 1) * base := by
      rw [Nat.add_mul, Nat.one_mul, Nat.mul_comm n]
      omega
    rw [List.foldl_cons, List.length_cons, Nat.pow_succ]
    calc _ < (base * n + f a + 1) * base ^ as.length := has
      _ ≤ (n + 1) * base * base ^ as.length := Nat.mul_le_mul_right _ hstep
      _ = (n + 1) * (base ^ as.length * base) := by rw [Nat.mul_assoc, Nat.mul_comm base]

theorem value_lt {ds : List Char} (h : ∀ c ∈ ds, isDigit c) : value ds < 10 ^ ds.length := by
  have hfold := foldl_lt (f := fun d : Char => d.toNat - 48) (fun c hc => toNat_sub_lt (h c hc)) 0
  simpa [value] using hfold

/-- The digits of a number start with a zero only if that is all of them. -/
theorem digits_of_zero_cons {n : Nat} {ds : List Char} (h : digits n = '0' :: ds) : ds = [] := by
  have hdigits : ∀ c ∈ ds, isDigit c := fun c hc => by
    apply isDigit_of_mem_digits (n := n)
    rw [h]
    exact List.mem_cons_of_mem _ hc
  have hvalue : value ds = n := by
    rw [← value_digits n, h]
    rfl
  have hlt : n < 10 ^ ds.length := hvalue ▸ value_lt hdigits
  cases ds with
  | nil => rfl
  | cons d ds =>
    have hlength := (Nat.length_toDigits_le_iff (by decide) (Nat.succ_pos ds.length)).mpr hlt
    change (digits n).length ≤ _ at hlength
    rw [h, List.length_cons, List.length_cons] at hlength
    omega

/-- Digits do not start with a sign. -/
theorem digits_ne_cons {n : Nat} {c : Char} (hc : isDigit c = false) (cs : List Char) :
    digits n ≠ c :: cs := by
  intro hcons
  have hdigit : isDigit c := isDigit_of_mem_digits (hcons ▸ List.mem_cons_self)
  exact ne_of_holds hdigit hc rfl

end HistorySearch.Decimal
