-- SUMMARY: Reading the octets of a text gives the text back.
import Mathlib.Tactic.SplitIfs
import HistorySearch.Text.Utf8

/-!
# Texts as octets

`Utf8.decode` is total and replaces what is malformed. Here it is shown to read what
`Utf8.encode` writes: the octets of a character are taken one at a time, and each of them lies in
the range that the octets before it leave.
-/

namespace HistorySearch.Utf8

/-! ## Leading octets -/

theorem toNat_ofNat {n : Nat} (h : n < 256) : (UInt8.ofNat n).toNat = n := by
  simp [Nat.mod_eq_of_lt h]

theorem start_one {n : Nat} (h : n < 0x80) : start (UInt8.ofNat n) = ([Char.ofNat n], none) := by
  have hn : n < 256 := by omega
  simp only [start, UInt8.lt_iff_toNat_lt, toNat_ofNat hn]
  grind

theorem start_two {k : Nat} (h₁ : 2 ≤ k) (h₂ : k < 32) :
    start (UInt8.ofNat (k + 0xC0)) = ([], some ⟨k, 0, 0x80, 0xBF⟩) := by
  have hn : k + 0xC0 < 256 := by omega
  simp only [start, UInt8.lt_iff_toNat_lt, UInt8.le_iff_toNat_le, toNat_ofNat hn]
  grind

/-- After the first of three octets the range of the next one leaves out overlong forms and
surrogates. -/
theorem start_three {k : Nat} (h : k < 16) :
    ∃ low high, start (UInt8.ofNat (k + 0xE0)) = ([], some ⟨k, 1, low, high⟩) ∧
      ∀ n < 64, (k = 0 → 32 ≤ n) → (k = 13 → n < 32) →
        low.toNat ≤ n + 0x80 ∧ n + 0x80 ≤ high.toNat := by
  refine ⟨if k = 0 then 0xA0 else 0x80, if k = 13 then 0x9F else 0xBF, ?_, ?_⟩
  · have hn : k + 0xE0 < 256 := by omega
    simp only [start, UInt8.lt_iff_toNat_lt, UInt8.le_iff_toNat_le, ← UInt8.toNat_inj,
      toNat_ofNat hn]
    grind
  · intro n hn hlow hhigh
    split_ifs <;> simp <;> omega

/-- After the first of four octets the range of the next one leaves out overlong forms and what
lies above the last character. -/
theorem start_four {k : Nat} (h : k < 5) :
    ∃ low high, start (UInt8.ofNat (k + 0xF0)) = ([], some ⟨k, 2, low, high⟩) ∧
      ∀ n < 64, (k = 0 → 16 ≤ n) → (k = 4 → n < 16) →
        low.toNat ≤ n + 0x80 ∧ n + 0x80 ≤ high.toNat := by
  refine ⟨if k = 0 then 0x90 else 0x80, if k = 4 then 0x8F else 0xBF, ?_, ?_⟩
  · have hn : k + 0xF0 < 256 := by omega
    simp only [start, UInt8.lt_iff_toNat_lt, UInt8.le_iff_toNat_le, ← UInt8.toNat_inj,
      toNat_ofNat hn]
    grind
  · intro n hn hlow hhigh
    split_ifs <;> simp <;> omega

/-! ## Octets that follow -/

/-- An octet in the range adds its six bits. -/
theorem step_fit {p : Pending} {n : Nat} (hn : n < 64)
    (hfit : p.low.toNat ≤ n + 0x80 ∧ n + 0x80 ≤ p.high.toNat) :
    step (some p) (UInt8.ofNat (n + 0x80)) =
      match p.after with
      | 0 => ([Char.ofNat (p.bits * 64 + n)], none)
      | k + 1 => ([], some ⟨p.bits * 64 + n, k, 0x80, 0xBF⟩) := by
  have hb : (UInt8.ofNat (n + 0x80)).toNat = n + 0x80 := toNat_ofNat (by omega)
  have hin : p.low ≤ UInt8.ofNat (n + 0x80) ∧ UInt8.ofNat (n + 0x80) ≤ p.high := by
    simpa only [UInt8.le_iff_toNat_le, hb] using hfit
  cases hafter : p.after <;>
    simp only [step, if_pos hin, Pending.add, hb, Nat.add_sub_cancel, hafter]

theorem step_last {m n : Nat} (hn : n < 64) :
    step (some ⟨m, 0, 0x80, 0xBF⟩) (UInt8.ofNat (n + 0x80)) =
      ([Char.ofNat (m * 64 + n)], none) :=
  step_fit hn ⟨by simp, by simp; omega⟩

theorem step_more {m k n : Nat} (hn : n < 64) :
    step (some ⟨m, k + 1, 0x80, 0xBF⟩) (UInt8.ofNat (n + 0x80)) =
      ([], some ⟨m * 64 + n, k, 0x80, 0xBF⟩) :=
  step_fit hn ⟨by simp, by simp; omega⟩

/-! ## Whole characters and texts -/

theorem decodeFrom_of_step {p q : Option Pending} {b : UInt8} {cs : List Char}
    (h : step p b = (cs, q)) (bs : List UInt8) :
    decodeFrom p (b :: bs) = cs ++ decodeFrom q bs := by
  cases p <;> simp only [decodeFrom, h]

theorem decodeFrom_utf8EncodeChar (c : Char) (bs : List UInt8) :
    decodeFrom none (String.utf8EncodeChar c ++ bs) = c :: decodeFrom none bs := by
  have hc : Char.ofNat c.val.toNat = c := Char.ofNat_toNat c
  have hv : c.val.toNat < 0xD800 ∨ 0xDFFF < c.val.toNat ∧ c.val.toNat < 0x110000 := c.valid
  unfold String.utf8EncodeChar
  generalize c.val.toNat = v at hc hv ⊢
  dsimp only
  split_ifs with h₁ h₂ h₃
  · have hs : step none (UInt8.ofNat v) = _ := start_one (by omega)
    rw [List.cons_append, decodeFrom_of_step hs, hc]
    rfl
  · have hs : step none _ = _ := start_two (k := v / 64 % 32) (by omega) (by omega)
    have ht := step_last (m := v / 64 % 32) (n := v % 64) (by omega)
    have hbits : v / 64 % 32 * 64 + v % 64 = v := by omega
    rw [List.cons_append, decodeFrom_of_step hs, List.cons_append, decodeFrom_of_step ht, hbits, hc]
    rfl
  · obtain ⟨low, high, hs, hfit⟩ := start_three (k := v / 4096 % 16) (by omega)
    replace hs : step none _ = _ := hs
    have hm := step_fit (p := ⟨v / 4096 % 16, 1, low, high⟩)
      (by omega) (hfit (v / 64 % 64) (by omega) (by omega) (by omega))
    have ht := step_last (m := v / 4096 % 16 * 64 + v / 64 % 64) (n := v % 64) (by omega)
    have hbits : (v / 4096 % 16 * 64 + v / 64 % 64) * 64 + v % 64 = v := by omega
    rw [List.cons_append, decodeFrom_of_step hs, List.cons_append, decodeFrom_of_step hm,
      List.cons_append, decodeFrom_of_step ht, hbits, hc]
    rfl
  · obtain ⟨low, high, hs, hfit⟩ := start_four (k := v / 262144 % 8) (by omega)
    replace hs : step none _ = _ := hs
    have hm := step_fit (p := ⟨v / 262144 % 8, 2, low, high⟩)
      (by omega) (hfit (v / 4096 % 64) (by omega) (by omega) (by omega))
    have hn := step_more (m := v / 262144 % 8 * 64 + v / 4096 % 64) (k := 0) (n := v / 64 % 64)
      (by omega)
    have ht := step_last (m := (v / 262144 % 8 * 64 + v / 4096 % 64) * 64 + v / 64 % 64)
      (n := v % 64) (by omega)
    have hbits :
        ((v / 262144 % 8 * 64 + v / 4096 % 64) * 64 + v / 64 % 64) * 64 + v % 64 = v := by omega
    rw [List.cons_append, decodeFrom_of_step hs, List.cons_append, decodeFrom_of_step hm,
      List.cons_append, decodeFrom_of_step hn, List.cons_append, decodeFrom_of_step ht, hbits, hc]
    rfl

/-- Reading what was written of a text gives the text. -/
theorem decode_encode (cs : List Char) : decode (encode cs) = cs := by
  unfold decode encode
  induction cs with
  | nil => rfl
  | cons c cs ih => rw [List.flatMap_cons, decodeFrom_utf8EncodeChar, ih]

end HistorySearch.Utf8
