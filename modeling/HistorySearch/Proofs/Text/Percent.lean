-- SUMMARY: Octets of ASCII characters, and the reading of percent-encoded octets.
import HistorySearch.Proofs.Text.Utf8
import HistorySearch.Text.Percent

/-!
# Percent-encoded octets

`Percent.decode` gives back every octet that was written, and lets pass what has no `%`. An ASCII
octet is never part of another character, so that texts may be searched for it as octets.
-/

namespace HistorySearch

/-! ## ASCII -/

/-- A fact about all ASCII characters is one about 128 codes. -/
theorem of_ascii {P : Char → Prop} (h : ∀ n : Fin 128, P (Char.ofNat n)) {c : Char}
    (hc : c.toNat < 0x80) : P c := by
  rw [← Char.ofNat_toNat c]
  exact h ⟨c.toNat, hc⟩

theorem isAlphanum_lt {c : Char} (h : c.isAlphanum) : c.toNat < 0x80 := by
  delta Char.isAlphanum Char.isAlpha Char.isUpper Char.isLower Char.isDigit at h
  simp only [Bool.or_eq_true, Bool.and_eq_true, decide_eq_true_eq, ge_iff_le,
    UInt32.le_iff_toNat_le] at h
  change c.val.toNat < 0x80
  rcases h with (⟨_, h⟩ | ⟨_, h⟩) | ⟨_, h⟩ <;> exact Nat.lt_of_le_of_lt h (by decide)

namespace Utf8

theorem utf8EncodeChar_of_lt {c : Char} (h : c.toNat < 0x80) :
    String.utf8EncodeChar c = [UInt8.ofNat c.toNat] := by
  unfold String.utf8EncodeChar
  exact if_pos (show c.val.toNat ≤ 0x7F from Nat.le_of_lt_succ h)

/-- Outside of ASCII all octets of a character are large. -/
theorem le_of_mem_utf8EncodeChar {c : Char} (h : 0x80 ≤ c.toNat) {b : UInt8}
    (hb : b ∈ String.utf8EncodeChar c) : 0x80 ≤ b.toNat := by
  have hv : c.val.toNat < 0xD800 ∨ 0xDFFF < c.val.toNat ∧ c.val.toNat < 0x110000 := c.valid
  change 0x80 ≤ c.val.toNat at h
  unfold String.utf8EncodeChar at hb
  generalize c.val.toNat = v at h hv hb
  dsimp only at hb
  split_ifs at hb with h₁ h₂ h₃
  · omega
  all_goals
    simp only [List.mem_cons, List.not_mem_nil, or_false] at hb
    rcases hb with rfl | rfl | rfl | rfl <;> rw [toNat_ofNat] <;> omega

theorem eq_of_mem_utf8EncodeChar {c d : Char} (hd : d.toNat < 0x80)
    (h : UInt8.ofNat d.toNat ∈ String.utf8EncodeChar c) : c = d := by
  have hdn : (UInt8.ofNat d.toNat).toNat = d.toNat := toNat_ofNat (by omega)
  by_cases hc : c.toNat < 0x80
  · rw [utf8EncodeChar_of_lt hc, List.mem_singleton] at h
    have hcn : (UInt8.ofNat c.toNat).toNat = c.toNat := toNat_ofNat (by omega)
    have hcd : c.toNat = d.toNat := by rw [← hcn, ← hdn, h]
    rw [← Char.ofNat_toNat c, ← Char.ofNat_toNat d, hcd]
  · have := le_of_mem_utf8EncodeChar (by omega) h
    omega

theorem encode_append (cs ds : List Char) : encode (cs ++ ds) = encode cs ++ encode ds :=
  List.flatMap_append

/-- An ASCII octet is among the octets of a text exactly if its character is in the text. -/
theorem mem_encode_iff {d : Char} (hd : d.toNat < 0x80) {cs : List Char} :
    UInt8.ofNat d.toNat ∈ encode cs ↔ d ∈ cs := by
  unfold encode
  rw [List.mem_flatMap]
  constructor
  · rintro ⟨c, hc, hb⟩
    exact eq_of_mem_utf8EncodeChar hd hb ▸ hc
  · intro h
    exact ⟨d, h, by simp [utf8EncodeChar_of_lt hd]⟩

end Utf8

/-! ## Reading -/

namespace Percent

theorem decode_cons_of_ne {b : UInt8} (h : b ≠ 0x25) (bs : List UInt8) :
    decode (b :: bs) = b :: decode bs := by
  match bs with
  | [] => rfl
  | [_] => rfl
  | c :: d :: rest => rw [decode, octet?, if_neg h]

theorem decode_append_of_not_mem {bs : List UInt8} (h : 0x25 ∉ bs) (rest : List UInt8) :
    decode (bs ++ rest) = bs ++ decode rest := by
  induction bs with
  | nil => rfl
  | cons b bs ih =>
    rw [List.cons_append, decode_cons_of_ne (by rintro rfl; simp at h), ih (by grind)]
    rfl

theorem upper_lt {n : Nat} (h : n < 16) : (Hex.upper n).toNat < 0x80 := by
  have : ∀ m : Fin 16, (Hex.upper m).toNat < 0x80 := by decide
  exact this ⟨n, h⟩

theorem encode_octet (b : UInt8) :
    Utf8.encode (octet b) = [0x25, UInt8.ofNat (Hex.upper (b.toNat / 16)).toNat,
      UInt8.ofNat (Hex.upper (b.toNat % 16)).toNat] := by
  have hb := b.toNat_lt
  have hhigh := upper_lt (n := b.toNat / 16) (by omega)
  have hlow := upper_lt (n := b.toNat % 16) (by omega)
  simp only [octet, Utf8.encode, List.flatMap_cons, List.flatMap_nil,
    Utf8.utf8EncodeChar_of_lt hhigh, Utf8.utf8EncodeChar_of_lt hlow,
    Utf8.utf8EncodeChar_of_lt (c := '%') (by decide)]
  rfl

theorem octet?_upper (b : UInt8) :
    octet? 0x25 (UInt8.ofNat (Hex.upper (b.toNat / 16)).toNat)
      (UInt8.ofNat (Hex.upper (b.toNat % 16)).toNat) = some b := by
  have hb := b.toNat_lt
  have hhigh := upper_lt (n := b.toNat / 16) (by omega)
  have hlow := upper_lt (n := b.toNat % 16) (by omega)
  simp only [octet?, if_pos, Utf8.toNat_ofNat (Nat.lt_trans hhigh (by decide)),
    Utf8.toNat_ofNat (Nat.lt_trans hlow (by decide)), Char.ofNat_toNat]
  rw [Hex.value?_upper (by omega), Hex.value?_upper (by omega)]
  simp only [Option.some.injEq]
  rw [show 16 * (b.toNat / 16) + b.toNat % 16 = b.toNat by omega, UInt8.ofNat_toNat]

theorem decode_octet (b : UInt8) (rest : List UInt8) :
    decode (Utf8.encode (octet b) ++ rest) = b :: decode rest := by
  rw [encode_octet]
  simp only [List.cons_append, List.nil_append]
  rw [decode, octet?_upper]

theorem decode_char (c : Char) (rest : List UInt8) :
    decode (Utf8.encode (char c) ++ rest) = String.utf8EncodeChar c ++ decode rest := by
  unfold char
  induction String.utf8EncodeChar c with
  | nil => rfl
  | cons b bs ih =>
    rw [List.flatMap_cons, Utf8.encode_append, List.append_assoc, decode_octet, ih]
    rfl

/-- A text of which every character is kept is not changed. -/
theorem encode_eq_self {keep : Char → Bool} {cs : List Char} (h : ∀ c ∈ cs, keep c) :
    encode keep cs = cs := by
  induction cs with
  | nil => rfl
  | cons c cs ih =>
    have hc : keep c := h c List.mem_cons_self
    have hcs := ih fun d hd => h d (List.mem_cons_of_mem _ hd)
    rw [encode, List.flatMap_cons, if_pos hc]
    exact congrArg (c :: ·) hcs

/-- An encoded character is written with `%` and digits. -/
theorem mem_char {c d : Char} (h : d ∈ char c) : d = '%' ∨ d.isAlphanum := by
  obtain ⟨b, _, hd⟩ := List.mem_flatMap.mp h
  have hb := b.toNat_lt
  have hupper : ∀ m : Fin 16, (Hex.upper m).isAlphanum := by decide
  simp only [octet, List.mem_cons, List.not_mem_nil, or_false] at hd
  rcases hd with rfl | rfl | rfl
  · exact .inl rfl
  · exact .inr (hupper ⟨b.toNat / 16, by omega⟩)
  · exact .inr (hupper ⟨b.toNat % 16, by omega⟩)

/-- An encoded text has characters of the text that are kept, and `%` and digits. -/
theorem kept_of_mem_encode {keep : Char → Bool} {cs : List Char} {d : Char}
    (h : d ∈ encode keep cs) : (d ∈ cs ∧ keep d) ∨ d = '%' ∨ d.isAlphanum := by
  obtain ⟨c, hc, hd⟩ := List.mem_flatMap.mp h
  split at hd
  · rename_i hkept
    obtain rfl := List.mem_singleton.mp hd
    exact .inl ⟨hc, hkept⟩
  · exact .inr (mem_char hd)

theorem mem_encode {keep : Char → Bool} {cs : List Char} {d : Char} (h : d ∈ encode keep cs) :
    keep d ∨ d = '%' ∨ d.isAlphanum :=
  (kept_of_mem_encode h).imp_left And.right

/-- If a class has all that codes are written with, what is encoded for it is in the class. -/
theorem keep_of_mem_encode {keep : Char → Bool}
    (hcodes : ∀ n : Fin 128, Char.ofNat n = '%' ∨ (Char.ofNat n).isAlphanum → keep (Char.ofNat n))
    {cs : List Char} {d : Char} (h : d ∈ encode keep cs) : keep d := by
  rcases mem_encode h with hkept | hcode
  · exact hkept
  · have hlt : d.toNat < 0x80 := by
      rcases hcode with rfl | halnum
      · decide
      · exact isAlphanum_lt halnum
    revert hcode
    exact of_ascii (P := fun d => d = '%' ∨ d.isAlphanum → keep d) hcodes hlt

/-- What is written of a character other than a dot does not start as an encoded dot does. -/
theorem char_of_ne_dot {c : Char} (h : c ≠ '.') :
    ∃ a b rest, char c = '%' :: a :: b :: rest ∧ ¬(a.toLower = '2' ∧ b.toLower = 'e') := by
  cases hoctets : String.utf8EncodeChar c with
  | nil => exact absurd hoctets (List.ne_nil_of_length_pos (by simp [Char.utf8Size_pos]))
  | cons o os =>
    have ho := o.toNat_lt
    have hchar : char c = '%' :: Hex.upper (o.toNat / 16) :: Hex.upper (o.toNat % 16) ::
        os.flatMap octet := by
      rw [char, hoctets]
      rfl
    refine ⟨_, _, _, hchar, ?_⟩
    rintro ⟨hhigh, hlow⟩
    have htwo : ∀ m : Fin 16, (Hex.upper m).toLower = '2' → m = 2 := by decide
    have he : ∀ m : Fin 16, (Hex.upper m).toLower = 'e' → m = 14 := by decide
    have hfirst := htwo ⟨o.toNat / 16, by omega⟩ hhigh
    have hsecond := he ⟨o.toNat % 16, by omega⟩ hlow
    have hdot : o = UInt8.ofNat '.'.toNat := by
      refine UInt8.toNat_inj.mp ?_
      have hdiv : o.toNat / 16 = 2 := congrArg Fin.val hfirst
      have hmod : o.toNat % 16 = 14 := congrArg Fin.val hsecond
      change o.toNat = 46
      omega
    refine h (Utf8.eq_of_mem_utf8EncodeChar (by decide) ?_)
    rw [hoctets, ← hdot]
    exact List.mem_cons_self

end Percent

end HistorySearch
