-- SUMMARY: Texts that spell tokens are read as those tokens.
import Mathlib.Tactic.SplitIfs
import HistorySearch.Json.Read
import HistorySearch.Proofs.Text.Decimal

/-!
# Spelled tokens

A text spells tokens if it is made of them and of white space between them. Only the words and the
numbers need something behind them that ends them. However the white space is laid out, reading
gives the tokens.
-/

namespace HistorySearch

/-- Whether all code points of a string are characters. -/
def JsonChar.IsText (cs : List JsonChar) : Prop :=
  ∀ c ∈ cs, c.char?.isSome

/-- Words, and numbers that are written as JSON has them. -/
def Json.IsScalar : Json → Prop
  | .null => True
  | .bool _ => True
  | .number literal =>
    literal.toList.all JsonToken.isNumberChar ∧ JsonToken.isNumber literal.toList
  | _ => False

namespace JsonToken

/-- Whether a token stands for something that can be written. -/
def IsWritable : JsonToken → Prop
  | .string s => JsonChar.IsText s
  | .scalar v => v.IsScalar
  | _ => True

/-- Whether neither a word nor a number goes on with the characters. -/
def Ends (cs : List Char) : Prop :=
  ∀ c ∈ cs.head?, !isNumberChar c && !c.isAlpha

/-- A text that is made of tokens and of white space between them. -/
inductive Spelled : List Char → List JsonToken → Prop
  | nil : Spelled [] []
  | space {c : Char} {cs : List Char} {ts : List JsonToken} (hspace : isSpace c)
      (h : Spelled cs ts) : Spelled (c :: cs) ts
  | sign {c : Char} {t : JsonToken} {cs : List Char} {ts : List JsonToken}
      (hsign : sign? c = some t) (h : Spelled cs ts) : Spelled (c :: cs) (t :: ts)
  | string {s : List JsonChar} {cs : List Char} {ts : List JsonToken}
      (htext : JsonChar.IsText s) (h : Spelled cs ts) :
      Spelled (Json.writeString s ++ cs) (.string s :: ts)
  | scalar {v : Json} {cs : List Char} {ts : List JsonToken} (hscalar : v.IsScalar)
      (hends : Ends cs) (h : Spelled cs ts) :
      Spelled (v.compactChars ++ cs) (.scalar v :: ts)

/-! ## Strings -/

/-- A character that needs no escape is read as itself. -/
theorem readString_plain {c : Char} (hquote : c ≠ '"') (hslash : c ≠ '\\')
    (hlow : ¬c.toNat < 0x20) (cs : List Char) :
    readString (c :: cs) = (readString cs).map fun r => (.scalar c :: r.1, r.2) := by
  have hplain : ¬(c.toNat < 0x20 ∨ c = '\\') := not_or.mpr ⟨hlow, hslash⟩
  rw [readString.eq_def]
  split
  · contradiction
  · rename_i heq
    exact absurd (List.cons.inj heq).1 hquote
  · rename_i heq
    exact absurd (List.cons.inj heq).1 hslash
  · rename_i heq
    exact absurd (List.cons.inj heq).1 hslash
  · rename_i heq
    obtain ⟨rfl, rfl⟩ := List.cons.inj heq
    rw [if_neg hplain, Option.map_eq_bind]
    rfl

/-- A control character is read from the code that is written for it. -/
theorem readString_control {c : Char} (hlow : c.toNat < 0x20) (cs : List Char) :
    readString ('\\' :: 'u' :: '0' :: '0' :: Hex.lower (c.toNat / 16) ::
        Hex.lower (c.toNat % 16) :: cs) =
      (readString cs).map fun r => (.scalar c :: r.1, r.2) := by
  have hcode : Hex.number? ['0', '0', Hex.lower (c.toNat / 16), Hex.lower (c.toNat % 16)] =
      some c.toNat := by
    have hhigh := Hex.value?_lower (show c.toNat / 16 < 16 by omega)
    have hdigit := Hex.value?_lower (show c.toNat % 16 < 16 by omega)
    have hzero : Hex.value? '0' = some 0 := by decide
    have hsum : 16 * (c.toNat / 16) + c.toNat % 16 = c.toNat := Nat.div_add_mod _ _
    simp [Hex.number?, hzero, hhigh, hdigit, hsum]
  have hcons : ∀ rest, consCode c.toNat rest = .scalar c :: rest := by
    intro rest
    have hhigh : isHighHalf c.toNat = false := by
      simp only [isHighHalf, Bool.and_eq_false_iff, decide_eq_false_iff_not]
      omega
    have hsecond : isLowHalf c.toNat = false := by
      simp only [isLowHalf, Bool.and_eq_false_iff, decide_eq_false_iff_not]
      omega
    simp only [consCode, hhigh, hsecond, Char.ofNat_toNat, Bool.false_eq_true, if_false]
  rw [readString, hcode, Option.bind_eq_bind, Option.bind_some, Option.map_eq_bind]
  simp only [hcons]
  rfl

/-- A letter after a backslash is read as the character that it stands for. -/
theorem readString_escape {e c : Char} (hcode : e ≠ 'u') (he : escaped? e = some c)
    (cs : List Char) :
    readString ('\\' :: e :: cs) = (readString cs).map fun r => (.scalar c :: r.1, r.2) := by
  rw [readString, he, Option.bind_eq_bind, Option.bind_some, Option.map_eq_bind]
  · rfl
  · intro a b c d ds hu
    exact absurd hu hcode

/-- Whichever way a character is written, it is read. -/
theorem readString_write (c : Char) (cs : List Char) :
    readString (JsonChar.write (.scalar c) ++ cs) =
      (readString cs).map fun r => (.scalar c :: r.1, r.2) := by
  rw [JsonChar.write]
  split_ifs with hquote hslash hback hfeed hline hreturn htab hlow
  · exact readString_escape (by decide) (by simp [hquote, escaped?]) cs
  · exact readString_escape (by decide) (by simp [hslash, escaped?]) cs
  · exact readString_escape (by decide) (hback ▸ by decide) cs
  · exact readString_escape (by decide) (hfeed ▸ by decide) cs
  · exact readString_escape (by decide) (hline ▸ by decide) cs
  · exact readString_escape (by decide) (hreturn ▸ by decide) cs
  · exact readString_escape (by decide) (htab ▸ by decide) cs
  · exact readString_control hlow cs
  · exact readString_plain hquote hslash hlow cs

/-- A string is read up to its closing quote. -/
theorem readString_flatMap {s : List JsonChar} (h : JsonChar.IsText s) (cs : List Char) :
    readString (s.flatMap JsonChar.write ++ '"' :: cs) = some (s, cs) := by
  induction s with
  | nil => rw [List.flatMap_nil, List.nil_append, readString]
  | cons c s ih =>
    have hrest := ih fun d hd => h d (List.mem_cons_of_mem _ hd)
    cases c with
    | scalar c => rw [List.flatMap_cons, List.append_assoc, readString_write, hrest, Option.map_some]
    | surrogate code => exact absurd (h _ List.mem_cons_self) (by simp [JsonChar.char?])

/-! ## Words and numbers -/

theorem Ends.number {cs : List Char} (h : Ends cs) : ∀ c ∈ cs.head?, isNumberChar c = false :=
  fun c hc => by simpa using (Bool.and_eq_true_iff.mp (h c hc)).1

theorem Ends.word {cs : List Char} (h : Ends cs) : ∀ c ∈ cs.head?, c.isAlpha = false :=
  fun c hc => by simpa using (Bool.and_eq_true_iff.mp (h c hc)).2

/-- A word is read as far as its letters go. -/
theorem read_word {c : Char} (as : List Char) {cs : List Char} {t : JsonToken}
    (hword : word? (c :: as) = some t) (hsign : sign? c = none) (hquote : c ≠ '"')
    (hnumber : isNumberChar c = false) (has : as.all Char.isAlpha) (hcs : Ends cs) :
    read c (as ++ cs) = some (t, cs) := by
  obtain ⟨htake, hdrop⟩ := takeWhile_dropWhile_append (List.all_eq_true.mp has) hcs.word
  rw [read, hsign, htake, hdrop, hword]
  simp [hquote, hnumber]

theorem mem_of_sign? {c : Char} {t : JsonToken} (h : sign? c = some t) :
    c ∈ ['\x7b', '\x7d', '[', ']', ',', ':'] := by
  unfold sign? at h
  split_ifs at h <;> simp_all

/-- Signs, quotes and white space do not stand in numbers. -/
theorem sign?_of_isNumberChar {c : Char} (h : isNumberChar c) :
    sign? c = none ∧ c ≠ '"' ∧ isSpace c = false := by
  have hother : ∀ d, isNumberChar d = false → c ≠ d := fun d => ne_of_holds h
  refine ⟨?_, hother _ rfl, ?_⟩
  · cases hsign : sign? c with
    | none => rfl
    | some t =>
      have hsigns : ∀ d ∈ ['\x7b', '\x7d', '[', ']', ',', ':'], isNumberChar d = false := by
        simp [isNumberChar, Decimal.isDigit]
      exact absurd rfl (hother c (hsigns c (mem_of_sign? hsign)))
  · simp [isSpace, hother ' ' rfl, hother '\n' rfl, hother '\t' rfl, hother '\r' rfl]

/-- A number is read as far as its characters go. -/
theorem read_number {c : Char} {as cs : List Char} (hall : (c :: as).all isNumberChar)
    (hnumber : isNumber (c :: as)) (hcs : Ends cs) :
    read c (as ++ cs) = some (.scalar (.number (String.ofList (c :: as))), cs) := by
  obtain ⟨hc, has⟩ := Bool.and_eq_true_iff.mp hall
  obtain ⟨hsign, hquote, -⟩ := sign?_of_isNumberChar hc
  obtain ⟨htake, hdrop⟩ := takeWhile_dropWhile_append (List.all_eq_true.mp has) hcs.number
  rw [read, hsign, htake, hdrop, if_pos hnumber]
  simp [hquote, hc]

/-- What is no value of its own is read as it is written, if something ends it. -/
theorem read_scalar {v : Json} (hv : v.IsScalar) {cs : List Char} (hcs : Ends cs) :
    ∃ c as, v.compactChars ++ cs = c :: as ∧ isSpace c = false ∧
      read c as = some (.scalar v, cs) := by
  cases v with
  | null =>
    exact ⟨'n', _, rfl, rfl, read_word ['u', 'l', 'l'] rfl rfl (by decide) rfl rfl hcs⟩
  | bool b =>
    cases b with
    | false =>
      exact ⟨'f', _, rfl, rfl,
        read_word ['a', 'l', 's', 'e'] rfl rfl (by decide) rfl rfl hcs⟩
    | true =>
      exact ⟨'t', _, rfl, rfl, read_word ['r', 'u', 'e'] rfl rfl (by decide) rfl rfl hcs⟩
  | number literal =>
    obtain ⟨hall, hnumber⟩ := hv
    rw [Json.compactChars]
    cases hliteral : literal.toList with
    | nil =>
      rw [hliteral] at hnumber
      exact absurd hnumber (by decide)
    | cons c as =>
      rw [hliteral] at hall hnumber
      have hc := (Bool.and_eq_true_iff.mp hall).1
      refine ⟨c, as ++ cs, rfl, (sign?_of_isNumberChar hc).2.2, ?_⟩
      rw [read_number hall hnumber hcs, ← hliteral, String.ofList_toList]
  | string s => exact hv.elim
  | array items => exact hv.elim
  | object members => exact hv.elim

/-! ## Texts -/

theorem readAll_of_read {c : Char} {cs rest : List Char} {t : JsonToken}
    (hspace : isSpace c = false) (hread : read c cs = some (t, rest)) :
    readAll (c :: cs) = (readAll rest).map (t :: ·) := by
  rw [readAll, hspace, if_neg Bool.false_ne_true]
  split
  · rename_i heq
    rw [hread] at heq
    obtain ⟨rfl, rfl⟩ := Prod.mk.inj (Option.some.inj heq)
    rfl
  · rename_i heq
    rw [hread] at heq
    contradiction

theorem isSpace_of_sign? {c : Char} {t : JsonToken} (h : sign? c = some t) : isSpace c = false := by
  have hsigns : ∀ d ∈ ['\x7b', '\x7d', '[', ']', ',', ':'], isSpace d = false := by
    simp [isSpace]
  exact hsigns c (mem_of_sign? h)

/-- A text is read as the tokens that it spells. -/
theorem Spelled.readAll_eq {cs : List Char} {ts : List JsonToken} (h : Spelled cs ts) :
    readAll cs = some ts := by
  induction h with
  | nil => rw [readAll]
  | space hspace _ ih => rw [readAll, if_pos hspace, ih]
  | @sign c t cs ts hsign _ ih =>
    have hread : read c cs = some (t, cs) := by rw [read, hsign]
    rw [readAll_of_read (isSpace_of_sign? hsign) hread, ih, Option.map_some]
  | @string s cs ts htext _ ih =>
    have hread : read '"' (s.flatMap JsonChar.write ++ '"' :: cs) = some (.string s, cs) := by
      simp [read, sign?, readString_flatMap htext]
    have htext : Json.writeString s ++ cs = '"' :: (s.flatMap JsonChar.write ++ '"' :: cs) := by
      simp [Json.writeString]
    rw [htext, readAll_of_read rfl hread, ih, Option.map_some]
  | scalar hscalar hends _ ih =>
    obtain ⟨c, as, hcons, hspace, hread⟩ := read_scalar hscalar hends
    rw [hcons, readAll_of_read hspace hread, ih, Option.map_some]

end JsonToken

end HistorySearch
