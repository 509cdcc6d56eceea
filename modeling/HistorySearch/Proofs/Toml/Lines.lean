-- SUMMARY: Lines of a document with plain keys are read as they were written.
import HistorySearch.Proofs.Text.Decimal
import HistorySearch.Proofs.Toml.Texts
import HistorySearch.Toml.Document

/-!
# Written lines

A document that is written has headers and settings with plain keys, each on a line of its own. A
line is read with any lines after it. Of the values the numbers are the hard ones: what starts with
digits may be a moment or a float as well, and is neither if the line ends after them.
-/

namespace HistorySearch.Toml

/-! ## Keys -/

/-- Whether a key needs no quotes. -/
def IsBareKey (name : List Char) : Prop :=
  name ≠ [] ∧ name.all isBareKeyChar

instance (name : List Char) : Decidable (IsBareKey name) :=
  inferInstanceAs (Decidable (_ ∧ _))

theorem IsBareKey.eq_cons {name : List Char} (h : IsBareKey name) :
    ∃ c cs, name = c :: cs ∧ isBareKeyChar c := by
  cases name with
  | nil => exact absurd rfl h.1
  | cons c cs => exact ⟨c, cs, rfl, List.all_eq_true.mp h.2 c List.mem_cons_self⟩

theorem skipSpaces_cons {c : Char} (h : isSpace c = false) (cs : List Char) :
    skipSpaces (c :: cs) = c :: cs :=
  List.dropWhile_cons_of_neg (by simp [h])

/-- Nothing is skipped in front of a key. -/
theorem skipSpaces_key {name : List Char} (h : IsBareKey name) (rest : List Char) :
    skipSpaces (name ++ rest) = name ++ rest := by
  obtain ⟨c, cs, rfl, hc⟩ := h.eq_cons
  apply skipSpaces_cons
  simp [isSpace, ne_of_holds hc (show isBareKeyChar ' ' = false from rfl),
    ne_of_holds hc (show isBareKeyChar '\t' = false from rfl)]

theorem readSimpleKey_bare {name rest : List Char} (h : IsBareKey name)
    (hrest : ∀ c ∈ rest.head?, !isBareKeyChar c) :
    readSimpleKey (name ++ rest) = some (String.ofList name, rest) := by
  have htake : (name ++ rest).takeWhile isBareKeyChar = name :=
    (takeWhile_dropWhile_append (List.all_eq_true.mp h.2) (by simpa using hrest)).1
  obtain ⟨c, cs, rfl, hc⟩ := h.eq_cons
  rw [readSimpleKey.eq_def]
  split
  · rename_i heq
    exact absurd (List.cons.inj heq).1 (ne_of_holds hc rfl)
  · rename_i heq
    exact absurd (List.cons.inj heq).1 (ne_of_holds hc rfl)
  · rw [htake]
    simp

/-- A key without dots is read with what follows the white space behind it. -/
theorem readKey_bare {name rest : List Char} (h : IsBareKey name)
    (hrest : ∀ c ∈ rest.head?, !isBareKeyChar c) (hdot : ∀ c ∈ (skipSpaces rest).head?, c ≠ '.') :
    readKey (name ++ rest) = some (([], String.ofList name), skipSpaces rest) := by
  have hparts : readKeyParts (name ++ rest) = some ([String.ofList name], skipSpaces rest) := by
    rw [readKeyParts, skipSpaces_key h, readSimpleKey_bare h hrest]
    dsimp only
    split
    · rename_i heq
      rw [heq] at hdot
      exact absurd rfl (hdot '.' rfl)
    · rfl
  rw [readKey, hparts]
  rfl

/-! ## Lines -/

/-- A line is read up to its end. -/
theorem readLines_content {cs rest : List Char} {line : Option Line}
    (h : readContent (skipSpaces cs) = some (line, '\n' :: rest))
    (hlength : rest.length < cs.length) :
    readLines cs = (readLines rest).map (line.toList ++ ·) := by
  have hne : cs.isEmpty = false := by
    cases cs with
    | nil => contradiction
    | cons c cs => rfl
  have hend : readLineEnd ('\n' :: rest) = some rest := rfl
  rw [readLines, hne, h]
  simp [hend, hlength]

theorem readLines_nil : readLines [] = some [] := by
  rw [readLines]
  rfl

theorem readLines_break (rest : List Char) : readLines ('\n' :: rest) = readLines rest := by
  have hcontent : readContent (skipSpaces ('\n' :: rest)) = some (none, '\n' :: rest) := rfl
  have hread := readLines_content hcontent (Nat.lt_succ_self _)
  rw [hread]
  cases readLines rest <;> rfl

theorem readLines_header {name : List Char} (h : IsBareKey name) (rest : List Char) :
    readLines ('[' :: (name ++ ']' :: '\n' :: rest)) =
      (readLines rest).map (.header [] (String.ofList name) :: ·) := by
  have hkey : readKey (name ++ ']' :: '\n' :: rest) =
      some (([], String.ofList name), ']' :: '\n' :: rest) :=
    readKey_bare h (by simp [isBareKeyChar]) (by simp [skipSpaces, isSpace])
  have hcontent : readContent (skipSpaces ('[' :: (name ++ ']' :: '\n' :: rest))) =
      some (some (.header [] (String.ofList name)), '\n' :: rest) := by
    obtain ⟨c, cs, hname, hc⟩ := h.eq_cons
    have hspaces : skipSpaces ('[' :: (name ++ ']' :: '\n' :: rest)) =
        '[' :: (name ++ ']' :: '\n' :: rest) := rfl
    rw [hspaces, readContent, readHeader, hkey]
    · rfl
    · intro ds heq
      rw [hname] at heq
      exact ne_of_holds hc rfl (List.cons.inj heq).1
  exact readLines_content hcontent (by simp; omega)

/-- What is written of a value is read as it, up to the end of the line. -/
structure IsWritten (value : List Char) (v : TomlValue) : Prop where
  start : ∃ c cs, value = c :: cs ∧ isSpace c = false
  read : ∀ rest, readValue levelLimit (value ++ '\n' :: rest) = some (v, '\n' :: rest)

/-- A line with a key is read if the value on it is. -/
theorem readLines_entry {name value : List Char} {v : TomlValue} (h : IsBareKey name)
    (hvalue : IsWritten value v) (rest : List Char) :
    readLines (name ++ ' ' :: '=' :: ' ' :: (value ++ '\n' :: rest)) =
      (readLines rest).map (.entry [] (String.ofList name) v :: ·) := by
  have hkey : readKey (name ++ ' ' :: '=' :: ' ' :: (value ++ '\n' :: rest)) =
      some (([], String.ofList name), '=' :: ' ' :: (value ++ '\n' :: rest)) :=
    readKey_bare h (by simp [isBareKeyChar]) (by simp [skipSpaces, isSpace])
  have hskip : skipSpaces (' ' :: (value ++ '\n' :: rest)) = value ++ '\n' :: rest := by
    obtain ⟨c, cs, rfl, hc⟩ := hvalue.start
    exact skipSpaces_cons hc _
  have hcontent : readContent (skipSpaces (name ++ ' ' :: '=' :: ' ' :: (value ++ '\n' :: rest))) =
      some (some (.entry [] (String.ofList name) v), '\n' :: rest) := by
    rw [skipSpaces_key h]
    obtain ⟨c, cs, rfl, hc⟩ := h.eq_cons
    have hplain : ¬(c = '#' ∨ c = '\n' ∨ c = '\r') := by
      rintro (rfl | rfl | rfl) <;> exact absurd hc (by decide)
    rw [List.cons_append] at hkey ⊢
    rw [readContent, if_neg hplain, hkey]
    · simp only [hskip, hvalue.read]
      rfl
    · intro _ heq _
      exact ne_of_holds hc rfl heq
    · exact ne_of_holds hc rfl
  exact readLines_content hcontent (by simp; omega)

/-! ## Texts and truth values -/

theorem writeText_eq_cons (cs : List Char) :
    ∃ q w, writeText cs = q :: w ∧ (q = '"' ∨ q = '\'') := by
  rw [writeText]
  cases TextStyle.choose cs with
  | basic => exact ⟨'"', _, rfl, .inl rfl⟩
  | literal => exact ⟨'\'', _, rfl, .inr rfl⟩
  | basicLines => exact ⟨'"', _, rfl, .inl rfl⟩
  | literalLines => exact ⟨'\'', _, rfl, .inr rfl⟩

/-- A text is read as a value. -/
theorem isWritten_text (cs : List Char) : IsWritten (writeText cs) (.text (String.ofList cs)) := by
  obtain ⟨q, w, hcons, hquote⟩ := writeText_eq_cons cs
  constructor
  · refine ⟨q, w, hcons, ?_⟩
    rcases hquote with rfl | rfl <;> rfl
  · intro rest
    have hread : readText (writeText cs ++ '\n' :: rest) = some (cs, '\n' :: rest) :=
      readText_writeText cs (by simp)
    rw [hcons, List.cons_append] at hread ⊢
    rcases hquote with rfl | rfl
    · rw [readValue, hread]
      rfl
    · rw [readValue, hread]
      rfl

theorem isWritten_bool (b : Bool) :
    IsWritten (if b then "true".toList else "false".toList) (.bool b) := by
  cases b
  · exact ⟨⟨'f', _, rfl, rfl⟩, fun _ => rfl⟩
  · exact ⟨⟨'t', _, rfl, rfl⟩, fun _ => rfl⟩

/-! ## Numbers -/

/-- Of a line with digits only, a field of a moment leaves more digits or the end. -/
theorem readExactly_digits {ds rest r : List Char} {k n : Nat} (hds : ∀ d ∈ ds, Decimal.isDigit d)
    (h : Decimal.readExactly k (ds ++ '\n' :: rest) = some (n, r)) :
    ∀ c ∈ r.head?, Decimal.isDigit c ∨ c = '\n' := by
  rw [Decimal.readExactly] at h
  split at h
  · rename_i hlength
    obtain ⟨-, rfl⟩ := Prod.mk.inj (Option.some.inj h)
    have hle : k ≤ ds.length := by
      refine Nat.le_of_not_lt fun hlt => ?_
      obtain ⟨m, hm⟩ : ∃ m, k - ds.length = m + 1 := ⟨k - ds.length - 1, by omega⟩
      rw [List.take_append, List.take_of_length_le (by omega), hm, List.take_succ_cons,
        Decimal.takeWhile_digits hds (by simp [Decimal.isDigit])] at hlength
      omega
    rw [List.drop_append_of_le_length hle]
    intro c hc
    cases hdrop : ds.drop k with
    | nil =>
      rw [hdrop] at hc
      exact .inr (Option.some.inj hc).symm
    | cons d rest =>
      rw [hdrop] at hc
      obtain rfl := Option.some.inj hc
      refine .inl (hds _ (List.mem_of_mem_drop (i := k) ?_))
      rw [hdrop]
      exact List.mem_cons_self
  · contradiction

theorem expect_of_ne {c : Char} {cs : List Char} (h : ∀ d ∈ cs.head?, d ≠ c) :
    Rfc3339.expect c cs = none := by
  cases cs with
  | nil => rfl
  | cons d cs => exact if_neg (h d rfl)

/-- Digits alone are no moment. -/
theorem readMoment_digits {ds : List Char} (hds : ∀ d ∈ ds, Decimal.isDigit d) (rest : List Char) :
    readMoment (ds ++ '\n' :: rest) = none := by
  have hexpect : ∀ {k n r c}, Decimal.readExactly k (ds ++ '\n' :: rest) = some (n, r) →
      Decimal.isDigit c = false → c ≠ '\n' → Rfc3339.expect c r = none := by
    intro k n r c hread hc hbreak
    refine expect_of_ne fun d hd heq => ?_
    subst heq
    rcases readExactly_digits hds hread d hd with hdigit | rfl
    · exact ne_of_holds hdigit hc rfl
    · exact hbreak rfl
  have hdate : Rfc3339.readDate (ds ++ '\n' :: rest) = none := by
    rw [Rfc3339.readDate, Option.bind_eq_bind]
    cases hread : Decimal.readExactly 4 (ds ++ '\n' :: rest) with
    | none => rfl
    | some r =>
      have hnone : Rfc3339.expect '-' r.2 = none := hexpect hread rfl (by decide)
      simp [hnone]
  have htime : ∀ f, Rfc3339.readTime f (ds ++ '\n' :: rest) = none := by
    intro f
    rw [Rfc3339.readTime, Option.bind_eq_bind]
    cases hread : Decimal.readExactly 2 (ds ++ '\n' :: rest) with
    | none => rfl
    | some r =>
      have hnone : Rfc3339.expect ':' r.2 = none := hexpect hread rfl (by decide)
      simp [hnone]
  rw [readMoment, hdate]
  dsimp only
  rw [readTimeOn, htime]
  rfl

theorem readMore_digits {ds : List Char} (hds : ∀ d ∈ ds, Decimal.isDigit d) (rest : List Char) :
    readMore Decimal.isDigit (ds ++ '\n' :: rest) = (ds, '\n' :: rest) := by
  induction ds with
  | nil => cases rest <;> rfl
  | cons d ds ih =>
    have hd := hds d List.mem_cons_self
    have hunderscore : d ≠ '_' := ne_of_holds hd rfl
    rw [List.cons_append, readMore, if_pos hd, ih fun c hc => hds c (List.mem_cons_of_mem _ hc)]
    intro _ _ heq
    exact absurd heq hunderscore

/-- A number starts with a digit, and only zero with a zero. -/
theorem digits_eq_cons (n : Nat) :
    ∃ d ds, Decimal.digits n = d :: ds ∧ Decimal.isDigit d ∧ (∀ c ∈ ds, Decimal.isDigit c) ∧
      (d = '0' → ds = []) := by
  cases hdigits : Decimal.digits n with
  | nil => exact absurd hdigits Nat.toDigits_ne_nil
  | cons d ds =>
    have hall : ∀ c ∈ d :: ds, Decimal.isDigit c := fun c hc =>
      Decimal.isDigit_of_mem_digits (hdigits ▸ hc)
    refine ⟨d, ds, rfl, hall d List.mem_cons_self, fun c hc => hall c (List.mem_cons_of_mem d hc), ?_⟩
    rintro rfl
    exact Decimal.digits_of_zero_cons hdigits

/-- The digits of a number are read as a whole number. -/
theorem readWhole_digits (n : Nat) (rest : List Char) :
    readWhole (Decimal.digits n ++ '\n' :: rest) = some (Decimal.digits n, '\n' :: rest) := by
  obtain ⟨d, ds, hdigits, hd, hds, hzero⟩ := digits_eq_cons n
  rw [hdigits]
  by_cases hfirst : d = '0'
  · rw [hzero hfirst, hfirst]
    rfl
  · rw [List.cons_append, readWhole, readDigits, if_pos hd, readMore_digits hds]
    intro _ heq
    exact absurd (List.cons.inj heq).1 hfirst

theorem readSign_digits (n : Nat) (rest : List Char) :
    readSign (Decimal.digits n ++ rest) = (false, Decimal.digits n ++ rest) := by
  obtain ⟨d, ds, hdigits, hd, -, -⟩ := digits_eq_cons n
  rw [hdigits, List.cons_append, readSign]
  · intro _ heq
    exact ne_of_holds hd rfl (List.cons.inj heq).1
  · intro _ heq
    exact ne_of_holds hd rfl (List.cons.inj heq).1

/-- Digits are no word. -/
theorem afterWord?_digits {word : String} {c : Char} {cs : List Char} (hword : word.toList = c :: cs)
    (hc : Decimal.isDigit c = false) (n : Nat) (rest : List Char) :
    afterWord? word (Decimal.digits n ++ rest) = none := by
  obtain ⟨d, ds, hdigits, hd, -, -⟩ := digits_eq_cons n
  have hne : (c == d) = false := beq_false_of_ne (ne_of_holds hd hc).symm
  rw [afterWord?, hword, hdigits, List.cons_append, List.isPrefixOf, hne]
  rfl

/-- Digits alone are no float. -/
theorem readFloat_digits (n : Nat) (rest : List Char) :
    readFloat (Decimal.digits n ++ '\n' :: rest) = none := by
  have hspecial : readSpecial (Decimal.digits n ++ '\n' :: rest) = none := by
    rw [readSpecial, readSign_digits, afterWord?_digits (c := 'i') rfl rfl,
      afterWord?_digits (c := 'n') rfl rfl]
    rfl
  rw [readFloat, hspecial, Option.none_or, readSign_digits]
  simp only [readWhole_digits, Option.bind_eq_bind, Option.bind_some]
  rfl

/-- The digits of a number are read as an integer if it has room. -/
theorem readInteger_digits {n : Nat} (h : n < 0x8000000000000000) (rest : List Char) :
    readInteger (Decimal.digits n ++ '\n' :: rest) = some ((n : Int), '\n' :: rest) := by
  have hword : checkWord (n : Int) = some (n : Int) := by
    rw [checkWord, if_pos (by omega)]
  have hplain : ∀ c cs, c ≠ '\n' → Decimal.digits n ++ '\n' :: rest ≠ '0' :: c :: cs := by
    intro c cs hc heq
    obtain ⟨d, ds, hdigits, -, -, hzero⟩ := digits_eq_cons n
    rw [hdigits] at heq
    obtain ⟨hfirst, hrest⟩ := List.cons.inj heq
    rw [hzero hfirst] at hrest
    exact hc (List.cons.inj hrest).1.symm
  rw [readInteger]
  · rw [readSign_digits]
    dsimp only
    rw [readWhole_digits, Option.bind_eq_bind, Option.bind_some]
    dsimp only
    rw [Decimal.value_digits, if_neg Bool.false_ne_true, hword]
    rfl
  all_goals
    intro cs
    exact hplain _ cs (by decide)

/-- A number is read as a value if it has room. -/
theorem isWritten_digits {n : Nat} (h : n < 0x8000000000000000) :
    IsWritten (Decimal.digits n) (.integer n) := by
  have hall : ∀ c ∈ Decimal.digits n, Decimal.isDigit c := fun c => Decimal.isDigit_of_mem_digits
  have hscalar : ∀ rest, readScalar (Decimal.digits n ++ '\n' :: rest) =
      some (.integer n, '\n' :: rest) := by
    intro rest
    rw [readScalar, afterWord?_digits (c := 't') rfl rfl, afterWord?_digits (c := 'f') rfl rfl,
      readMoment_digits hall, readFloat_digits, readInteger_digits h]
    rfl
  obtain ⟨d, ds, hdigits, hd, -, -⟩ := digits_eq_cons n
  constructor
  · refine ⟨d, ds, hdigits, ?_⟩
    simp [isSpace, ne_of_holds hd (show Decimal.isDigit ' ' = false from rfl),
      ne_of_holds hd (show Decimal.isDigit '\t' = false from rfl)]
  · intro rest
    rw [← hscalar, hdigits, List.cons_append, readValue]
    · intro _ heq
      exact ne_of_holds hd rfl (List.cons.inj heq).1
    · intro _ heq
      exact ne_of_holds hd rfl (List.cons.inj heq).1
    · intro _ _ _ heq
      exact ne_of_holds hd rfl (List.cons.inj heq).1
    · intro _ _ _ heq
      exact ne_of_holds hd rfl (List.cons.inj heq).1

end HistorySearch.Toml
