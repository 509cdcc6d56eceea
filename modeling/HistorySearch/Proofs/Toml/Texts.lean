-- SUMMARY: Every text is read as it was written, in whichever of the four ways.
import Mathlib.Tactic.SplitIfs
import HistorySearch.Proofs.Text.Percent
import HistorySearch.Toml.Text

/-!
# Written texts

Between double quotes every character can be written, if need be by its code. Single quotes leave
the characters as they are, hence the conditions under which they are chosen. Of tripled quotes the
closing ones may have two more in front of them, which belong to the text.
-/

namespace HistorySearch.Toml

/-! ## Characters between double quotes -/

/-- What stands for a character between double quotes: itself, or an escape. -/
inductive Spelled (c : Char) : List Char → Prop
  | plain (hprintable : isPrintable c) (hquote : c ≠ '"') (hslash : c ≠ '\\') : Spelled c [c]
  | letter {e : Char} (hletter : escaped? e = some c) : Spelled c ['\\', e]
  | code {d₁ d₂ d₃ d₄ : Char} (hdigits : ofDigits? [d₁, d₂, d₃, d₄] = some c) :
      Spelled c ['\\', 'u', d₁, d₂, d₃, d₄]

/-- The digits that are written of a code are those of its character. -/
theorem ofDigits?_upperPadded : ∀ n : Fin 0x80,
    Hex.upperPadded 4 n = ['0', '0', Hex.upper (n / 16), Hex.upper (n % 16)] ∧
      ofDigits? ['0', '0', Hex.upper (n / 16), Hex.upper (n % 16)] = some (Char.ofNat n) := by
  decide +kernel

theorem lt_of_needsEscape {c : Char} (h : needsEscape c) : c.toNat < 0x80 := by
  simp only [needsEscape, isPrintable, Bool.and_eq_true, Bool.not_eq_true', Bool.or_eq_false_iff,
    Bool.and_eq_false_iff, decide_eq_false_iff_not] at h
  omega

/-- Every character that is no quote and no line break is spelled. -/
theorem spelled_writeChar {c : Char} (hquote : c ≠ '"') (hline : c ≠ '\n') :
    Spelled c (writeChar c) := by
  unfold writeChar
  split_ifs with hback htab hfeed hreturn hslash hescape
  · exact .letter (by rw [hback]; decide)
  · exact .letter (by rw [htab]; decide)
  · exact .letter (by rw [hfeed]; decide)
  · exact .letter (by rw [hreturn]; decide)
  · exact .letter (by rw [hslash]; decide)
  · obtain ⟨hdigits, hread⟩ := ofDigits?_upperPadded ⟨c.toNat, lt_of_needsEscape hescape⟩
    rw [Char.ofNat_toNat] at hread
    rw [show Hex.upperPadded 4 c.toNat = _ from hdigits]
    exact .code hread
  · have hprintable : isPrintable c := by
      simpa [needsEscape, hline] using hescape
    exact .plain hprintable hquote hslash

theorem spelled_quote : Spelled '"' ['\\', '"'] :=
  .letter rfl

theorem spelled_break : Spelled '\n' ['\\', 'n'] :=
  .letter rfl

theorem mem_of_escaped? {e c : Char} (h : escaped? e = some c) :
    e ∈ ['"', '\\', 'b', 'f', 'n', 'r', 't'] := by
  unfold escaped? at h
  split_ifs at h with hself
  · rcases hself with rfl | rfl <;> decide
  all_goals simp_all

theorem ne_of_escaped? {e c : Char} (h : escaped? e = some c) : e ≠ 'u' ∧ e ≠ 'U' := by
  have hmem := mem_of_escaped? h
  constructor <;> rintro rfl <;> exact absurd hmem (by decide)

/-- What stands for a character starts with a printable one that is no quote. -/
theorem Spelled.eq_cons {c : Char} {w : List Char} (h : Spelled c w) :
    ∃ d ds, w = d :: ds ∧ d ≠ '"' ∧ isPrintable d := by
  cases h with
  | plain hprintable hquote hslash => exact ⟨c, [], rfl, hquote, hprintable⟩
  | letter hletter => exact ⟨'\\', _, rfl, by decide, by decide⟩
  | code hdigits => exact ⟨'\\', _, rfl, by decide, by decide⟩

/-! ## Double quotes -/

/-- What stands for a character is read as the character. -/
theorem readBasic_spelled {c : Char} {w : List Char} (h : Spelled c w) (cs : List Char) :
    readBasic (w ++ cs) = consRead c (readBasic cs) := by
  cases h with
  | plain hprintable hquote hslash =>
    rw [List.singleton_append, readBasic, if_pos ⟨hprintable, hslash⟩]
    · exact hquote
    all_goals
      intros
      exact hslash (by assumption)
  | letter hletter =>
    obtain ⟨hsmall, hlarge⟩ := ne_of_escaped? hletter
    rw [List.cons_append, List.singleton_append, readBasic, hletter, Option.bind_some]
    · intros
      exact hsmall (by assumption)
    · intros
      exact hlarge (by assumption)
  | code hdigits =>
    simp only [List.cons_append, List.nil_append]
    rw [readBasic, hdigits, Option.bind_some]

theorem writeBasic_cons (c : Char) (cs : List Char) :
    ∃ w, Spelled c w ∧ writeBasic (c :: cs) = w ++ writeBasic cs := by
  refine ⟨_, ?_, rfl⟩
  dsimp only
  split_ifs with hquote hline
  · exact hquote ▸ spelled_quote
  · exact hline ▸ spelled_break
  · exact spelled_writeChar hquote hline

/-- A text in double quotes is read up to its closing quote. -/
theorem readBasic_write (cs rest : List Char) :
    readBasic (writeBasic cs ++ '"' :: rest) = some (cs, rest) := by
  induction cs with
  | nil => rfl
  | cons c cs ih =>
    obtain ⟨w, hspelled, hwrite⟩ := writeBasic_cons c cs
    rw [hwrite, List.append_assoc, readBasic_spelled hspelled, ih]
    rfl

/-! ## Tripled double quotes -/

/-- A character that needs no escape is read as itself, and so are up to two quotes. -/
theorem readBasicLines_plain {c : Char} {cs : List Char} (hplain : c = '\n' ∨ isPrintable c)
    (hslash : c ≠ '\\') (hquotes : ¬['"', '"', '"'] <+: c :: cs) :
    readBasicLines false (c :: cs) = consRead c (readBasicLines false cs) := by
  have hplain' : c = '\n' ∨ isPrintable c ∧ c ≠ '\\' := hplain.imp_right (⟨·, hslash⟩)
  have hreturn : c ≠ '\r' := by
    rintro rfl
    exact absurd hplain (by decide)
  rw [readBasicLines.eq_def]
  split
  · contradiction
  · rename_i heq
    exact absurd (by rw [heq]; exact ⟨_, rfl⟩) hquotes
  · rename_i heq
    exact absurd (by rw [heq]; exact ⟨_, rfl⟩) hquotes
  · rename_i heq
    exact absurd (by rw [heq]; exact ⟨_, rfl⟩) hquotes
  · rename_i heq
    exact absurd (List.cons.inj heq).1 hreturn
  · rename_i heq
    exact absurd (List.cons.inj heq).1 hslash
  · rename_i heq
    exact absurd (List.cons.inj heq).1 hslash
  · rename_i heq
    exact absurd (List.cons.inj heq).1 hslash
  · rename_i heq
    obtain ⟨rfl, rfl⟩ := List.cons.inj heq
    rw [if_neg (by simp), if_pos hplain']

theorem readBasicLines_spelled {c : Char} {w : List Char} (h : Spelled c w) (cs : List Char) :
    readBasicLines false (w ++ cs) = consRead c (readBasicLines false cs) := by
  cases h with
  | plain hprintable hquote hslash =>
    apply readBasicLines_plain (.inr hprintable) hslash
    rintro ⟨_, heq⟩
    exact hquote (List.cons.inj heq).1.symm
  | @letter e hletter =>
    obtain ⟨hsmall, hlarge⟩ := ne_of_escaped? hletter
    have hline : endsLine (e :: cs) = false := by
      have hmem := mem_of_escaped? hletter
      simp only [List.mem_cons, List.not_mem_nil, or_false] at hmem
      rcases hmem with rfl | rfl | rfl | rfl | rfl | rfl | rfl <;> rfl
    rw [List.cons_append, List.singleton_append, readBasicLines, hline, hletter, Option.bind_some]
    · rfl
    · intros
      exact hsmall (by assumption)
    · intros
      exact hlarge (by assumption)
  | code hdigits =>
    simp only [List.cons_append, List.nil_append]
    rw [readBasicLines, hdigits, Option.bind_some]

/-- Puts characters in front of the text that was read. -/
def appendRead (cs : List Char) (r : Option (List Char × List Char)) :
    Option (List Char × List Char) :=
  r.map fun r => (cs ++ r.1, r.2)

/-- Up to two quotes in a row are read as quotes. -/
theorem readBasicLines_quotes {q : Nat} (hq : q ≤ 2) {c : Char} (hquote : c ≠ '"')
    (cs : List Char) :
    readBasicLines false (List.replicate q '"' ++ c :: cs) =
      appendRead (List.replicate q '"') (readBasicLines false (c :: cs)) := by
  have hread : ∀ ds : List Char, ¬['"', '"', '"'] <+: '"' :: ds →
      readBasicLines false ('"' :: ds) = consRead '"' (readBasicLines false ds) :=
    fun ds hds => readBasicLines_plain (.inr (by decide)) (by decide) hds
  have hne : '"' ≠ c := hquote.symm
  match q, hq with
  | 0, _ => simp [appendRead]
  | 1, _ =>
    simp only [List.replicate_succ, List.replicate_zero, List.cons_append, List.nil_append]
    rw [hread _ (by simp [hne])]
    rfl
  | 2, _ =>
    simp only [List.replicate_succ, List.replicate_zero, List.cons_append, List.nil_append]
    rw [hread _ (by simp [hne]), hread _ (by simp [hne]), consRead, consRead, Option.map_map]
    rfl

/-- The quotes in front of a character are read, and then the character. -/
theorem readBasicLines_next {q : Nat} (hq : q ≤ 2) {c d : Char} {w : List Char} (hquote : d ≠ '"')
    (hread : ∀ cs, readBasicLines false (d :: w ++ cs) = consRead c (readBasicLines false cs))
    {cs rest text : List Char} (hrest : readBasicLines false cs = some (text, rest)) :
    readBasicLines false (List.replicate q '"' ++ (d :: w ++ cs)) =
      some (List.replicate q '"' ++ c :: text, rest) := by
  rw [List.cons_append, readBasicLines_quotes hq hquote, ← List.cons_append, hread, hrest]
  rfl

/-- Quotes in front of the closing ones belong to the text. -/
theorem readBasicLines_close {rest : List Char} (hrest : ∀ c ∈ rest.head?, c ≠ '"') {q : Nat}
    (hq : q ≤ 2) :
    readBasicLines false (List.replicate q '"' ++ '"' :: '"' :: '"' :: rest) =
      some (List.replicate q '"', rest) := by
  have hcons : ∀ ds, rest ≠ '"' :: ds := by
    rintro ds rfl
    exact hrest '"' rfl rfl
  match q, hq with
  | 0, _ =>
    rw [List.replicate_zero, List.nil_append, readBasicLines]
    · exact fun ds heq => hcons _ heq
    · exact fun ds heq => hcons _ heq
  | 1, _ =>
    simp only [List.replicate_succ, List.replicate_zero, List.cons_append, List.nil_append]
    rw [readBasicLines]
    exact fun ds heq => hcons _ heq
  | 2, _ => rfl

/-- With the quotes just before it, a text is read up to its closing quotes. -/
theorem readBasicLines_write {rest : List Char} (hrest : ∀ c ∈ rest.head?, c ≠ '"')
    (cs : List Char) {q : Nat} (hq : q ≤ 2) :
    readBasicLines false
        (List.replicate q '"' ++ (writeBasicLines q cs ++ '"' :: '"' :: '"' :: rest)) =
      some (List.replicate q '"' ++ cs, rest) := by
  induction cs generalizing q with
  | nil =>
    rw [writeBasicLines, List.nil_append, List.append_nil]
    exact readBasicLines_close hrest hq
  | cons c cs ih =>
    have hnext := ih (Nat.zero_le 2)
    rw [List.replicate_zero, List.nil_append, List.nil_append] at hnext
    rw [writeBasicLines]
    split_ifs with hquote hfew hline
    · subst hquote
      have hmore := ih (show q + 1 ≤ 2 from hfew)
      rw [List.replicate_succ', List.append_assoc, List.append_assoc] at hmore
      exact hmore
    · subst hquote
      exact readBasicLines_next hq (by decide) (readBasicLines_spelled spelled_quote) hnext
    · subst hline
      refine readBasicLines_next hq (w := []) (by decide) (fun cs => ?_) hnext
      exact readBasicLines_plain (.inl rfl) (by decide) (by simp)
    · have hspelled := spelled_writeChar hquote hline
      have hread := readBasicLines_spelled hspelled
      obtain ⟨d, ds, heq, hd, -⟩ := hspelled.eq_cons
      rw [heq] at hread ⊢
      rw [List.append_assoc]
      exact readBasicLines_next hq hd hread hnext

/-! ## Single quotes -/

/-- A text in single quotes is read as it stands. -/
theorem readLiteral_write {cs : List Char} (h : ∀ c ∈ cs, isPrintable c ∧ c ≠ '\'')
    (rest : List Char) : readLiteral (cs ++ '\'' :: rest) = some (cs, rest) := by
  induction cs with
  | nil => rfl
  | cons c cs ih =>
    obtain ⟨hprintable, hquote⟩ := h c List.mem_cons_self
    rw [List.cons_append, readLiteral, if_pos hprintable,
      ih fun d hd => h d (List.mem_cons_of_mem _ hd)]
    · rfl
    · exact hquote

/-! ## Tripled single quotes -/

theorem readLiteralLines_plain {c : Char} {cs : List Char} (hplain : c = '\n' ∨ isPrintable c)
    (hquotes : ¬['\'', '\'', '\''] <+: c :: cs) :
    readLiteralLines (c :: cs) = consRead c (readLiteralLines cs) := by
  have hreturn : c ≠ '\r' := by
    rintro rfl
    exact absurd hplain (by decide)
  rw [readLiteralLines.eq_def]
  split
  · contradiction
  · rename_i heq
    exact absurd (by rw [heq]; exact ⟨_, rfl⟩) hquotes
  · rename_i heq
    exact absurd (by rw [heq]; exact ⟨_, rfl⟩) hquotes
  · rename_i heq
    exact absurd (by rw [heq]; exact ⟨_, rfl⟩) hquotes
  · rename_i heq
    exact absurd (List.cons.inj heq).1 hreturn
  · rename_i heq
    obtain ⟨rfl, rfl⟩ := List.cons.inj heq
    rw [if_pos hplain]

theorem hasTriple_of_cons {quote c : Char} {cs : List Char} (h : hasTriple quote (c :: cs) = false) :
    hasTriple quote cs = false := by
  cases cs with
  | nil => rfl
  | cons a cs =>
    cases cs with
    | nil => rfl
    | cons b cs =>
      rw [hasTriple, Bool.or_eq_false_iff] at h
      exact h.2

/-- A text without three quotes in a row is read up to its closing quotes. -/
theorem readLiteralLines_write {rest : List Char} (hrest : ∀ c ∈ rest.head?, c ≠ '\'')
    {cs : List Char} (hplain : ∀ c ∈ cs, c = '\n' ∨ isPrintable c)
    (htriple : hasTriple '\'' cs = false) :
    readLiteralLines (cs ++ '\'' :: '\'' :: '\'' :: rest) = some (cs, rest) := by
  have hcons : ∀ ds, rest ≠ '\'' :: ds := by
    rintro ds rfl
    exact hrest '\'' rfl rfl
  induction cs with
  | nil =>
    rw [List.nil_append, readLiteralLines]
    · exact fun ds heq => hcons _ heq
    · exact fun ds heq => hcons _ heq
  | cons c cs ih =>
    have hnext := ih (fun d hd => hplain d (List.mem_cons_of_mem _ hd)) (hasTriple_of_cons htriple)
    by_cases hquotes : ['\'', '\'', '\''] <+: c :: cs ++ '\'' :: '\'' :: '\'' :: rest
    · -- The text has no three quotes in a row, so that closing ones are among these.
      match cs with
      | [] =>
        simp only [List.cons_append, List.nil_append, List.cons_prefix_cons] at hquotes ⊢
        obtain ⟨rfl, -⟩ := hquotes
        rw [readLiteralLines]
        exact fun ds heq => hcons _ heq
      | [d] =>
        simp only [List.cons_append, List.nil_append, List.cons_prefix_cons] at hquotes ⊢
        obtain ⟨rfl, rfl, -⟩ := hquotes
        rfl
      | d :: e :: cs =>
        simp only [List.cons_append, List.cons_prefix_cons] at hquotes
        obtain ⟨rfl, rfl, rfl, -⟩ := hquotes
        simp [hasTriple] at htriple
    · rw [List.cons_append] at hquotes ⊢
      rw [readLiteralLines_plain (hplain c List.mem_cons_self) hquotes, hnext]
      rfl

/-! ## Whole texts -/

/-- What a way to write a text asks of it. -/
def TextStyle.Suits (cs : List Char) : TextStyle → Prop
  | basic => True
  | literal => ∀ c ∈ cs, isPrintable c ∧ c ≠ '\''
  | basicLines => True
  | literalLines => (∀ c ∈ cs, c = '\n' ∨ isPrintable c) ∧ hasTriple '\'' cs = false

/-- The way that is chosen suits the text. -/
theorem TextStyle.suits_choose (cs : List Char) : (TextStyle.choose cs).Suits cs := by
  have hplain : ¬cs.any needsEscape → ∀ c ∈ cs, c = '\n' ∨ isPrintable c := by
    intro hnone c hc
    have hescape : needsEscape c = false := by
      have hall := List.any_eq_false.mp (Bool.not_eq_true _ ▸ hnone) c hc
      simpa using hall
    simp only [needsEscape, Bool.and_eq_false_iff, Bool.not_eq_false', decide_eq_false_iff_not,
      Decidable.not_not] at hescape
    exact hescape.symm
  unfold TextStyle.choose
  split_ifs with hescape hline hbasic hliteral hlines hsingle hbreak
  · trivial
  · trivial
  · trivial
  · intro c hc
    have hquote : '\'' ∉ cs := by simpa using hliteral.1
    have hline : '\n' ∉ cs := by simpa using hliteral.2
    refine ⟨(hplain hescape c hc).resolve_left ?_, ?_⟩
    · rintro rfl
      exact hline hc
    · rintro rfl
      exact hquote hc
  · trivial
  · exact ⟨hplain hescape, by simpa using hsingle⟩
  · trivial
  · trivial

/-- A line break that was put after the opening quotes is dropped again, and no other. -/
theorem dropFirstBreak_firstBreak {cs w : List Char}
    (hw : '\n' ∉ cs → ∀ c ∈ w.head?, isPrintable c) : dropFirstBreak (firstBreak cs ++ w) = w := by
  rw [firstBreak]
  split_ifs with hline
  · rfl
  · have hhead := hw (by simpa using hline)
    rw [List.nil_append, dropFirstBreak.eq_def]
    split
    · exact absurd (hhead '\n' rfl) (by decide)
    · exact absurd (hhead '\r' rfl) (by decide)
    · rfl

theorem head_writeBasicLines {cs rest : List Char} (hline : '\n' ∉ cs) :
    ∀ c ∈ (writeBasicLines 0 cs ++ '"' :: rest).head?, isPrintable c := by
  cases cs with
  | nil => simp [writeBasicLines, isPrintable]
  | cons c cs =>
    rw [writeBasicLines]
    split_ifs with hquote hfew hbreak
    · simp [isPrintable]
    · contradiction
    · exact absurd (hbreak ▸ List.mem_cons_self) hline
    · obtain ⟨d, ds, heq, -, hd⟩ := (spelled_writeChar hquote hbreak).eq_cons
      rw [heq]
      simpa using hd

/-- A text is read as it was written, in every way that suits it. -/
theorem readText_write {style : TextStyle} {cs : List Char} (h : style.Suits cs) {rest : List Char}
    (hrest : ∀ c ∈ rest.head?, c ≠ '"' ∧ c ≠ '\'') :
    readText (style.write cs ++ rest) = some (cs, rest) := by
  have hdouble : ∀ c ∈ rest.head?, c ≠ '"' := fun c hc => (hrest c hc).1
  have hsingle : ∀ c ∈ rest.head?, c ≠ '\'' := fun c hc => (hrest c hc).2
  cases style with
  | basic =>
    have htwo : ∀ ds, writeBasic cs ++ '"' :: rest ≠ '"' :: '"' :: ds := by
      intro ds heq
      cases cs with
      | nil =>
        rw [(List.cons.inj heq).2] at hdouble
        exact hdouble '"' rfl rfl
      | cons c cs =>
        obtain ⟨w, hspelled, hwrite⟩ := writeBasic_cons c cs
        obtain ⟨d, w, rfl, hd, -⟩ := hspelled.eq_cons
        rw [hwrite] at heq
        exact hd (List.cons.inj heq).1
    rw [TextStyle.write, List.cons_append, List.cons_append, List.append_assoc,
      List.singleton_append, readText, readBasic_write]
    exact htwo
  | literal =>
    have htwo : ∀ ds, cs ++ '\'' :: rest ≠ '\'' :: '\'' :: ds := by
      intro ds heq
      cases cs with
      | nil =>
        rw [(List.cons.inj heq).2] at hsingle
        exact hsingle '\'' rfl rfl
      | cons c cs => exact (h c List.mem_cons_self).2 (List.cons.inj heq).1
    rw [TextStyle.write, List.cons_append, List.cons_append, List.append_assoc,
      List.singleton_append, readText, readLiteral_write h]
    exact htwo
  | basicLines =>
    have hread := readBasicLines_write hdouble cs (Nat.zero_le 2)
    have htext : TextStyle.basicLines.write cs ++ rest = '"' :: '"' :: '"' ::
        (firstBreak cs ++ (writeBasicLines 0 cs ++ '"' :: '"' :: '"' :: rest)) := by
      simp [TextStyle.write]
    rw [htext, readText, dropFirstBreak_firstBreak head_writeBasicLines]
    exact hread
  | literalLines =>
    have hread := readLiteralLines_write hsingle h.1 h.2
    have hhead : '\n' ∉ cs → ∀ c ∈ (cs ++ '\'' :: '\'' :: '\'' :: rest).head?, isPrintable c := by
      intro hline c hc
      cases cs with
      | nil =>
        obtain rfl := Option.some.inj hc
        rfl
      | cons d cs =>
        obtain rfl := Option.some.inj hc
        refine (h.1 d List.mem_cons_self).resolve_left ?_
        rintro rfl
        exact hline List.mem_cons_self
    have htext : TextStyle.literalLines.write cs ++ rest = '\'' :: '\'' :: '\'' ::
        (firstBreak cs ++ (cs ++ '\'' :: '\'' :: '\'' :: rest)) := by
      simp [TextStyle.write]
    rw [htext, readText, dropFirstBreak_firstBreak hhead]
    exact hread

/-- Every text is read as it was written, whatever follows that is no quote. -/
theorem readText_writeText (cs : List Char) {rest : List Char}
    (hrest : ∀ c ∈ rest.head?, c ≠ '"' ∧ c ≠ '\'') :
    readText (writeText cs ++ rest) = some (cs, rest) :=
  readText_write (TextStyle.suits_choose cs) hrest

end HistorySearch.Toml
