-- SUMMARY: The forms of a date may be tried in any order.
import HistorySearch.Proofs.Calendar.Denoted
import Mathlib.Data.List.Pairwise

/-!
# The order of the forms

The patterns of a date go on one where the other ends. A text is used up by the shorter one or goes
on with the separator that the longer one needs; only the fraction may be missing, and is zero then.
An offset is what no pattern has: its marks are none of the characters that a time is made of. So
two forms that accept a text read the same timestamp, and the first that does may be any of them.
-/

namespace HistorySearch

-- ---------------------------------------------------------------------------
-- Longer and shorter patterns
-- ---------------------------------------------------------------------------

namespace PatternItem

/-- Reads some parts of a pattern from the start of a text. -/
def readParts (items : List PatternItem) (f : ClockFields) (cs : List Char) :
    Option (ClockFields × List Char) :=
  items.foldlM (fun r item => item.read r.1 r.2) (f, cs)

variable {items : List PatternItem} {f g : ClockFields} {cs rest : List Char}

theorem readAll_append (items more : List PatternItem) (f : ClockFields) (cs : List Char) :
    readAll (items ++ more) f cs = (readParts items f cs).bind fun r => readAll more r.1 r.2 := by
  induction items generalizing f cs with
  | nil => rfl
  | cons item items ih =>
    rw [List.cons_append, readAll, readParts, List.foldlM_cons]
    cases item.read f cs with
    | none => rfl
    | some r => exact ih r.1 r.2

/-- Parts that read a whole text leave nothing of it. -/
theorem readParts_of_readAll (h : readAll items f cs = some g) :
    readParts items f cs = some (g, []) := by
  rw [← List.append_nil items, readAll_append] at h
  obtain ⟨⟨g', rest⟩, hparts, hend⟩ := Option.bind_eq_some_iff.mp h
  cases rest with
  | nil =>
    obtain rfl := Option.some.inj hend
    exact hparts
  | cons c cs => contradiction

/-- Where a pattern reads a whole text, a longer one goes on with nothing. -/
theorem readAll_longer (h : readAll items f cs = some g) (more : List PatternItem) :
    readAll (items ++ more) f cs = readAll more g [] := by
  rw [readAll_append, readParts_of_readAll h]
  rfl

end PatternItem

namespace Pattern

open PatternItem

/-- A pattern goes on where another one ends: with a separator, or with a fraction and no more. -/
inductive Extends : Pattern → Pattern → Prop
  | separator (p : Pattern) (c : Char) (more : Pattern) : Extends (p ++ separator c :: more) p
  | fraction (p : Pattern) : Extends (p ++ [fraction]) p

/-- A pattern and a longer one read the same of a text that both accept. -/
theorem Extends.readAll_eq {p q : Pattern} (h : Extends q p) {f g g' : ClockFields}
    {cs : List Char} (hshort : readAll p f cs = some g) (hlong : readAll q f cs = some g') :
    g' = g := by
  cases h with
  | separator c more =>
    rw [readAll_longer hshort] at hlong
    contradiction
  | fraction =>
    rw [readAll_longer hshort] at hlong
    exact (Option.some.inj hlong).symm

/-- The patterns of a date without an offset, in the order in which they are tried. -/
def naive : List Pattern :=
  [toFraction, toSecond, toMinute, date]

theorem pairwise_naive : naive.Pairwise Extends := by
  have hfraction : Extends toFraction toSecond := .fraction toSecond
  have hsecond : ∀ more, Extends (toMinute ++ separator ':' :: more) toMinute :=
    .separator toMinute ':'
  have htime : ∀ more, Extends (date ++ separator 'T' :: more) date := .separator date 'T'
  refine .cons ?_ (.cons ?_ (.cons ?_ (.cons ?_ .nil)))
  · refine List.forall_mem_cons.mpr ⟨hfraction, List.forall_mem_cons.mpr ⟨hsecond [second, fraction],
      List.forall_mem_singleton.mpr (htime _)⟩⟩
  · exact List.forall_mem_cons.mpr ⟨hsecond [second], List.forall_mem_singleton.mpr (htime _)⟩
  · exact List.forall_mem_singleton.mpr (htime _)
  · exact List.forall_mem_nil _

end Pattern

-- ---------------------------------------------------------------------------
-- The characters that are read
-- ---------------------------------------------------------------------------

/-- A text without what was read from its start, which were characters of a class. -/
def ReadOff (p : Char → Bool) (cs rest : List Char) : Prop :=
  ∃ own, cs = own ++ rest ∧ ∀ c ∈ own, p c

namespace ReadOff

variable {p q : Char → Bool} {cs mid rest : List Char}

theorem refl (cs : List Char) : ReadOff p cs cs :=
  ⟨[], rfl, List.forall_mem_nil _⟩

theorem cons {c : Char} (h : p c) (cs : List Char) : ReadOff p (c :: cs) cs :=
  ⟨[c], rfl, List.forall_mem_singleton.mpr h⟩

theorem trans (h : ReadOff p cs mid) (h' : ReadOff p mid rest) : ReadOff p cs rest := by
  obtain ⟨own, rfl, hown⟩ := h
  obtain ⟨own', rfl, hown'⟩ := h'
  exact ⟨own ++ own', (List.append_assoc _ _ _).symm, List.forall_mem_append.mpr ⟨hown, hown'⟩⟩

theorem mono (h : ReadOff p cs rest) (hpq : ∀ c, p c → q c) : ReadOff q cs rest := by
  obtain ⟨own, hcs, hown⟩ := h
  exact ⟨own, hcs, fun c hc => hpq c (hown c hc)⟩

theorem isSuffix (h : ReadOff p cs rest) : rest <:+ cs := by
  obtain ⟨own, hcs, -⟩ := h
  exact ⟨own, hcs.symm⟩

theorem dropWhile (p : Char → Bool) (cs : List Char) : ReadOff p cs (cs.dropWhile p) :=
  ⟨cs.takeWhile p, List.takeWhile_append_dropWhile.symm, fun _ => List.mem_takeWhile_imp⟩

end ReadOff

namespace Decimal

variable {width n : Nat} {cs rest : List Char}

theorem readOff_readUpTo (h : readUpTo width cs = some (n, rest)) : ReadOff isDigit cs rest := by
  rw [readUpTo] at h
  split at h
  · contradiction
  · rename_i d ds hdigits
    obtain ⟨-, rfl⟩ := Prod.mk.inj (Option.some.inj h)
    refine ⟨d :: ds, ?_, ?_⟩
    · have hprefix : d :: ds <+: cs := by
        rw [← hdigits]
        exact (List.takeWhile_prefix isDigit).trans (List.take_prefix width cs)
      exact (List.prefix_iff_eq_append.mp hprefix).symm
    · rw [← hdigits]
      exact fun c hc => List.mem_takeWhile_imp hc

theorem readOff_readAll (h : readAll cs = some (n, rest)) : ReadOff isDigit cs rest := by
  rw [readAll] at h
  split at h
  · contradiction
  · obtain ⟨-, rfl⟩ := Prod.mk.inj (Option.some.inj h)
    exact .dropWhile isDigit cs

theorem readOff_readExactly (h : readExactly width cs = some (n, rest)) :
    ReadOff isDigit cs rest := by
  rw [readExactly] at h
  split_ifs at h with hlength
  obtain ⟨-, rfl⟩ := Prod.mk.inj (Option.some.inj h)
  have htake : (cs.take width).takeWhile isDigit = cs.take width := by
    have hle := List.length_take_le width cs
    exact (List.takeWhile_prefix isDigit).eq_of_length_le (by omega)
  refine ⟨cs.take width, (List.take_append_drop width cs).symm, ?_⟩
  rw [← htake]
  exact fun c hc => List.mem_takeWhile_imp hc

end Decimal

namespace PatternItem

variable {items : List PatternItem} {f g : ClockFields} {cs rest : List Char}

/-- What is made of a result leaves the characters after it. -/
theorem exists_of_map {α β : Type} {x : Option (α × List Char)}
    {make : α × List Char → β × List Char} {b : β} (h : x.map make = some (b, rest))
    (hmake : ∀ r, (make r).2 = r.2) : ∃ a, x = some (a, rest) := by
  obtain ⟨⟨a, after⟩, hx, hmade⟩ := Option.map_eq_some_iff.mp h
  have hrest : after = rest := (hmake (a, after)).symm.trans (congrArg Prod.snd hmade)
  rw [hx, hrest]
  exact ⟨a, rfl⟩

/-- The characters of a number and of the white space before it. -/
def isNumberChar (c : Char) : Bool :=
  Decimal.isDigit c || Blank.isBlank c

/-- The characters that a part of a pattern is read from. -/
def takes : PatternItem → Char → Bool
  | year, c => isNumberChar c || c = '-' || c = '+'
  | fraction, c => Decimal.isDigit c || c = '.'
  | separator s, c => c = s
  | _, c => isNumberChar c

theorem readOff_trimStart (cs : List Char) : ReadOff isNumberChar cs (Blank.trimStart cs) := by
  refine (ReadOff.dropWhile Blank.isBlank cs).mono fun c hc => ?_
  exact Bool.or_eq_true_iff.mpr (.inr hc)

theorem isNumberChar_of_isDigit (c : Char) (h : Decimal.isDigit c) : isNumberChar c :=
  Bool.or_eq_true_iff.mpr (.inl h)

theorem readOff_readShort {n : Nat} (h : readShort cs = some (n, rest)) :
    ReadOff isNumberChar cs rest :=
  (readOff_trimStart cs).trans ((Decimal.readOff_readUpTo h).mono isNumberChar_of_isDigit)

theorem readOff_readYear {n : Int} (h : readYear cs = some (n, rest)) :
    ReadOff year.takes cs rest := by
  have hnumber (c : Char) (hc : isNumberChar c) : year.takes c := by simp [takes, hc]
  have hdigit (c : Char) (hc : Decimal.isDigit c) : year.takes c :=
    hnumber c (isNumberChar_of_isDigit c hc)
  refine ((readOff_trimStart cs).mono hnumber).trans ?_
  rw [readYear] at h
  split at h
  · rename_i after htrim
    obtain ⟨_, hread⟩ := exists_of_map h fun _ => rfl
    rw [htrim]
    exact (ReadOff.cons rfl after).trans ((Decimal.readOff_readAll hread).mono hdigit)
  · rename_i after htrim
    obtain ⟨_, hread⟩ := exists_of_map h fun _ => rfl
    rw [htrim]
    exact (ReadOff.cons rfl after).trans ((Decimal.readOff_readAll hread).mono hdigit)
  · obtain ⟨_, hread⟩ := exists_of_map h fun _ => rfl
    exact (Decimal.readOff_readUpTo hread).mono hdigit

theorem readOff_readFraction {n : Nat} (h : readFraction cs = some (n, rest)) :
    ReadOff Decimal.isDigit cs rest := by
  rw [readFraction] at h
  split at h
  · contradiction
  · obtain ⟨-, rfl⟩ := Prod.mk.inj (Option.some.inj h)
    exact .dropWhile Decimal.isDigit cs

/-- A part of a pattern is read from its own characters. -/
theorem readOff_read {item : PatternItem} (h : item.read f cs = some (g, rest)) :
    ReadOff item.takes cs rest := by
  revert h
  fun_cases PatternItem.read item f cs with
  | case1 =>
    intro h
    obtain ⟨_, hread⟩ := exists_of_map h fun _ => rfl
    exact readOff_readYear hread
  | case2 | case3 | case4 | case5 | case6 =>
    intro h
    obtain ⟨_, hread⟩ := exists_of_map h fun _ => rfl
    exact readOff_readShort hread
  | case7 f cs =>
    intro h
    obtain ⟨_, hread⟩ := exists_of_map h fun _ => rfl
    refine (ReadOff.cons rfl cs).trans ((readOff_readFraction hread).mono fun c hc => ?_)
    exact Bool.or_eq_true_iff.mpr (.inl hc)
  | case8 f cs =>
    intro h
    obtain ⟨-, rfl⟩ := Prod.mk.inj (Option.some.inj h)
    exact .refl cs
  | case9 f c cs =>
    intro h
    obtain ⟨-, rfl⟩ := Prod.mk.inj (Option.some.inj h)
    have hown : (separator c).takes c := decide_eq_true rfl
    exact .cons hown cs
  | case10 | case11 =>
    intro h
    contradiction

/-- So are the parts one after the other. -/
theorem readOff_readParts {p : Char → Bool} (hclass : ∀ item ∈ items, ∀ c, item.takes c → p c)
    (h : readParts items f cs = some (g, rest)) : ReadOff p cs rest := by
  induction items generalizing f cs with
  | nil =>
    obtain ⟨-, rfl⟩ := Prod.mk.inj (Option.some.inj h)
    exact .refl cs
  | cons item items ih =>
    rw [readParts, List.foldlM_cons] at h
    obtain ⟨⟨f', mid⟩, hitem, hrest⟩ := Option.bind_eq_some_iff.mp h
    obtain ⟨htakes, hclass⟩ := List.forall_mem_cons.mp hclass
    exact ((readOff_read hitem).mono htakes).trans (ih hclass hrest)

end PatternItem

-- ---------------------------------------------------------------------------
-- Texts without an offset
-- ---------------------------------------------------------------------------

def isDayChar (c : Char) : Bool :=
  PatternItem.isNumberChar c || c = '-' || c = '+'

def isTimeChar (c : Char) : Bool :=
  PatternItem.isNumberChar c || c = ':' || c = '.'

/-- A day, or a day and a time, as far as the characters tell: signs are in the day, and colons are
in the time. -/
inductive IsNaiveText : List Char → Prop
  | day {cs : List Char} (h : ∀ c ∈ cs, isDayChar c) : IsNaiveText cs
  | time {a b : List Char} (ha : ∀ c ∈ a, isDayChar c) (hb : ∀ c ∈ b, isTimeChar c) :
    IsNaiveText (a ++ 'T' :: b)

namespace Pattern

open PatternItem

theorem takes_date : ∀ item ∈ date, ∀ c, item.takes c → isDayChar c := by
  grind [date, takes, isDayChar]

/-- The parts of the time to a fraction of the second. -/
def timeParts : Pattern :=
  [hour, separator ':', minute, separator ':', second, fraction]

theorem takes_timeParts : ∀ item ∈ timeParts, ∀ c, item.takes c → isTimeChar c := by
  grind [timeParts, takes, isTimeChar, isNumberChar]

/-- A pattern is a day alone, or goes on with some parts of the time. -/
theorem mem_naive {p : Pattern} (h : p ∈ naive) :
    p = date ∨ ∃ more, more ⊆ timeParts ∧ p = date ++ separator 'T' :: more := by
  simp only [naive, List.mem_cons, List.not_mem_nil, or_false] at h
  rcases h with rfl | rfl | rfl | rfl
  · exact .inr ⟨timeParts, List.Subset.refl _, rfl⟩
  · exact .inr ⟨[hour, separator ':', minute, separator ':', second], by decide, rfl⟩
  · exact .inr ⟨[hour, separator ':', minute], by decide, rfl⟩
  · exact .inl rfl

/-- What a pattern reads looks like a time without an offset. -/
theorem isNaiveText_of_readAll {p : Pattern} (hp : p ∈ naive) {f g : ClockFields} {cs : List Char}
    (h : readAll p f cs = some g) : IsNaiveText cs := by
  obtain rfl | ⟨more, hmore, rfl⟩ := mem_naive hp
  · obtain ⟨own, rfl, hown⟩ := readOff_readParts takes_date (readParts_of_readAll h)
    exact .day (List.forall_mem_append.mpr ⟨hown, List.forall_mem_nil _⟩)
  · rw [readAll_append] at h
    obtain ⟨⟨f', mid⟩, hdate, htime⟩ := Option.bind_eq_some_iff.mp h
    obtain ⟨a, rfl, ha⟩ := readOff_readParts takes_date hdate
    rw [readAll] at htime
    obtain ⟨⟨f'', b⟩, hseparator, htime⟩ := Option.bind_eq_some_iff.mp htime
    have hmid : mid = 'T' :: b := by
      cases mid with
      | nil => contradiction
      | cons c cs =>
        rw [PatternItem.read] at hseparator
        split_ifs at hseparator with hc
        rw [hc, (Prod.mk.inj (Option.some.inj hseparator)).2]
    have hclass : ∀ item ∈ more, ∀ c, item.takes c → isTimeChar c :=
      fun item hitem => takes_timeParts item (hmore hitem)
    obtain ⟨own, rfl, hown⟩ := readOff_readParts hclass (readParts_of_readAll htime)
    rw [hmid, List.append_nil]
    exact .time ha hown

end Pattern

-- ---------------------------------------------------------------------------
-- Texts with an offset
-- ---------------------------------------------------------------------------

/-- The characters that start an offset. -/
def offsetMarks : List Char :=
  ['Z', 'z', '+', '-', '\u2212']

/-- A text carries an offset if it ends with one, or if a mark of one stands in its time, whatever
the numbers after it. -/
inductive CarriesOffset : List Char → Prop
  | ends (before : List Char) {zone : List Char} {offset : Int}
    (h : Rfc3339.readOffset zone = some (offset, [])) : CarriesOffset (before ++ zone)
  | marked (before : List Char) {after : List Char} {c : Char} (hmark : c ∈ offsetMarks)
    (hc : c ∈ after) : CarriesOffset (before ++ 'T' :: after)

namespace Rfc3339

variable {cs rest : List Char}

theorem eq_cons_of_expect {c : Char} (h : expect c cs = some rest) : cs = c :: rest := by
  cases cs with
  | nil => contradiction
  | cons d cs =>
    rw [expect] at h
    split_ifs at h with hd
    rw [hd, Option.some.inj h]

theorem eq_cons_of_readSign {unit : Int} (h : readSign cs = some (unit, rest)) :
    ∃ sign ∈ offsetMarks, cs = sign :: rest := by
  unfold readSign at h
  split at h
  · obtain ⟨-, rfl⟩ := Prod.mk.inj (Option.some.inj h)
    exact ⟨'+', by decide, rfl⟩
  · obtain ⟨-, rfl⟩ := Prod.mk.inj (Option.some.inj h)
    exact ⟨'-', by decide, rfl⟩
  · obtain ⟨-, rfl⟩ := Prod.mk.inj (Option.some.inj h)
    exact ⟨'\u2212', by decide, rfl⟩
  · contradiction

/-- An offset is a mark and no more, or a sign with digits and a colon. -/
theorem zone_of_readOffset {zone : List Char} {offset : Int}
    (h : readOffset zone = some (offset, [])) :
    zone = ['Z'] ∨ zone = ['z'] ∨ ∃ sign ∈ offsetMarks, ∃ hours minutes : List Char,
      zone = sign :: (hours ++ ':' :: minutes) ∧
        (∀ c ∈ hours, Decimal.isDigit c) ∧ ∀ c ∈ minutes, Decimal.isDigit c := by
  unfold readOffset at h
  split at h
  · obtain ⟨-, rfl⟩ := Prod.mk.inj (Option.some.inj h)
    exact .inl rfl
  · obtain ⟨-, rfl⟩ := Prod.mk.inj (Option.some.inj h)
    exact .inr (.inl rfl)
  · simp only [Option.bind_eq_bind, Option.bind_eq_some_iff] at h
    obtain ⟨⟨_, _⟩, hsign, ⟨_, _⟩, hfirst, _, hcolon, ⟨_, _⟩, hsecond, h⟩ := h
    split_ifs at h
    obtain ⟨-, rfl⟩ := Prod.mk.inj (Option.some.inj h)
    obtain ⟨sign, hmark, rfl⟩ := eq_cons_of_readSign hsign
    obtain ⟨hours, rfl, hhours⟩ := Decimal.readOff_readExactly hfirst
    obtain rfl := eq_cons_of_expect hcolon
    obtain ⟨minutes, rfl, hminutes⟩ := Decimal.readOff_readExactly hsecond
    rw [List.append_nil]
    exact .inr (.inr ⟨sign, hmark, hours, minutes, rfl, hhours, hminutes⟩)

end Rfc3339

theorem not_isTimeChar_of_mark {c : Char} (h : c ∈ offsetMarks) : isTimeChar c = false := by
  have hall : offsetMarks.all (!isTimeChar ·) := by decide
  simpa using List.all_eq_true.mp hall c h

/-- An offset has a character that is not one of a day, and a character that is not one of a time,
but no `T`. -/
theorem marks_of_readOffset {zone : List Char} {offset : Int}
    (h : Rfc3339.readOffset zone = some (offset, [])) :
    (∃ c ∈ zone, isDayChar c = false) ∧ (∃ c ∈ zone, isTimeChar c = false) ∧ 'T' ∉ zone := by
  obtain rfl | rfl | ⟨sign, hmark, hours, minutes, rfl, hhours, hminutes⟩ :=
    Rfc3339.zone_of_readOffset h
  · exact ⟨⟨'Z', List.mem_cons_self, by decide⟩, ⟨'Z', List.mem_cons_self, by decide⟩, by decide⟩
  · exact ⟨⟨'z', List.mem_cons_self, by decide⟩, ⟨'z', List.mem_cons_self, by decide⟩, by decide⟩
  · refine ⟨⟨':', by simp, by decide⟩, ⟨sign, by simp, not_isTimeChar_of_mark hmark⟩, ?_⟩
    have hsign : 'T' ≠ sign := by
      rintro rfl
      exact absurd hmark (by decide)
    simp only [List.mem_cons, List.mem_append, not_or]
    exact ⟨hsign, fun hmem => absurd (hhours _ hmem) (by decide), by decide,
      fun hmem => absurd (hminutes _ hmem) (by decide)⟩

namespace IsNaiveText

variable {cs : List Char}

/-- A time without an offset does not end with one. -/
theorem ne_append_zone (h : IsNaiveText cs) (before : List Char) {zone : List Char} {offset : Int}
    (hread : Rfc3339.readOffset zone = some (offset, [])) : cs ≠ before ++ zone := by
  intro hcs
  obtain ⟨⟨d, hd, hnotDay⟩, ⟨e, he, hnotTime⟩, hT⟩ := marks_of_readOffset hread
  cases h with
  | day hday =>
    have hmem : d ∈ cs := hcs ▸ List.mem_append_right before hd
    exact ne_of_holds (hday d hmem) hnotDay rfl
  | time ha hb =>
    -- The offset stands after the `T`, since it has none.
    obtain ⟨mid, rfl, hafter⟩ | ⟨mid, rfl, rfl⟩ := List.append_eq_append_iff.mp hcs
    · cases mid with
      | nil =>
        obtain rfl : 'T' :: _ = zone := hafter
        exact hT List.mem_cons_self
      | cons c mid =>
        obtain ⟨-, rfl⟩ := List.cons.inj hafter
        exact ne_of_holds (hb e (List.mem_append_right mid he)) hnotTime rfl
    · exact hT (List.mem_append_right mid List.mem_cons_self)

/-- No mark of an offset stands in its time. -/
theorem ne_append_mark (h : IsNaiveText cs) (before : List Char) {after : List Char} {c : Char}
    (hmark : c ∈ offsetMarks) (hc : c ∈ after) : cs ≠ before ++ 'T' :: after := by
  intro hcs
  have hT : isDayChar 'T' = false ∧ isTimeChar 'T' = false := by decide
  cases h with
  | day hday =>
    have hmem : 'T' ∈ cs := hcs ▸ List.mem_append_right before List.mem_cons_self
    exact ne_of_holds (hday 'T' hmem) hT.1 rfl
  | time ha hb =>
    have hnotBefore : 'T' ∉ _ := fun hmem => ne_of_holds (ha 'T' hmem) hT.1 rfl
    have hnotAfter : 'T' ∉ _ := fun hmem => ne_of_holds (hb 'T' hmem) hT.2 rfl
    obtain ⟨-, -, rfl⟩ := (List.append_cons_inj_of_notMem hnotBefore hnotAfter).mp hcs
    exact ne_of_holds (hb c hc) (not_isTimeChar_of_mark hmark) rfl

theorem not_carriesOffset (h : IsNaiveText cs) : ¬CarriesOffset cs := by
  intro hcarries
  cases hcarries with
  | ends before hread => exact h.ne_append_zone before hread rfl
  | marked before hmark hc => exact h.ne_append_mark before hmark hc rfl

end IsNaiveText

namespace Rfc3339

variable {f g : ClockFields} {cs rest : List Char}

theorem isSuffix_expect {c : Char} (h : expect c cs = some rest) : rest <:+ cs := by
  rw [eq_cons_of_expect h]
  exact List.suffix_cons c rest

theorem isSuffix_readDelimiter (h : readDelimiter cs = some rest) : rest <:+ cs := by
  cases cs with
  | nil => contradiction
  | cons c cs =>
    rw [readDelimiter] at h
    split_ifs at h
    obtain rfl := Option.some.inj h
    exact List.suffix_cons c cs

theorem isSuffix_readDate (h : readDate cs = some (f, rest)) : rest <:+ cs := by
  simp only [readDate, Option.bind_eq_bind, Option.bind_eq_some_iff] at h
  obtain ⟨_, hyear, _, hfirst, _, hmonth, _, hsecond, ⟨_, _⟩, hday, h⟩ := h
  obtain ⟨-, rfl⟩ := Prod.mk.inj (Option.some.inj h)
  have hmonths := (isSuffix_expect hfirst).trans (Decimal.readOff_readExactly hyear).isSuffix
  have hdays := (isSuffix_expect hsecond).trans (Decimal.readOff_readExactly hmonth).isSuffix
  exact (Decimal.readOff_readExactly hday).isSuffix.trans (hdays.trans hmonths)

theorem isSuffix_readTime (h : readTime f cs = some (g, rest)) : rest <:+ cs := by
  simp only [readTime, Option.bind_eq_bind, Option.bind_eq_some_iff] at h
  obtain ⟨_, hhour, _, hfirst, _, hminute, _, hsecond, ⟨_, _⟩, hlast, h⟩ := h
  obtain ⟨-, rfl⟩ := Prod.mk.inj (Option.some.inj h)
  have hminutes := (isSuffix_expect hfirst).trans (Decimal.readOff_readExactly hhour).isSuffix
  have hseconds := (isSuffix_expect hsecond).trans (Decimal.readOff_readExactly hminute).isSuffix
  exact (Decimal.readOff_readExactly hlast).isSuffix.trans (hseconds.trans hminutes)

/-- What is read in full ends with an offset. -/
theorem carriesOffset_of_read {t : Timestamp} (h : read cs = some t) : CarriesOffset cs := by
  simp only [read, Option.bind_eq_bind, Option.bind_eq_some_iff] at h
  obtain ⟨⟨_, _⟩, hdate, _, hdelimiter, ⟨_, _⟩, htime, ⟨_, zone⟩, hfraction, ⟨offset, rest⟩,
    hoffset, h⟩ := h
  split_ifs at h with hempty
  obtain rfl := List.isEmpty_iff.mp hempty
  have htimes := (isSuffix_readDelimiter hdelimiter).trans (isSuffix_readDate hdate)
  have hzone := (PatternItem.readOff_read hfraction).isSuffix.trans (isSuffix_readTime htime)
  obtain ⟨before, rfl⟩ := hzone.trans htimes
  exact .ends before hoffset

end Rfc3339

-- ---------------------------------------------------------------------------
-- Any order
-- ---------------------------------------------------------------------------

namespace Timestamp

/-- Two forms read the same timestamp of a text that both accept. -/
def Agree (form form' : List Char → Option Timestamp) : Prop :=
  ∀ cs t t', form cs = some t → form' cs = some t' → t = t'

instance : Std.Symm Agree where
  symm _ _ h cs t t' ht ht' := (h cs t' t ht' ht).symm

theorem Agree.refl (form : List Char → Option Timestamp) : Agree form form :=
  fun _ _ _ ht ht' => Option.some.inj (ht.symm.trans ht')

theorem agree_of_extends {p q : Pattern} (h : q.Extends p) :
    Agree (readNaive q) (readNaive p) := by
  intro cs t t' ht ht'
  obtain ⟨c, hclock, rfl⟩ := Option.map_eq_some_iff.mp ht
  obtain ⟨c', hclock', rfl⟩ := Option.map_eq_some_iff.mp ht'
  obtain ⟨f, hfields, hclock⟩ := Option.bind_eq_some_iff.mp hclock
  obtain ⟨f', hfields', hclock'⟩ := Option.bind_eq_some_iff.mp hclock'
  obtain rfl := h.readAll_eq hfields' hfields
  obtain rfl := Option.some.inj (hclock.symm.trans hclock')
  rfl

/-- A text that carries an offset is read by no pattern. -/
theorem readNaive_of_carriesOffset {cs : List Char} (h : CarriesOffset cs) {p : Pattern}
    (hp : p ∈ Pattern.naive) : readNaive p cs = none := by
  apply Option.eq_none_iff_forall_ne_some.mpr
  intro t ht
  obtain ⟨c, hclock, -⟩ := Option.map_eq_some_iff.mp ht
  obtain ⟨f, hfields, -⟩ := Option.bind_eq_some_iff.mp hclock
  exact (Pattern.isNaiveText_of_readAll hp hfields).not_carriesOffset h

theorem pairwise_agree : forms.Pairwise Agree := by
  have hforms : forms = Rfc3339.read :: Pattern.naive.map readNaive := rfl
  rw [hforms]
  refine List.pairwise_cons.mpr ⟨?_, List.pairwise_map.mpr ?_⟩
  · intro form hform cs t t' ht ht'
    obtain ⟨p, hp, rfl⟩ := List.mem_map.mp hform
    have hnone := readNaive_of_carriesOffset (Rfc3339.carriesOffset_of_read ht) hp
    rw [hnone] at ht'
    contradiction
  · exact Pattern.pairwise_naive.imp agree_of_extends

/-- Any two forms agree, whichever is tried first. -/
theorem agree_forms : ∀ form ∈ forms, ∀ form' ∈ forms, Agree form form' :=
  pairwise_agree.forall_of_forall fun form _ => Agree.refl form

theorem findSome?_forms {attempts : List (List Char → Option Timestamp)}
    (h : attempts.Perm forms) (cs : List Char) : attempts.findSome? (· cs) = read cs := by
  cases hread : read cs with
  | none =>
    have hnone := List.findSome?_eq_none_iff.mp hread
    exact List.findSome?_eq_none_iff.mpr fun form hform => hnone form (h.mem_iff.mp hform)
  | some t =>
    obtain ⟨form, hform, ht⟩ := List.exists_of_findSome?_eq_some hread
    cases hfound : attempts.findSome? (· cs) with
    | none =>
      have hnone := List.findSome?_eq_none_iff.mp hfound form (h.mem_iff.mpr hform)
      rw [hnone] at ht
      contradiction
    | some t' =>
      obtain ⟨form', hform', ht'⟩ := List.exists_of_findSome?_eq_some hfound
      exact congrArg some (agree_forms form' (h.mem_iff.mp hform') form hform cs t' t ht' ht)

/-- Forms that accept a text read the same timestamp, so that they may be tried in any order. A text
that carries an offset is never read as one of UTC, and those that are read with an offset carry
one. -/
theorem read_in_any_order :
    (∀ form ∈ forms, ∀ form' ∈ forms, ∀ cs t t',
      form cs = some t → form' cs = some t' → t = t') ∧
    (∀ attempts : List (List Char → Option Timestamp), attempts.Perm forms →
      ∀ cs, attempts.findSome? (· cs) = read cs) ∧
    (∀ cs, CarriesOffset cs → ∀ p ∈ Pattern.naive, readNaive p cs = none) ∧
    ∀ cs t, Rfc3339.read cs = some t → CarriesOffset cs :=
  ⟨agree_forms, fun _ h => findSome?_forms h, fun _ h _ => readNaive_of_carriesOffset h,
    fun _ _ => Rfc3339.carriesOffset_of_read⟩

/-- A leap second, which two patterns accept, with the forms tried in the opposite order; and a time
to the minute, which no pattern accepts with an offset. -/
theorem read_in_any_order_leap :
    forms.reverse.findSome? (· "2016-12-31T23:59:60".toList) =
        some ⟨1483228799, 1000000000, 0⟩ ∧
      ∀ p ∈ Pattern.naive, readNaive p ("2016-12-31T23:59".toList ++ "+01:00".toList) = none := by
  obtain ⟨-, hperm, hnone, -⟩ := read_in_any_order
  have hread : read "2016-12-31T23:59:60".toList = some ⟨1483228799, 1000000000, 0⟩ := by decide
  have hzone : Rfc3339.readOffset "+01:00".toList = some (60, []) := by decide
  exact ⟨(hperm forms.reverse (List.reverse_perm forms) _).trans hread,
    hnone _ (.ends "2016-12-31T23:59".toList hzone)⟩

end Timestamp

end HistorySearch
