-- SUMMARY: What is written of a timestamp is read as the same timestamp.
import Mathlib.Tactic.SplitIfs
import HistorySearch.Calendar.Decode
import HistorySearch.Proofs.Calendar.Days
import HistorySearch.Proofs.Text.Blank
import HistorySearch.Proofs.Text.Decimal

/-!
# Written timestamps

A timestamp can be written if its local year has four digits, its offset is less than a day and
only a 59th second is a leap second. What `Timestamp.encode` writes of it is read by
`Timestamp.decode` as the same instant, with the same nanoseconds and offset, and every timestamp
that is read can be written.
-/

namespace HistorySearch

/-- What a timestamp has to satisfy to be written and read again. -/
structure Timestamp.IsWritable (t : Timestamp) : Prop where
  year : t.hasPlainYear
  offset : t.offset.natAbs < 24 * 60
  nanos : t.nanos < 1000000000 ∨ t.clock.second = 59 ∧ t.nanos < 2000000000

/-! ## Clocks -/

namespace Date

theorem IsDay.month_lt {d : Date} (h : d.IsDay) : d.month < 100 := by
  have hmonth := h.2.1
  omega

theorem IsDay.day_lt {d : Date} (h : d.IsDay) : d.day < 100 := by
  have hday := h.2.2.2
  have hlength : monthLength (isLeap d.year) d.month ≤ 31 := by
    unfold monthLength
    grind
  omega

end Date

namespace ClockTime

theorem hour_ofEpoch (epoch : Int) (nanos : Nat) : (ofEpoch epoch nanos).hour ≤ 23 := by
  simp only [ofEpoch]
  omega

theorem minute_ofEpoch (epoch : Int) (nanos : Nat) : (ofEpoch epoch nanos).minute ≤ 59 := by
  simp only [ofEpoch]
  omega

theorem second_ofEpoch (epoch : Int) (nanos : Nat) :
    (ofEpoch epoch nanos).second = (epoch % 60).toNat := by
  simp only [ofEpoch]
  omega

/-- The numbers that stand in the text of a clock time. -/
def fields (c : ClockTime) : ClockFields :=
  ⟨c.date.year, c.date.month, c.date.day, c.hour, c.minute, c.shownSecond, c.shownNanos⟩

/-- A clock shows a day of the calendar and a time of it; only a 59th second is a leap second. -/
structure IsReal (c : ClockTime) : Prop where
  day : c.date.IsDay
  hour : c.hour ≤ 23
  minute : c.minute ≤ 59
  second : c.second ≤ 59
  nanos : c.nanos < 1000000000 ∨ c.second = 59 ∧ c.nanos < 2000000000

theorem isReal_ofEpoch {epoch : Int} {nanos : Nat}
    (h : nanos < 1000000000 ∨ (ofEpoch epoch nanos).second = 59 ∧ nanos < 2000000000) :
    (ofEpoch epoch nanos).IsReal where
  day := Date.isDay_ofDays _
  hour := hour_ofEpoch epoch nanos
  minute := minute_ofEpoch epoch nanos
  second := by
    rw [second_ofEpoch]
    omega
  nanos := h

theorem IsReal.shownSecond_le {c : ClockTime} (h : c.IsReal) : c.shownSecond ≤ 60 := by
  have hsecond := h.second
  have hnanos := h.nanos
  unfold shownSecond
  omega

/-- The numbers in the text of a clock time give the clock time. -/
theorem IsReal.fields {c : ClockTime} (h : c.IsReal) : c.fields.toClockTime? = some c := by
  have hsecond := h.second
  have hnanos := h.nanos
  refine (if_pos ⟨h.day, h.hour, h.minute, h.shownSecond_le⟩).trans ?_
  by_cases hleap : c.shownSecond = 60
  · refine (if_pos hleap).trans ?_
    have hlast : 59 = c.second ∧ 1000000000 + c.shownNanos = c.nanos := by
      unfold shownSecond shownNanos at *
      omega
    rw [show c.fields.fraction = c.shownNanos from rfl, hlast.2, hlast.1]
    rfl
  · refine (if_neg hleap).trans ?_
    have hplain : c.shownSecond = c.second ∧ c.shownNanos = c.nanos := by
      unfold shownSecond shownNanos at *
      omega
    rw [show c.fields.fraction = c.shownNanos from rfl,
      show c.fields.second = c.shownSecond from rfl, hplain.1, hplain.2]
    rfl

/-- Numbers in range give a clock time in range, in which only a 59th second is a leap second. -/
theorem nanos_of_toClockTime? {f : ClockFields} {c : ClockTime}
    (hfraction : f.fraction < 1000000000)
    (h : f.toClockTime? = some c) :
    c.second ≤ 59 ∧ (c.nanos < 1000000000 ∨ c.second = 59 ∧ c.nanos < 2000000000) := by
  simp only [ClockFields.toClockTime?] at h
  split_ifs at h with hrange hleap
  · obtain rfl := Option.some.inj h
    have hnanos : 1000000000 + f.fraction < 2000000000 := by omega
    exact ⟨Nat.le_refl _, .inr ⟨rfl, hnanos⟩⟩
  · obtain rfl := Option.some.inj h
    have hle : f.second ≤ 60 := hrange.2.2.2
    have hsecond : f.second ≤ 59 := by omega
    exact ⟨hsecond, .inl hfraction⟩

end ClockTime

/-! ## Parts of the text -/

namespace Rfc3339

theorem readExactly_two {n : Nat} (h : n < 100) (rest : List Char) :
    Decimal.readExactly 2 (Decimal.padded 2 n ++ rest) = some (n, rest) :=
  Decimal.readExactly_padded (by decide) h rest

theorem expect_cons (c : Char) (cs : List Char) : expect c (c :: cs) = some cs :=
  if_pos rfl

theorem readDate_text {year : Int} {month day : Nat} (hyear : 0 ≤ year ∧ year ≤ 9999)
    (hmonth : month < 100) (hday : day < 100) (rest : List Char) :
    readDate (ClockTime.yearText year ++ '-' :: (Decimal.padded 2 month ++
        '-' :: (Decimal.padded 2 day ++ rest))) =
      some ({ ClockFields.unset with year := year, month := month, day := day }, rest) := by
  have hyears := fun rest => Decimal.readExactly_padded (show 0 < 4 by decide)
    (show year.natAbs < 10 ^ 4 by omega) rest
  have hcast : (year.natAbs : Int) = year := by omega
  simp [readDate, ClockTime.yearText, if_pos hyear, hyears, expect_cons, readExactly_two hmonth,
    readExactly_two hday, hcast]

theorem readTime_text {hour minute second : Nat} (hhour : hour ≤ 23) (hminute : minute ≤ 59)
    (hsecond : second ≤ 60) (f : ClockFields) (rest : List Char) :
    readTime f (Decimal.padded 2 hour ++ ':' :: (Decimal.padded 2 minute ++
        ':' :: (Decimal.padded 2 second ++ rest))) =
      some ({ f with hour := hour, minute := minute, second := second }, rest) := by
  simp [readTime, expect_cons, readExactly_two (show hour < 100 by omega),
    readExactly_two (show minute < 100 by omega), readExactly_two (show second < 100 by omega)]

/-- An offset of hours and minutes behind its sign. -/
theorem readOffset_signed (sign : Char) {unit : Int}
    (hsign : ∀ cs, readSign (sign :: cs) = some (unit, cs)) (hzulu : sign ≠ 'Z' ∧ sign ≠ 'z')
    {hours minutes : Nat} (hhours : hours ≤ 23) (hminutes : minutes ≤ 59) :
    readOffset (sign :: Decimal.padded 2 hours ++ ':' :: Decimal.padded 2 minutes) =
      some (unit * (60 * hours + minutes : Nat), []) := by
  have hlast : Decimal.readExactly 2 (Decimal.padded 2 minutes) = some (minutes, []) := by
    simpa using readExactly_two (show minutes < 100 by omega) []
  have hbound : hours ≤ 23 ∧ minutes ≤ 59 := ⟨hhours, hminutes⟩
  simp only [List.cons_append, readOffset, hsign, Option.bind_eq_bind, Option.bind_some,
    readExactly_two (show hours < 100 by omega), expect_cons, hlast, if_pos hbound]
  split
  · rename_i heq
    exact absurd (List.cons.inj heq).1 hzulu.1
  · rename_i heq
    exact absurd (List.cons.inj heq).1 hzulu.2
  · rfl

theorem readOffset_plus {hours minutes : Nat} (hhours : hours ≤ 23) (hminutes : minutes ≤ 59) :
    readOffset ('+' :: Decimal.padded 2 hours ++ ':' :: Decimal.padded 2 minutes) =
      some (((60 * hours + minutes : Nat) : Int), []) := by
  have hread := readOffset_signed '+' (fun _ => rfl) (by decide) hhours hminutes
  rwa [Int.one_mul] at hread

theorem readOffset_minus {hours minutes : Nat} (hhours : hours ≤ 23) (hminutes : minutes ≤ 59) :
    readOffset ('-' :: Decimal.padded 2 hours ++ ':' :: Decimal.padded 2 minutes) =
      some (-((60 * hours + minutes : Nat) : Int), []) := by
  have hread := readOffset_signed '-' (fun _ => rfl) (by decide) hhours hminutes
  rwa [Int.neg_mul, Int.one_mul] at hread

theorem readOffset_text {offset : Int} (h : offset.natAbs < 24 * 60) :
    readOffset (Timestamp.offsetText offset) = some (offset, []) := by
  have hhours : offset.natAbs / 60 ≤ 23 := by omega
  have hminutes : offset.natAbs % 60 ≤ 59 := by omega
  have hvalue : 60 * (offset.natAbs / 60) + offset.natAbs % 60 = offset.natAbs := by omega
  unfold Timestamp.offsetText
  split_ifs with hzero hnegative
  · subst hzero
    rfl
  · have hback : -(offset.natAbs : Int) = offset := by omega
    rw [readOffset_minus hhours hminutes, hvalue, hback]
  · have hback : (offset.natAbs : Int) = offset := by omega
    rw [readOffset_plus hhours hminutes, hvalue, hback]

/-- The digits after a point are read as far as they go. -/
theorem readFraction_digits {ds rest : List Char} (hne : ds ≠ [])
    (hds : ∀ d ∈ ds, Decimal.isDigit d) (hrest : ∀ c ∈ rest.head?, !Decimal.isDigit c) :
    readFraction (ds ++ rest) = some (fractionNanos ds, rest) := by
  rw [readFraction, Decimal.takeWhile_digits hds hrest, Decimal.dropWhile_digits hds hrest]
  cases ds with
  | nil => exact absurd rfl hne
  | cons d ds => rfl

theorem fractionNanos_padded {width n : Nat} (hpos : 0 < width) (hle : width ≤ 9)
    (h : n < 10 ^ width) : fractionNanos (Decimal.padded width n) = n * 10 ^ (9 - width) := by
  have hlength := Decimal.length_padded hpos h
  rw [fractionNanos, List.take_of_length_le (by omega), hlength, Decimal.value_padded]
  rfl

theorem readFraction_padded {width n : Nat} (hpos : 0 < width) (hle : width ≤ 9)
    (h : n < 10 ^ width) {rest : List Char} (hrest : ∀ c ∈ rest.head?, !Decimal.isDigit c) :
    readFraction (Decimal.padded width n ++ rest) = some (n * 10 ^ (9 - width), rest) := by
  rw [readFraction_digits (Decimal.padded_ne_nil width n)
    (fun _ hc => Decimal.isDigit_of_mem_padded hc) hrest, fractionNanos_padded hpos hle h]

/-- The fraction of a second is read back, in whichever of its lengths it is written. -/
theorem readFraction_text {nanos : Nat} (h : nanos < 1000000000) (f : ClockFields)
    (hunset : f.fraction = 0) {rest : List Char}
    (hrest : ∀ c ∈ rest.head?, c ≠ '.' ∧ !Decimal.isDigit c) :
    PatternItem.fraction.read f (ClockTime.fractionText nanos ++ rest) =
      some ({ f with fraction := nanos }, rest) := by
  have hdigit : ∀ c ∈ rest.head?, !Decimal.isDigit c := fun c hc => (hrest c hc).2
  unfold ClockTime.fractionText
  split_ifs with hzero hmillis hmicros
  · have hnone : PatternItem.fraction.read f rest = some (f, rest) := by
      cases rest with
      | nil => rfl
      | cons c cs =>
        have hpoint : c ≠ '.' := (hrest c rfl).1
        simp [PatternItem.read, hpoint]
    rw [List.nil_append, hnone, hzero, ← hunset]
  · have hread := readFraction_padded (show 0 < 3 by decide) (by decide)
      (show nanos / 1000000 < 10 ^ 3 by omega) hdigit
    have hvalue : nanos / 1000000 * 10 ^ (9 - 3) = nanos := by omega
    rw [List.cons_append, PatternItem.read, hread, hvalue]
    rfl
  · have hread := readFraction_padded (show 0 < 6 by decide) (by decide)
      (show nanos / 1000 < 10 ^ 6 by omega) hdigit
    have hvalue : nanos / 1000 * 10 ^ (9 - 6) = nanos := by omega
    rw [List.cons_append, PatternItem.read, hread, hvalue]
    rfl
  · have hread := readFraction_padded (show 0 < 9 by decide) (by decide)
      (show nanos < 10 ^ 9 by omega) hdigit
    have hvalue : nanos * 10 ^ (9 - 9) = nanos := by omega
    rw [List.cons_append, PatternItem.read, hread, hvalue]
    rfl

theorem head_offsetText (offset : Int) :
    ∀ c ∈ (Timestamp.offsetText offset).head?, c ≠ '.' ∧ !Decimal.isDigit c := by
  unfold Timestamp.offsetText
  split_ifs <;> simp [Decimal.isDigit]

end Rfc3339

/-! ## Whole texts -/

namespace Timestamp

/-- A clock shows the instant that it was made for. -/
theorem withOffset_clock (t : Timestamp) : t.clock.withOffset t.offset = t := by
  obtain ⟨epoch, nanos, offset⟩ := t
  simp only [clock, ClockTime.withOffset, ClockTime.toEpoch_ofEpoch]
  simp [ClockTime.ofEpoch]

theorem rfc3339_encodeChars {t : Timestamp} (h : t.IsWritable) :
    Rfc3339.read t.encodeChars = some t := by
  have hyear : 0 ≤ t.clock.date.year ∧ t.clock.date.year ≤ 9999 := by
    have := h.year
    simpa [hasPlainYear] using this
  have hreal : t.clock.IsReal := ClockTime.isReal_ofEpoch h.nanos
  have hfraction : t.clock.shownNanos < 1000000000 := Nat.mod_lt _ (by decide)
  have htext : t.encodeChars =
      ClockTime.yearText t.clock.date.year ++ '-' :: (Decimal.padded 2 t.clock.date.month ++
        '-' :: (Decimal.padded 2 t.clock.date.day ++ 'T' :: (Decimal.padded 2 t.clock.hour ++
          ':' :: (Decimal.padded 2 t.clock.minute ++ ':' :: (Decimal.padded 2 t.clock.shownSecond ++
            (ClockTime.fractionText t.clock.shownNanos ++ offsetText t.offset)))))) := by
    simp [encodeChars, ClockTime.secondText, ClockTime.minuteText]
  -- Each part is read with the rest of the text behind it, hence the nesting to the right.
  rw [htext]
  simp only [Rfc3339.read, Option.bind_eq_bind, Rfc3339.readDate_text hyear hreal.day.month_lt hreal.day.day_lt,
    Option.bind_some, Rfc3339.readDelimiter, if_pos, true_or,
    Rfc3339.readTime_text hreal.hour hreal.minute hreal.shownSecond_le]
  rw [Rfc3339.readFraction_text hfraction _ rfl (Rfc3339.head_offsetText t.offset)]
  simp only [Option.bind_some, Rfc3339.readOffset_text h.offset, List.isEmpty_nil, if_pos]
  have hfields := hreal.fields
  simp only [ClockTime.fields] at hfields
  simp only [hfields, Option.bind_some, withOffset_clock]

/-! ## Date parameters -/

/-- The characters that stand in the texts of timestamps. -/
def isTextChar (c : Char) : Bool :=
  Decimal.isDigit c || "-+:.TZ".toList.contains c

theorem isTextChar_of_mem_padded {width n : Nat} {c : Char} (h : c ∈ Decimal.padded width n) :
    isTextChar c := by
  simp [isTextChar, Decimal.isDigit_of_mem_padded h]

theorem isTextChar_of_mem_secondText {c : ClockTime} {d : Char} (h : d ∈ c.secondText) :
    isTextChar d := by
  simp only [ClockTime.secondText, ClockTime.minuteText, ClockTime.yearText, List.mem_append,
    List.mem_cons] at h
  grind [isTextChar_of_mem_padded, isTextChar]

theorem isTextChar_of_mem_encodeChars {t : Timestamp} {c : Char} (h : c ∈ t.encodeChars) :
    isTextChar c := by
  simp only [encodeChars, ClockTime.fractionText, offsetText, List.mem_append] at h
  grind [isTextChar_of_mem_padded, isTextChar_of_mem_secondText, isTextChar]

theorem bounds_of_isTextChar {c : Char} (h : isTextChar c) : 0x20 < c.toNat ∧ c.toNat < 0x7F := by
  simp only [isTextChar, Decimal.isDigit, Bool.or_eq_true, Bool.and_eq_true, decide_eq_true_eq,
    Char.le_def, UInt32.le_iff_toNat_le] at h
  rcases h with ⟨hlow, hhigh⟩ | h
  · exact ⟨Nat.lt_of_lt_of_le (by decide) hlow, Nat.lt_of_le_of_lt hhigh (by decide)⟩
  · simp only [String.reduceToList, List.contains_eq_mem, decide_eq_true_eq, List.mem_cons,
      List.not_mem_nil, or_false] at h
    rcases h with rfl | rfl | rfl | rfl | rfl | rfl <;> decide

/-- Reading takes what is written as it is, since nothing of it is blank. -/
theorem trim_encodeChars (t : Timestamp) : Blank.trim t.encodeChars = t.encodeChars := by
  refine Blank.trim_eq_self fun c hc => ?_
  obtain ⟨hlow, hhigh⟩ := bounds_of_isTextChar (isTextChar_of_mem_encodeChars hc)
  exact Blank.isBlank_of_visible hlow hhigh

theorem encodeChars_ne_nil (t : Timestamp) : t.encodeChars ≠ [] := by
  simp [encodeChars, ClockTime.secondText]

/-- What is written of a timestamp is read as the same timestamp. -/
theorem decode_encode {t : Timestamp} (h : t.IsWritable) : decode t.encode = .ok (some t) := by
  have hread : read t.encodeChars = some t := by
    rw [read, forms, List.findSome?_cons, rfc3339_encodeChars h]
  have hne := t.encodeChars_ne_nil
  rw [decode, encode, String.toList_ofList, trim_encodeChars]
  split
  · contradiction
  · rw [hread, Option.filter_some, if_pos h.year]

theorem decodeLenient_encode {t : Timestamp} (h : t.IsWritable) :
    decodeLenient (some t.encode) = some t := by
  rw [decodeLenient, decode?, decode_encode h]

/-! ## What is read -/

theorem fractionNanos_lt {ds : List Char} (h : ∀ d ∈ ds, Decimal.isDigit d) :
    fractionNanos ds < 1000000000 := by
  have hdigits : ∀ d ∈ ds.take 9, Decimal.isDigit d := fun d hd => h d (List.mem_of_mem_take hd)
  have hvalue := Decimal.value_lt hdigits
  rw [List.length_take] at hvalue
  have hpower : 10 ^ min 9 ds.length * 10 ^ (9 - ds.length) = 10 ^ 9 := by
    rw [← Nat.pow_add]
    congr 1
    omega
  calc fractionNanos ds < 10 ^ min 9 ds.length * 10 ^ (9 - ds.length) :=
        Nat.mul_lt_mul_of_pos_right hvalue (Nat.pow_pos (by decide))
    _ = 1000000000 := hpower

theorem readFraction_lt {cs rest : List Char} {nanos : Nat}
    (h : readFraction cs = some (nanos, rest)) : nanos < 1000000000 := by
  rw [readFraction] at h
  split at h
  · contradiction
  · rename_i d ds hdigits
    obtain ⟨rfl, -⟩ := Prod.mk.inj (Option.some.inj h)
    refine fractionNanos_lt fun e he => ?_
    rw [← hdigits] at he
    exact List.all_eq_true.mp List.all_takeWhile e he

/-- No part of a pattern reads a fraction of a billion nanoseconds or more. -/
theorem fraction_lt_of_item {item : PatternItem} {f : ClockFields} {cs : List Char}
    {r : ClockFields × List Char} (hfraction : f.fraction < 1000000000)
    (h : item.read f cs = some r) : r.1.fraction < 1000000000 := by
  revert h
  -- Only the seventh case reads a fraction; the others keep that of the fields before.
  fun_cases PatternItem.read item f cs with
  | case7 cs =>
    intro h
    obtain ⟨⟨nanos, rest⟩, hread, rfl⟩ := Option.map_eq_some_iff.mp h
    exact readFraction_lt hread
  | case8 | case9 =>
    intro h
    obtain rfl := Option.some.inj h
    exact hfraction
  | case10 | case11 =>
    intro h
    contradiction
  | _ =>
    intro h
    obtain ⟨_, _, rfl⟩ := Option.map_eq_some_iff.mp h
    exact hfraction

theorem fraction_lt_of_readAll {items : List PatternItem} {f g : ClockFields} {cs : List Char}
    (hfraction : f.fraction < 1000000000) (h : PatternItem.readAll items f cs = some g) :
    g.fraction < 1000000000 := by
  induction items generalizing f cs with
  | nil =>
    cases cs with
    | nil =>
      obtain rfl := Option.some.inj h
      exact hfraction
    | cons c cs => contradiction
  | cons item items ih =>
    obtain ⟨r, hitem, hrest⟩ := Option.bind_eq_some_iff.mp h
    exact ih (fraction_lt_of_item hfraction hitem) hrest

/-- Whether a timestamp was made from a clock and an offset in range; its year may be any. -/
def IsInRange (t : Timestamp) : Prop :=
  t.offset.natAbs < 24 * 60 ∧
    (t.nanos < 1000000000 ∨ t.clock.second = 59 ∧ t.nanos < 2000000000)

theorem IsWritable.isInRange {t : Timestamp} (h : t.IsWritable) : t.IsInRange :=
  ⟨h.offset, h.nanos⟩

theorem isInRange_withOffset {c : ClockTime} {offset : Int} (hoffset : offset.natAbs < 24 * 60)
    (hsecond : c.second ≤ 59)
    (hnanos : c.nanos < 1000000000 ∨ c.second = 59 ∧ c.nanos < 2000000000) :
    (c.withOffset offset).IsInRange := by
  have hclock : (c.withOffset offset).clock.second = c.second := by
    rw [clock, ClockTime.second_ofEpoch]
    simp only [ClockTime.withOffset, ClockTime.toEpoch]
    omega
  exact ⟨hoffset, by rwa [hclock]⟩

theorem isInRange_of_readNaive {p : Pattern} {cs : List Char} {t : Timestamp}
    (h : readNaive p cs = some t) : t.IsInRange := by
  obtain ⟨c, hclock, rfl⟩ := Option.map_eq_some_iff.mp h
  obtain ⟨f, hfields, hclock⟩ := Option.bind_eq_some_iff.mp hclock
  have hfraction := fraction_lt_of_readAll (by decide) hfields
  obtain ⟨hsecond, hnanos⟩ := ClockTime.nanos_of_toClockTime? hfraction hclock
  exact isInRange_withOffset (by decide) hsecond hnanos

theorem offset_lt_of_readOffset {cs rest : List Char} {offset : Int}
    (h : Rfc3339.readOffset cs = some (offset, rest)) : offset.natAbs < 24 * 60 := by
  unfold Rfc3339.readOffset at h
  split at h
  · obtain ⟨rfl, -⟩ := Prod.mk.inj (Option.some.inj h)
    decide
  · obtain ⟨rfl, -⟩ := Prod.mk.inj (Option.some.inj h)
    decide
  · simp only [Option.bind_eq_bind, Option.bind_eq_some_iff] at h
    obtain ⟨⟨sign, _⟩, hsign, ⟨hours, _⟩, _, _, _, ⟨minutes, _⟩, _, h⟩ := h
    split_ifs at h with hrange
    obtain ⟨rfl, -⟩ := Prod.mk.inj (Option.some.inj h)
    have hunit : sign = 1 ∨ sign = -1 := by
      unfold Rfc3339.readSign at hsign
      grind
    rcases hunit with rfl | rfl
    · dsimp only at *
      omega
    · dsimp only at *
      omega

theorem fraction_of_readDate {cs rest : List Char} {f : ClockFields}
    (h : Rfc3339.readDate cs = some (f, rest)) : f.fraction = 0 := by
  simp only [Rfc3339.readDate, Option.bind_eq_bind, Option.bind_eq_some_iff] at h
  obtain ⟨_, _, _, _, _, _, _, _, _, _, h⟩ := h
  obtain ⟨rfl, -⟩ := Prod.mk.inj (Option.some.inj h)
  rfl

theorem fraction_of_readTime {cs rest : List Char} {f g : ClockFields}
    (h : Rfc3339.readTime f cs = some (g, rest)) : g.fraction = f.fraction := by
  simp only [Rfc3339.readTime, Option.bind_eq_bind, Option.bind_eq_some_iff] at h
  obtain ⟨_, _, _, _, _, _, _, _, _, _, h⟩ := h
  obtain ⟨rfl, -⟩ := Prod.mk.inj (Option.some.inj h)
  rfl

theorem isInRange_of_rfc3339 {cs : List Char} {t : Timestamp} (h : Rfc3339.read cs = some t) :
    t.IsInRange := by
  simp only [Rfc3339.read, Option.bind_eq_bind, Option.bind_eq_some_iff] at h
  obtain ⟨⟨_, _⟩, hdate, _, _, ⟨_, _⟩, htime, ⟨f, _⟩, hfraction, ⟨offset, _⟩, hoffset, h⟩ := h
  split_ifs at h
  obtain ⟨c, hclock, h⟩ := Option.bind_eq_some_iff.mp h
  obtain rfl := Option.some.inj h
  have hunset : f.fraction < 1000000000 := by
    refine fraction_lt_of_item ?_ hfraction
    rw [fraction_of_readTime htime, fraction_of_readDate hdate]
    decide
  obtain ⟨hsecond, hnanos⟩ := ClockTime.nanos_of_toClockTime? hunset hclock
  exact isInRange_withOffset (offset_lt_of_readOffset hoffset) hsecond hnanos

theorem isInRange_of_read {cs : List Char} {t : Timestamp} (h : read cs = some t) :
    t.IsInRange := by
  obtain ⟨form, hform, h⟩ := List.exists_of_findSome?_eq_some h
  simp only [forms, List.mem_cons, List.not_mem_nil, or_false] at hform
  rcases hform with rfl | rfl | rfl | rfl | rfl
  · exact isInRange_of_rfc3339 h
  · exact isInRange_of_readNaive h
  · exact isInRange_of_readNaive h
  · exact isInRange_of_readNaive h
  · exact isInRange_of_readNaive h

/-- Every timestamp that is read can be written. -/
theorem isWritable_of_decode {s : String} {t : Timestamp} (h : decode s = .ok (some t)) :
    t.IsWritable := by
  rw [decode] at h
  split at h
  · cases h
  · split at h
    · rename_i hread
      cases h
      obtain ⟨hread, hyear⟩ := Option.filter_eq_some_iff.mp hread
      obtain ⟨hoffset, hnanos⟩ := isInRange_of_read hread
      exact ⟨hyear, hoffset, hnanos⟩
    · cases h

/-- A date that is read leniently is read. -/
theorem decode_of_decodeLenient {s : String} {t : Timestamp} (h : decodeLenient (some s) = some t) :
    decode s = .ok (some t) := by
  rw [decodeLenient, decode?] at h
  split at h
  · rename_i hdecode
    rwa [h] at hdecode
  · cases h

theorem isWritable_of_decodeLenient {s : Option String} {t : Timestamp}
    (h : decodeLenient s = some t) : t.IsWritable := by
  cases s with
  | none => cases h
  | some s => exact isWritable_of_decode (decode_of_decodeLenient h)

/-! ## What is read, written again -/

/-- However a date was spelled, what is written of it is read as the same instant, with the same
nanoseconds and offset, and two dates are written alike only if they are the same. -/
theorem decode_encode_of_decode {s : String} {t : Timestamp}
    (h : decode? (some s) = .ok (some t)) :
    decode? (some t.encode) = .ok (some t) ∧
      ∀ s' t', decode? (some s') = .ok (some t') → t'.encode = t.encode → t' = t := by
  have hread : decode t.encode = .ok (some t) := decode_encode (isWritable_of_decode h)
  refine ⟨hread, fun s' t' h' hsame => ?_⟩
  have hread' := decode_encode (isWritable_of_decode h')
  rw [hsame, hread] at hread'
  exact (Option.some.inj (Except.ok.inj hread')).symm

/-- A leap second with a fraction of more than nine digits, in small letters and with the other
minus sign. -/
theorem decode_encode_of_decode_leap :
    decode? (some "2016-12-31t23:59:60.25050000099\u221201:00") =
        .ok (some ⟨1483232399, 1250500000, -60⟩) ∧
      decode? (some (encode ⟨1483232399, 1250500000, -60⟩)) =
        .ok (some ⟨1483232399, 1250500000, -60⟩) := by
  have hread : decode? (some "2016-12-31t23:59:60.25050000099\u221201:00") =
      .ok (some ⟨1483232399, 1250500000, -60⟩) := by
    decide +kernel
  exact ⟨hread, (decode_encode_of_decode hread).1⟩

end Timestamp

end HistorySearch
