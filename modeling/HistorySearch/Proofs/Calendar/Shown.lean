-- SUMMARY: What an input shows of a timestamp is read as the same second.
import HistorySearch.Proofs.Calendar.Written

/-!
# Shown timestamps

An input shows a timestamp in UTC and cuts it off at milliseconds. What it shows is read as that
much of the timestamp: the same second, and the same leap second. Only a year that four digits
cannot show in UTC is refused when it is read.
-/

namespace HistorySearch

/-! ## Parts of the text -/

namespace PatternItem

theorem isBlank_of_isDigit {c : Char} (h : Decimal.isDigit c) : Blank.isBlank c = false := by
  have htext : Timestamp.isTextChar c := by simp [Timestamp.isTextChar, h]
  obtain ⟨hlow, hhigh⟩ := Timestamp.bounds_of_isTextChar htext
  exact Blank.isBlank_of_visible hlow hhigh

theorem head?_padded (width n : Nat) (rest : List Char) :
    ∃ d ds, Decimal.padded width n ++ rest = d :: ds ∧ Decimal.isDigit d := by
  cases hpadded : Decimal.padded width n with
  | nil => exact absurd hpadded (Decimal.padded_ne_nil width n)
  | cons d ds =>
    have hmem : d ∈ Decimal.padded width n := by
      rw [hpadded]
      exact List.mem_cons_self
    exact ⟨d, ds ++ rest, rfl, Decimal.isDigit_of_mem_padded hmem⟩

theorem trimStart_padded (width n : Nat) (rest : List Char) :
    Blank.trimStart (Decimal.padded width n ++ rest) = Decimal.padded width n ++ rest := by
  obtain ⟨d, ds, hcons, hd⟩ := head?_padded width n rest
  refine Blank.trimStart_eq_self fun c hc => ?_
  rw [hcons] at hc
  obtain rfl : d = c := by simpa using hc
  exact isBlank_of_isDigit hd

theorem readShort_padded {n : Nat} (h : n < 100) (rest : List Char) :
    readShort (Decimal.padded 2 n ++ rest) = some (n, rest) := by
  rw [readShort, trimStart_padded]
  exact Decimal.readUpTo_padded (by decide) h rest

/-- A year is read with or without a sign, as it is written. -/
theorem readYear_text (year : Int) {rest : List Char}
    (h : ∀ c ∈ rest.head?, !Decimal.isDigit c) :
    readYear (ClockTime.yearText year ++ rest) = some (year, rest) := by
  have hall := Decimal.readAll_padded 4 year.natAbs h
  unfold ClockTime.yearText
  split_ifs with hplain hnegative
  · have hread := Decimal.readUpTo_padded (show 0 < 4 by decide)
      (show year.natAbs < 10 ^ 4 by omega) rest
    have hyear : (year.natAbs : Int) = year := by omega
    rw [readYear, trimStart_padded]
    obtain ⟨d, ds, hcons, hd⟩ := head?_padded 4 year.natAbs rest
    rw [hcons] at hread ⊢
    split
    · rename_i hminus
      obtain ⟨rfl, -⟩ := List.cons.inj hminus
      exact absurd hd (by decide)
    · rename_i hplus
      obtain ⟨rfl, -⟩ := List.cons.inj hplus
      exact absurd hd (by decide)
    · rw [hread, Option.map_some, hyear]
  · have hyear : -(year.natAbs : Int) = year := by omega
    rw [List.cons_append, readYear, Blank.trimStart_eq_self (by simp [Blank.isBlank_of_visible])]
    simp only [hall, Option.map_some, hyear]
  · have hyear : (year.natAbs : Int) = year := by omega
    rw [List.cons_append, readYear, Blank.trimStart_eq_self (by simp [Blank.isBlank_of_visible])]
    simp only [hall, Option.map_some, hyear]

/-- A day is read, whatever comes after it. -/
theorem readAll_day (year : Int) {month day : Nat} (hmonth : month < 100) (hday : day < 100)
    (items : List PatternItem) (rest : List Char) :
    readAll (Pattern.date ++ items) ClockFields.unset
        (ClockTime.yearText year ++ '-' :: (Decimal.padded 2 month ++
          '-' :: (Decimal.padded 2 day ++ rest))) =
      readAll items { ClockFields.unset with year := year, month := month, day := day } rest := by
  have hyear : ∀ rest, readYear (ClockTime.yearText year ++ '-' :: rest) =
      some (year, '-' :: rest) :=
    fun rest => readYear_text year (by simp [Decimal.isDigit])
  simp [Pattern.date, readAll, read, hyear, readShort_padded hmonth, readShort_padded hday]

/-- So are the hour and the minute after a day. -/
theorem readAll_hourMinute {h m : Nat} (hhour : h < 100) (hminute : m < 100) (f : ClockFields)
    (items : List PatternItem) (rest : List Char) :
    readAll (separator 'T' :: hour :: separator ':' :: minute :: items) f
        ('T' :: (Decimal.padded 2 h ++ ':' :: (Decimal.padded 2 m ++ rest))) =
      readAll items { f with hour := h, minute := m } rest := by
  simp [readAll, read, readShort_padded hhour, readShort_padded hminute]

/-- And the second after them. -/
theorem readAll_seconds {s : Nat} (hsecond : s < 100) (f : ClockFields)
    (items : List PatternItem) (rest : List Char) :
    readAll (separator ':' :: second :: items) f (':' :: (Decimal.padded 2 s ++ rest)) =
      readAll items { f with second := s } rest := by
  simp [readAll, read, readShort_padded hsecond]

/-- The day and the time to the minute are read, whatever comes after them. -/
theorem readAll_minuteText {c : ClockTime} (h : c.IsReal) (items : List PatternItem)
    (rest : List Char) :
    readAll (Pattern.toMinute ++ items) ClockFields.unset (c.minuteText ++ rest) =
      readAll items
        { ClockFields.unset with
          year := c.date.year, month := c.date.month, day := c.date.day
          hour := c.hour, minute := c.minute } rest := by
  have hhour : c.hour < 100 := Nat.lt_of_le_of_lt h.hour (by decide)
  have hminute : c.minute < 100 := Nat.lt_of_le_of_lt h.minute (by decide)
  have hday := readAll_day c.date.year h.day.month_lt h.day.day_lt
    (separator 'T' :: hour :: separator ':' :: minute :: items)
    ('T' :: (Decimal.padded 2 c.hour ++ ':' :: (Decimal.padded 2 c.minute ++ rest)))
  rw [readAll_hourMinute hhour hminute] at hday
  simpa [Pattern.toMinute, ClockTime.minuteText] using hday

theorem readAll_secondText {c : ClockTime} (h : c.IsReal) (items : List PatternItem)
    (rest : List Char) :
    readAll (Pattern.toSecond ++ items) ClockFields.unset (c.secondText ++ rest) =
      readAll items
        { ClockFields.unset with
          year := c.date.year, month := c.date.month, day := c.date.day
          hour := c.hour, minute := c.minute, second := c.shownSecond } rest := by
  have hsecond : c.shownSecond < 100 := Nat.lt_of_le_of_lt h.shownSecond_le (by decide)
  rw [Pattern.toSecond, ClockTime.secondText, List.append_assoc, List.append_assoc,
    readAll_minuteText h]
  exact readAll_seconds hsecond _ items rest

end PatternItem

/-! ## Texts without an offset -/

namespace Rfc3339

theorem readExactly_four_sign {c : Char} (h : Decimal.isDigit c = false) (cs : List Char) :
    Decimal.readExactly 4 (c :: cs) = none := by
  simp [Decimal.readExactly, h]

theorem readTime_minute {hour minute : Nat} (hhour : hour < 100) (hminute : minute < 100)
    (f : ClockFields) :
    readTime f (Decimal.padded 2 hour ++ ':' :: Decimal.padded 2 minute) = none := by
  have hlast := readExactly_two hminute []
  rw [List.append_nil] at hlast
  simp only [readTime, Option.bind_eq_bind, readExactly_two hhour, Option.bind_some, expect_cons,
    hlast]
  rfl

/-- After the seconds there are no characters or those of a fraction. -/
def IsFractionTail (cs : List Char) : Prop :=
  cs = [] ∨ ∃ millis, millis < 1000 ∧ cs = '.' :: Decimal.padded 3 millis

theorem readFraction_tail {f : ClockFields} {cs : List Char} (h : IsFractionTail cs) :
    ∃ g, PatternItem.fraction.read f cs = some (g, []) := by
  rcases h with rfl | ⟨millis, hmillis, rfl⟩
  · exact ⟨f, rfl⟩
  · have hread := readFraction_padded (show 0 < 3 by decide) (by decide)
      (show millis < 10 ^ 3 by omega)
      (show ∀ c ∈ ([] : List Char).head?, !Decimal.isDigit c by simp)
    rw [List.append_nil] at hread
    rw [PatternItem.read, hread]
    exact ⟨_, rfl⟩

/-- A text without an offset is not read as one with an offset. -/
theorem read_minuteText {c : ClockTime} (h : c.IsReal) {rest : List Char}
    (hrest : rest = [] ∨
      ∃ tail, IsFractionTail tail ∧ rest = ':' :: (Decimal.padded 2 c.shownSecond ++ tail)) :
    read (c.minuteText ++ rest) = none := by
  have htext : c.minuteText ++ rest =
      ClockTime.yearText c.date.year ++ '-' :: (Decimal.padded 2 c.date.month ++
        '-' :: (Decimal.padded 2 c.date.day ++ 'T' :: (Decimal.padded 2 c.hour ++
          ':' :: (Decimal.padded 2 c.minute ++ rest)))) := by
    simp [ClockTime.minuteText]
  rw [htext]
  by_cases hyear : 0 ≤ c.date.year ∧ c.date.year ≤ 9999
  · have hhour : c.hour < 100 := Nat.lt_of_le_of_lt h.hour (by decide)
    have hminute : c.minute < 100 := Nat.lt_of_le_of_lt h.minute (by decide)
    rcases hrest with rfl | ⟨tail, htail, rfl⟩
    · simp only [read, Option.bind_eq_bind, readDate_text hyear h.day.month_lt h.day.day_lt, Option.bind_some,
        readDelimiter, if_pos, true_or, List.append_nil, readTime_minute hhour hminute]
      rfl
    · simp only [read, Option.bind_eq_bind, readDate_text hyear h.day.month_lt h.day.day_lt, Option.bind_some,
        readDelimiter, if_pos, true_or, readTime_text h.hour h.minute h.shownSecond_le]
      obtain ⟨g, hg⟩ := readFraction_tail htail
      rw [hg]
      rfl
  · have hdigit : Decimal.isDigit (if c.date.year < 0 then '-' else '+') = false := by
      split_ifs <;> decide
    simp only [read, readDate, ClockTime.yearText, if_neg hyear, List.cons_append,
      readExactly_four_sign hdigit]
    rfl

end Rfc3339

/-! ## Shown timestamps -/

namespace Timestamp

/-- What an input shows of a timestamp: the instant in UTC, no finer than milliseconds. -/
def asShown (t : Timestamp) : Timestamp :=
  ⟨t.epoch, t.nanos / 1000000 * 1000000, 0⟩

/-- Whether the year in UTC has four digits. -/
def hasPlainUtcYear (t : Timestamp) : Bool :=
  0 ≤ t.utc.date.year && t.utc.date.year ≤ 9999

theorem hasPlainYear_asShown (t : Timestamp) : t.asShown.hasPlainYear = t.hasPlainUtcYear := by
  have hdate : t.asShown.clock.date = t.utc.date := by
    simp only [clock, asShown, utc, ClockTime.ofEpoch, Int.mul_zero, Int.add_zero]
  rw [hasPlainYear, hasPlainUtcYear, hdate]

theorem withOffset_utc (t : Timestamp) : t.utc.withOffset 0 = ⟨t.epoch, t.nanos, 0⟩ := by
  simp only [utc, ClockTime.withOffset, ClockTime.toEpoch_ofEpoch]
  simp [ClockTime.ofEpoch]

/-- A whole number of minutes is between the clock of a timestamp and that of UTC. -/
theorem IsInRange.isReal_utc {t : Timestamp} (h : t.IsInRange) : t.utc.IsReal := by
  refine ClockTime.isReal_ofEpoch ?_
  have hnanos := h.2
  rw [clock, ClockTime.second_ofEpoch] at hnanos
  rw [ClockTime.second_ofEpoch]
  omega

/-- What is shown of a timestamp in range is in range. -/
theorem IsInRange.isReal_asShown {t : Timestamp} (h : t.IsInRange) : t.asShown.utc.IsReal := by
  refine ClockTime.isReal_ofEpoch ?_
  have hnanos := h.2
  rw [clock, ClockTime.second_ofEpoch] at hnanos
  simp only [asShown, ClockTime.second_ofEpoch]
  omega

/-- The numbers of what is shown are those of the clock of UTC, with a fraction cut off. -/
theorem fields_asShown (t : Timestamp) :
    t.asShown.utc.fields =
      { t.utc.fields with fraction := t.utc.shownNanos / 1000000 * 1000000 } := by
  have hsecond : t.asShown.utc.shownSecond = t.utc.shownSecond := by
    simp only [asShown, utc, ClockTime.ofEpoch, ClockTime.shownSecond]
    omega
  have hfraction : t.asShown.utc.shownNanos = t.utc.shownNanos / 1000000 * 1000000 := by
    simp only [asShown, utc, ClockTime.ofEpoch, ClockTime.shownNanos]
    omega
  rw [ClockTime.fields, hsecond, hfraction]
  rfl

/-- A pattern that reads the numbers of what is shown reads what is shown. -/
theorem readNaive_of_fields {t : Timestamp} (h : t.IsInRange) {p : Pattern} {cs : List Char}
    (hread : PatternItem.readAll p ClockFields.unset cs =
      some { t.utc.fields with fraction := t.utc.shownNanos / 1000000 * 1000000 }) :
    readNaive p cs = some t.asShown := by
  rw [readNaive, Pattern.read, hread, Option.bind_some, ← fields_asShown,
    h.isReal_asShown.fields, Option.map_some, withOffset_utc]
  rfl

/-- The form for a timestamp with a fraction of a second. -/
theorem readNaive_fraction {t : Timestamp} (h : t.IsInRange) :
    readNaive Pattern.toFraction
        (t.utc.secondText ++ '.' :: Decimal.padded 3 (t.utc.shownNanos / 1000000)) =
      some t.asShown := by
  have hnanos : t.utc.shownNanos < 1000000000 := Nat.mod_lt _ (by decide)
  have hfraction := Rfc3339.readFraction_padded (show 0 < 3 by decide) (by decide)
    (show t.utc.shownNanos / 1000000 < 10 ^ 3 by omega)
    (show ∀ c ∈ ([] : List Char).head?, !Decimal.isDigit c by simp)
  rw [List.append_nil] at hfraction
  refine readNaive_of_fields h ?_
  rw [Pattern.toFraction, PatternItem.readAll_secondText h.isReal_utc, PatternItem.readAll,
    PatternItem.read, hfraction]
  rfl

/-- The form for a timestamp without a fraction. -/
theorem readNaive_second {t : Timestamp} (h : t.IsInRange) (hnanos : t.nanos = 0) :
    readNaive Pattern.toFraction t.utc.secondText = some t.asShown := by
  have hfraction : t.utc.shownNanos / 1000000 * 1000000 = 0 := by
    have hclock : t.utc.nanos = 0 := hnanos
    rw [ClockTime.shownNanos, hclock]
  have hread := PatternItem.readAll_secondText h.isReal_utc [.fraction] []
  rw [List.append_nil] at hread
  refine readNaive_of_fields h ?_
  rw [Pattern.toFraction, hread, hfraction]
  rfl

/-- The form for a timestamp on a full minute, which only the pattern without seconds fits. -/
theorem readNaive_minute {t : Timestamp} (h : t.IsInRange) (hnanos : t.nanos = 0)
    (hsecond : t.utc.second = 0) :
    readNaive Pattern.toFraction t.utc.minuteText = none ∧
      readNaive Pattern.toSecond t.utc.minuteText = none ∧
        readNaive Pattern.toMinute t.utc.minuteText = some t.asShown := by
  have hread := fun items => PatternItem.readAll_minuteText h.isReal_utc items []
  simp only [List.append_nil] at hread
  refine ⟨?_, ?_, ?_⟩
  · rw [readNaive, Pattern.read, Pattern.toFraction, Pattern.toSecond, List.append_assoc, hread]
    rfl
  · rw [readNaive, Pattern.read, Pattern.toSecond, hread]
    rfl
  · have hshown : t.utc.shownSecond = 0 ∧ t.utc.shownNanos / 1000000 * 1000000 = 0 := by
      have hclock : t.utc.nanos = 0 := hnanos
      rw [ClockTime.shownSecond, ClockTime.shownNanos, hclock, hsecond]
      exact ⟨rfl, rfl⟩
    have hlast := hread []
    rw [List.append_nil] at hlast
    refine readNaive_of_fields h ?_
    rw [hlast, ClockTime.fields, hshown.1, hshown.2]
    rfl

/-- What an input shows of a timestamp is read as that much of it. -/
theorem read_inputValueChars {t : Timestamp} (h : t.IsInRange) :
    read t.inputValueChars = some t.asShown := by
  have hutc := h.isReal_utc
  have hmillis : t.utc.shownNanos / 1000000 < 1000 := by
    have hnanos : t.utc.shownNanos < 1000000000 := Nat.mod_lt _ (by decide)
    omega
  simp only [read, forms, inputValueChars]
  split_ifs with hnanos hsecond
  · have hrfc : Rfc3339.read (t.utc.secondText ++
        '.' :: Decimal.padded 3 (t.utc.shownNanos / 1000000)) = none := by
      rw [ClockTime.secondText, List.append_assoc]
      exact Rfc3339.read_minuteText hutc (.inr ⟨_, .inr ⟨_, hmillis, rfl⟩, rfl⟩)
    rw [List.findSome?_cons, hrfc, List.findSome?_cons, readNaive_fraction h]
  · have hzero : t.nanos = 0 := not_not.mp hnanos
    have hrfc : Rfc3339.read t.utc.secondText = none :=
      Rfc3339.read_minuteText hutc (.inr ⟨[], .inl rfl, by rw [List.append_nil]⟩)
    rw [List.findSome?_cons, hrfc, List.findSome?_cons, readNaive_second h hzero]
  · have hzero : t.nanos = 0 := not_not.mp hnanos
    have hrfc : Rfc3339.read t.utc.minuteText = none := by
      have hminute := Rfc3339.read_minuteText hutc (.inl rfl)
      rwa [List.append_nil] at hminute
    obtain ⟨hfraction, hsecond, hminute⟩ := readNaive_minute h hzero (not_not.mp hsecond)
    rw [List.findSome?_cons, hrfc, List.findSome?_cons, hfraction, List.findSome?_cons, hsecond,
      List.findSome?_cons, hminute]

/-! ## Shown date parameters -/

theorem isTextChar_of_mem_inputValueChars {t : Timestamp} {c : Char}
    (h : c ∈ t.inputValueChars) : isTextChar c := by
  have hminute : c ∈ t.utc.minuteText → c ∈ t.utc.secondText := List.mem_append_left _
  simp only [inputValueChars] at h
  grind [isTextChar_of_mem_padded, isTextChar_of_mem_secondText, isTextChar]

/-- Nothing that an input shows is blank. -/
theorem trim_inputValueChars (t : Timestamp) :
    Blank.trim t.inputValueChars = t.inputValueChars := by
  refine Blank.trim_eq_self fun c hc => ?_
  obtain ⟨hlow, hhigh⟩ := bounds_of_isTextChar (isTextChar_of_mem_inputValueChars hc)
  exact Blank.isBlank_of_visible hlow hhigh

theorem inputValueChars_ne_nil (t : Timestamp) : t.inputValueChars ≠ [] := by
  simp only [inputValueChars, ClockTime.secondText, ClockTime.minuteText]
  split_ifs <;> simp

/-- What an input shows is read as that much of the timestamp, unless its year needs a sign. -/
theorem decode_inputValue {t : Timestamp} (h : t.IsInRange) :
    decode t.inputValue =
      if t.hasPlainUtcYear then .ok (some t.asShown) else .error ⟨t.inputValue⟩ := by
  have hne := t.inputValueChars_ne_nil
  rw [decode, inputValue, String.toList_ofList, trim_inputValueChars]
  split
  · contradiction
  · rw [read_inputValueChars h, ← hasPlainYear_asShown]
    cases hyear : t.asShown.hasPlainYear with
    | true => rw [Option.filter_some, if_pos hyear, if_pos rfl]
    | false => rw [Option.filter_some, hyear, if_neg (by decide), if_neg (by decide)]

/-! ## Years that change with the offset -/

theorem hasPlainYear_iff (t : Timestamp) :
    t.hasPlainYear ↔
      -719528 ≤ (t.epoch + 60 * t.offset) / 86400 ∧
        (t.epoch + 60 * t.offset) / 86400 < 2932897 := by
  rw [hasPlainYear, Bool.and_eq_true, decide_eq_true_eq, decide_eq_true_eq]
  exact Date.year_ofDays_mem_iff _

theorem hasPlainUtcYear_iff (t : Timestamp) :
    t.hasPlainUtcYear ↔ -719528 ≤ t.epoch / 86400 ∧ t.epoch / 86400 < 2932897 := by
  rw [hasPlainUtcYear, Bool.and_eq_true, decide_eq_true_eq, decide_eq_true_eq]
  exact Date.year_ofDays_mem_iff _

/-- The year in UTC has other than four digits only next to the first and the last day that can be
written, where the offset makes the step over the year. -/
theorem IsWritable.date_of_not_hasPlainUtcYear {t : Timestamp} (h : t.IsWritable)
    (hutc : ¬t.hasPlainUtcYear) :
    (0 < t.offset ∧ t.clock.date = ⟨0, 1, 1⟩ ∧ t.utc.date = ⟨-1, 12, 31⟩) ∨
      (t.offset < 0 ∧ t.clock.date = ⟨9999, 12, 31⟩ ∧ t.utc.date = ⟨10000, 1, 1⟩) := by
  have hoffset := h.offset
  have hyear := h.year
  rw [hasPlainYear_iff] at hyear
  rw [hasPlainUtcYear_iff] at hutc
  have hclock : t.clock.date = Date.ofDays ((t.epoch + 60 * t.offset) / 86400) := rfl
  have hdate : t.utc.date = Date.ofDays (t.epoch / 86400) := rfl
  rw [hclock, hdate]
  -- An offset of less than a day moves the clock by one day at most.
  by_cases hbefore : t.epoch / 86400 < -719528
  · have hpositive : 0 < t.offset := by omega
    have hlocal : (t.epoch + 60 * t.offset) / 86400 = -719528 := by omega
    have hday : t.epoch / 86400 = -719529 := by omega
    rw [hlocal, hday]
    exact .inl ⟨hpositive, by decide, by decide⟩
  · have hnegative : t.offset < 0 := by omega
    have hlocal : (t.epoch + 60 * t.offset) / 86400 = 2932896 := by omega
    have hday : t.epoch / 86400 = 2932897 := by omega
    rw [hlocal, hday]
    exact .inr ⟨hnegative, by decide, by decide⟩

/-! ## What is read, shown again -/

/-- An input tells apart all timestamps that differ by a millisecond or more. -/
theorem asShown_eq_of_inputValue_eq {t t' : Timestamp} (h : t.IsInRange) (h' : t'.IsInRange)
    (hsame : t'.inputValue = t.inputValue) : t'.asShown = t.asShown := by
  have hchars : t'.inputValueChars = t.inputValueChars := String.ofList_injective hsame
  have hread := read_inputValueChars h'
  rw [hchars, read_inputValueChars h] at hread
  exact (Option.some.inj hread).symm

/-- What an input shows of a date that was read is read as the same second in UTC, with the whole
milliseconds and the leap second that it had. Where the offset has moved the year out of the four
digits it is refused, which happens on the first and on the last day that can be written. Dates
that are shown alike agree to the millisecond. -/
theorem decode_inputText_of_decode {s : String} {t : Timestamp}
    (h : decode? (some s) = .ok (some t)) :
    (t.hasPlainUtcYear →
      ∃ t', decode? (some (inputText (some t))) = .ok (some t') ∧ t'.offset = 0 ∧
        t'.epoch = t.epoch ∧ t'.nanos = t.nanos / 1000000 * 1000000 ∧
        (1000000000 ≤ t'.nanos ↔ 1000000000 ≤ t.nanos)) ∧
    (¬t.hasPlainUtcYear →
      decode? (some (inputText (some t))) = .error ⟨inputText (some t)⟩ ∧
        ((0 < t.offset ∧ t.clock.date = ⟨0, 1, 1⟩ ∧ t.utc.date = ⟨-1, 12, 31⟩) ∨
          (t.offset < 0 ∧ t.clock.date = ⟨9999, 12, 31⟩ ∧ t.utc.date = ⟨10000, 1, 1⟩))) ∧
    ∀ s' t', decode? (some s') = .ok (some t') → inputText (some t') = inputText (some t) →
      t'.epoch = t.epoch ∧ t'.nanos / 1000000 = t.nanos / 1000000 := by
  have hwritable := isWritable_of_decode h
  have hread := decode_inputValue hwritable.isInRange
  refine ⟨fun hutc => ?_, fun hutc => ?_, fun s' t' h' hsame => ?_⟩
  · rw [if_pos hutc] at hread
    refine ⟨t.asShown, hread, rfl, rfl, rfl, ?_⟩
    simp only [asShown]
    omega
  · rw [if_neg hutc] at hread
    exact ⟨hread, hwritable.date_of_not_hasPlainUtcYear hutc⟩
  · have hshown := asShown_eq_of_inputValue_eq hwritable.isInRange
      (isWritable_of_decode h').isInRange hsame
    have hepoch : t'.asShown.epoch = t.asShown.epoch := congrArg epoch hshown
    have hnanos : t'.nanos / 1000000 * 1000000 = t.nanos / 1000000 * 1000000 :=
      congrArg nanos hshown
    exact ⟨hepoch, by omega⟩

/-- A leap second, of which a part of a millisecond is cut off, and a time of the year 0 that in
UTC belongs to the year before. -/
theorem decode_inputText_of_decode_leap :
    (decode? (some "2017-01-01T05:29:60.5009+05:30") = .ok (some ⟨1483228799, 1500900000, 330⟩) ∧
      ∃ t', decode? (some (inputText (some ⟨1483228799, 1500900000, 330⟩))) = .ok (some t') ∧
        t'.epoch = 1483228799 ∧ t'.nanos = 1500000000 ∧ t'.offset = 0) ∧
    (decode? (some "0000-01-01T00:30:00+01:00") = .ok (some ⟨-62167221000, 0, 60⟩) ∧
      decode? (some (inputText (some ⟨-62167221000, 0, 60⟩))) =
        .error ⟨inputText (some ⟨-62167221000, 0, 60⟩)⟩) := by
  have hleap : decode? (some "2017-01-01T05:29:60.5009+05:30") =
      .ok (some ⟨1483228799, 1500900000, 330⟩) := by
    decide +kernel
  have hzero : decode? (some "0000-01-01T00:30:00+01:00") =
      .ok (some ⟨-62167221000, 0, 60⟩) := by
    decide +kernel
  obtain ⟨t', hread, hoffset, hepoch, hnanos, _⟩ :=
    (decode_inputText_of_decode hleap).1 (by decide +kernel)
  exact ⟨⟨hleap, t', hread, hepoch, hnanos, hoffset⟩, hzero,
    ((decode_inputText_of_decode hzero).2.1 (by decide +kernel)).1⟩

end Timestamp

end HistorySearch
