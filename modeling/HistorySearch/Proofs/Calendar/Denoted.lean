-- SUMMARY: A date that is written in full is read as the second that it denotes.
import HistorySearch.Proofs.Calendar.Shown

/-!
# Dates in full

A date may be written with all digits of its numbers: alone, with a time to the minute, or with one
to the second, which may have a fraction and an offset. It is read exactly if the calendar has the
day. The second that it denotes is counted in days from 1970 on and within the day by its clock, and
an offset moves it by whole minutes, so that all texts of one second are read as that second.
-/

namespace HistorySearch

/-! ## Texts -/

/-- What a time says of its offset. -/
inductive ZoneText
  /-- Nothing, which stands for UTC. -/
  | missing
  | utc
  | east (hours minutes : Nat)
  | west (hours minutes : Nat)
  deriving DecidableEq

namespace ZoneText

def toChars : ZoneText → List Char
  | missing => []
  | utc => ['Z']
  | east hours minutes => '+' :: Decimal.padded 2 hours ++ ':' :: Decimal.padded 2 minutes
  | west hours minutes => '-' :: Decimal.padded 2 hours ++ ':' :: Decimal.padded 2 minutes

/-- The minutes east of UTC. -/
def offset : ZoneText → Int
  | missing => 0
  | utc => 0
  | east hours minutes => (60 * hours + minutes : Nat)
  | west hours minutes => -(60 * hours + minutes : Nat)

/-- An offset has the hours and minutes of a clock. -/
def IsInRange : ZoneText → Prop
  | missing => True
  | utc => True
  | east hours minutes => hours ≤ 23 ∧ minutes ≤ 59
  | west hours minutes => hours ≤ 23 ∧ minutes ≤ 59

end ZoneText

/-- What is written of the time after a day. -/
inductive TimeText
  | missing
  | minute (hour minute : Nat)
  /-- The fraction is given by its digits, and is not written if there are none. -/
  | second (hour minute second : Nat) (fraction : List Char) (zone : ZoneText)
  deriving DecidableEq

namespace TimeText

def fractionChars : List Char → List Char
  | [] => []
  | d :: ds => '.' :: d :: ds

def toChars : TimeText → List Char
  | missing => []
  | minute h m => 'T' :: (Decimal.padded 2 h ++ ':' :: Decimal.padded 2 m)
  | second h m s fraction zone =>
    'T' :: (Decimal.padded 2 h ++ ':' :: (Decimal.padded 2 m ++ ':' :: (Decimal.padded 2 s ++
      (fractionChars fraction ++ zone.toChars))))

/-- The hour; a day alone stands for its start. -/
def hourOf : TimeText → Nat
  | missing => 0
  | minute h _ => h
  | second h _ _ _ _ => h

def minuteOf : TimeText → Nat
  | missing => 0
  | minute _ m => m
  | second _ m _ _ _ => m

/-- The second, which is the 60th for a leap second. -/
def secondOf : TimeText → Nat
  | missing => 0
  | minute _ _ => 0
  | second _ _ s _ _ => s

/-- The digits of the fraction. -/
def fractionOf : TimeText → List Char
  | missing => []
  | minute _ _ => []
  | second _ _ _ fraction _ => fraction

def zoneOf : TimeText → ZoneText
  | missing => .missing
  | minute _ _ => .missing
  | second _ _ _ _ zone => zone

end TimeText

/-- A date that is written in full. -/
structure DateText where
  year : Nat
  month : Nat
  day : Nat
  time : TimeText
  deriving DecidableEq

namespace DateText

def toChars (w : DateText) : List Char :=
  Decimal.padded 4 w.year ++ '-' :: (Decimal.padded 2 w.month ++ '-' ::
    (Decimal.padded 2 w.day ++ w.time.toChars))

def text (w : DateText) : String :=
  String.ofList w.toChars

/-- The day, which the calendar may not have. -/
def date (w : DateText) : Date :=
  ⟨w.year, w.month, w.day⟩

/-- Numbers that have room in the text, and those of the time within a day. -/
structure IsInRange (w : DateText) : Prop where
  year : w.year ≤ 9999
  month : w.month ≤ 99
  day : w.day ≤ 99
  hour : w.time.hourOf ≤ 23
  minute : w.time.minuteOf ≤ 59
  second : w.time.secondOf ≤ 60
  fraction : ∀ d ∈ w.time.fractionOf, Decimal.isDigit d
  zone : w.time.zoneOf.IsInRange

/-! ## What is denoted -/

/-- The nanoseconds of a fraction: its first nine digits, with zeros for those that are missing. -/
def nanos (w : DateText) : Nat :=
  Decimal.value ((w.time.fractionOf ++ List.replicate 9 '0').take 9)

/-- What a clock with the offset shows. A leap second is the 59th second once more. -/
def clock (w : DateText) : ClockTime where
  date := w.date
  hour := w.time.hourOf
  minute := w.time.minuteOf
  second := min w.time.secondOf 59
  nanos := if w.time.secondOf = 60 then 1000000000 + w.nanos else w.nanos

/-- The minutes from the start of 1970 in UTC. -/
def utcMinute (w : DateText) : Int :=
  24 * 60 * w.date.toDays + (60 * w.time.hourOf + w.time.minuteOf : Nat) - w.time.zoneOf.offset

/-- The nanoseconds from the start of 1970 in UTC. -/
def utcNanos (w : DateText) : Int :=
  1000000000 * (60 * w.utcMinute + w.time.secondOf) + w.nanos

/-- The timestamp that a date denotes. -/
structure Denotes (w : DateText) (t : Timestamp) : Prop where
  clock : t.clock = w.clock
  offset : t.offset = w.time.zoneOf.offset
  epoch : t.epoch = 86400 * w.date.toDays +
    (3600 * w.time.hourOf + 60 * w.time.minuteOf + min w.time.secondOf 59 : Nat) -
      60 * w.time.zoneOf.offset
  nanos : t.nanos = if w.time.secondOf = 60 then 1000000000 + w.nanos else w.nanos
  floor : w.time.secondOf ≤ 59 → t.epoch = w.utcNanos / 1000000000

end DateText

/-! ## Reading of the parts -/

theorem Timestamp.all_padded (width n : Nat) : (Decimal.padded width n).all isTextChar :=
  List.all_eq_true.mpr fun _ hc => isTextChar_of_mem_padded hc

namespace ZoneText

theorem head_toChars (zone : ZoneText) :
    ∀ c ∈ zone.toChars.head?, c ≠ '.' ∧ !Decimal.isDigit c := by
  cases zone <;> simp [toChars, Decimal.isDigit]

/-- An offset that is written is read. -/
theorem readOffset_toChars {zone : ZoneText} (h : zone.IsInRange) (hsaid : zone ≠ missing) :
    Rfc3339.readOffset zone.toChars = some (zone.offset, []) := by
  cases zone with
  | missing => exact absurd rfl hsaid
  | utc => rfl
  | east hours minutes => exact Rfc3339.readOffset_plus h.1 h.2
  | west hours minutes => exact Rfc3339.readOffset_minus h.1 h.2

theorem all_toChars (zone : ZoneText) : zone.toChars.all Timestamp.isTextChar := by
  cases zone <;> simp [toChars, Timestamp.all_padded, Timestamp.isTextChar]

end ZoneText

namespace TimeText

theorem readFraction_fractionChars {ds : List Char} (hds : ∀ d ∈ ds, Decimal.isDigit d)
    {f : ClockFields} (hunset : f.fraction = 0) {rest : List Char}
    (hrest : ∀ c ∈ rest.head?, c ≠ '.' ∧ !Decimal.isDigit c) :
    PatternItem.fraction.read f (fractionChars ds ++ rest) =
      some ({ f with fraction := fractionNanos ds }, rest) := by
  cases ds with
  | nil =>
    have hzero : fractionNanos [] = f.fraction := hunset.symm
    rw [hzero]
    cases rest with
    | nil => rfl
    | cons c cs =>
      have hpoint : c ≠ '.' := (hrest c rfl).1
      simp [fractionChars, PatternItem.read, hpoint]
  | cons d ds =>
    have hread := Rfc3339.readFraction_digits (List.cons_ne_nil d ds) hds
      fun c hc => (hrest c hc).2
    rw [fractionChars, List.cons_append, PatternItem.read, hread]
    rfl

theorem all_fractionChars {ds : List Char} (hds : ∀ d ∈ ds, Decimal.isDigit d) :
    (fractionChars ds).all Timestamp.isTextChar := by
  have hall : ds.all Timestamp.isTextChar :=
    List.all_eq_true.mpr fun d hd => by simp [Timestamp.isTextChar, hds d hd]
  cases ds with
  | nil => rfl
  | cons d ds =>
    rw [fractionChars, List.all_cons, hall]
    rfl

theorem all_toChars {time : TimeText} (hdigits : ∀ d ∈ time.fractionOf, Decimal.isDigit d) :
    time.toChars.all Timestamp.isTextChar := by
  cases time with
  | missing => rfl
  | minute hour minute => simp [toChars, Timestamp.all_padded, Timestamp.isTextChar]
  | second hour minute second fraction zone =>
    have hfraction := all_fractionChars hdigits
    rw [fractionOf] at hfraction
    simp [toChars, Timestamp.all_padded, hfraction, zone.all_toChars, Timestamp.isTextChar]

end TimeText

namespace DateText

variable {w : DateText}

theorem IsInRange.plainYear (h : w.IsInRange) : (0 : Int) ≤ w.year ∧ (w.year : Int) ≤ 9999 := by
  have hyear := h.year
  omega

theorem IsInRange.month_lt (h : w.IsInRange) : w.month < 100 :=
  Nat.lt_of_le_of_lt h.month (by decide)

theorem IsInRange.day_lt (h : w.IsInRange) : w.day < 100 :=
  Nat.lt_of_le_of_lt h.day (by decide)

theorem toChars_eq (h : w.IsInRange) :
    w.toChars = ClockTime.yearText w.year ++ '-' :: (Decimal.padded 2 w.month ++ '-' ::
      (Decimal.padded 2 w.day ++ w.time.toChars)) := by
  rw [ClockTime.yearText, if_pos h.plainYear]
  rfl

def dayFields (w : DateText) : ClockFields :=
  { ClockFields.unset with year := w.year, month := w.month, day := w.day }

def fields (w : DateText) : ClockFields :=
  { w.dayFields with
    hour := w.time.hourOf, minute := w.time.minuteOf, second := w.time.secondOf
    fraction := fractionNanos w.time.fractionOf }

/-! ## Reading by patterns -/

open PatternItem in
/-- What the patterns have after the day, in the order in which they are tried. -/
def afterDay : List Pattern :=
  [[separator 'T', hour, separator ':', minute, separator ':', second, fraction],
   [separator 'T', hour, separator ':', minute, separator ':', second],
   [separator 'T', hour, separator ':', minute],
   []]

theorem forms_eq :
    Timestamp.forms =
      Rfc3339.read :: afterDay.map fun items => Timestamp.readNaive (Pattern.date ++ items) :=
  rfl

/-- A pattern reads the day and then goes on with what it has after it. -/
theorem readNaive_toChars (h : w.IsInRange) (items : Pattern) :
    Timestamp.readNaive (Pattern.date ++ items) w.toChars =
      ((PatternItem.readAll items w.dayFields w.time.toChars).bind ClockFields.toClockTime?).map
        (·.withOffset 0) := by
  rw [Timestamp.readNaive, Pattern.read, toChars_eq h,
    PatternItem.readAll_day _ h.month_lt h.day_lt]
  rfl

/-- The first form that fits is the one with an offset or the first pattern that does. -/
theorem read_toChars (h : w.IsInRange) {rfc : Option Timestamp} {found : List (Option ClockFields)}
    (hrfc : Rfc3339.read w.toChars = rfc)
    (hfound : afterDay.map (PatternItem.readAll · w.dayFields w.time.toChars) = found) :
    Timestamp.read w.toChars =
      (rfc :: found.map fun f => (f.bind ClockFields.toClockTime?).map (·.withOffset 0)).findSome?
        id := by
  rw [Timestamp.read, forms_eq, List.findSome?_cons, List.findSome?_cons, ← hrfc, ← hfound]
  cases Rfc3339.read w.toChars with
  | some t => rfl
  | none =>
    simp only [id_eq, List.findSome?_map, Function.comp_def]
    congr 1
    funext items
    exact readNaive_toChars h items

/-! ## Reading of whole texts -/

/-- Of results that agree as far as there are any, the first is the result. -/
theorem findSome?_of_alike {α : Type} {x : Option α} {xs : List (Option α)}
    (hall : ∀ y ∈ xs, y = none ∨ y = x) (hmem : x ∈ xs) : xs.findSome? id = x := by
  induction xs with
  | nil => contradiction
  | cons y ys ih =>
    cases y with
    | some a => exact (hall (some a) List.mem_cons_self).resolve_left nofun
    | none =>
      rw [List.findSome?_cons]
      cases x with
      | none => exact List.findSome?_eq_none_iff.mpr fun z hz =>
          (hall z (List.mem_cons_of_mem _ hz)).elim id id
      | some a =>
        apply ih
        · exact fun z hz => hall z (List.mem_cons_of_mem _ hz)
        · exact (List.mem_cons.mp hmem).resolve_left nofun

/-- A day alone is read by the last pattern. -/
theorem read_day (h : w.IsInRange) (htime : w.time = .missing) :
    Timestamp.read w.toChars = w.fields.toClockTime?.map (·.withOffset w.time.zoneOf.offset) := by
  have hrfc : Rfc3339.read w.toChars = none := by
    simp only [toChars_eq h, htime, Rfc3339.read, Option.bind_eq_bind,
      Rfc3339.readDate_text h.plainYear h.month_lt h.day_lt]
    rfl
  have hfound : afterDay.map (PatternItem.readAll · w.dayFields w.time.toChars) =
      [none, none, none, some w.fields] := by
    simp only [fields, htime]
    rfl
  rw [read_toChars h hrfc hfound, htime]
  apply findSome?_of_alike <;> simp [TimeText.zoneOf, ZoneText.offset]

/-- A time to the minute is read by the pattern without seconds. -/
theorem read_minute (h : w.IsInRange) {hour minute : Nat} (htime : w.time = .minute hour minute) :
    Timestamp.read w.toChars = w.fields.toClockTime?.map (·.withOffset w.time.zoneOf.offset) := by
  obtain ⟨hhour, hminute⟩ : hour < 100 ∧ minute < 100 := by
    have hrange := And.intro h.hour h.minute
    rw [htime] at hrange
    exact ⟨Nat.lt_of_le_of_lt hrange.1 (by decide), Nat.lt_of_le_of_lt hrange.2 (by decide)⟩
  have hrfc : Rfc3339.read w.toChars = none := by
    simp only [toChars_eq h, htime, TimeText.toChars, Rfc3339.read, Option.bind_eq_bind,
      Rfc3339.readDate_text h.plainYear h.month_lt h.day_lt, Option.bind_some,
      Rfc3339.readDelimiter, if_pos, true_or, Rfc3339.readTime_minute hhour hminute]
    rfl
  have hlast := PatternItem.readShort_padded hminute []
  rw [List.append_nil] at hlast
  have hfound : afterDay.map (PatternItem.readAll · w.dayFields w.time.toChars) =
      [none, none, some w.fields, none] := by
    simp [fields, dayFields, ClockFields.unset, htime, afterDay, PatternItem.readAll,
      PatternItem.read, PatternItem.readShort_padded hhour, hlast, TimeText.toChars,
      TimeText.hourOf, TimeText.minuteOf, TimeText.secondOf, TimeText.fractionOf]
    rfl
  rw [read_toChars h hrfc hfound, htime]
  apply findSome?_of_alike <;> simp [TimeText.zoneOf, ZoneText.offset]

/-- A time to the second is read with its offset, or else by the pattern with a fraction. -/
theorem read_second (h : w.IsInRange) {hour minute second : Nat} {fraction : List Char}
    {zone : ZoneText} (htime : w.time = .second hour minute second fraction zone) :
    Timestamp.read w.toChars = w.fields.toClockTime?.map (·.withOffset w.time.zoneOf.offset) := by
  obtain ⟨hhour, hminute, hsecond, hfraction, hzone⟩ :
      hour ≤ 23 ∧ minute ≤ 59 ∧ second ≤ 60 ∧ (∀ d ∈ fraction, Decimal.isDigit d) ∧
        zone.IsInRange := by
    have hrange := And.intro h.hour (And.intro h.minute (And.intro h.second
      (And.intro h.fraction h.zone)))
    rwa [htime] at hrange
  have hread := fun f hunset => TimeText.readFraction_fractionChars hfraction (f := f) hunset
    zone.head_toChars
  have hrfc : Rfc3339.read w.toChars = if zone = .missing then none else
      w.fields.toClockTime?.map (·.withOffset zone.offset) := by
    simp only [toChars_eq h, htime, TimeText.toChars, Rfc3339.read, Option.bind_eq_bind,
      Rfc3339.readDate_text h.plainYear h.month_lt h.day_lt, Option.bind_some,
      Rfc3339.readDelimiter, if_pos, true_or, Rfc3339.readTime_text hhour hminute hsecond]
    rw [hread _ rfl]
    split
    · rename_i hmissing
      rw [hmissing]
      rfl
    · rename_i hsaid
      simp only [Option.bind_some, ZoneText.readOffset_toChars hzone hsaid, fields, htime,
        Option.map_eq_bind]
      rfl
  have hfound : afterDay.map (PatternItem.readAll · w.dayFields w.time.toChars) =
      [if zone = .missing then some w.fields else none,
        if fraction = [] ∧ zone = .missing then some w.fields else none, none, none] := by
    have hclock := fun items rest => PatternItem.readAll_hourMinute (show hour < 100 by omega)
      (show minute < 100 by omega) w.dayFields items rest
    have hseconds := fun f items rest =>
      PatternItem.readAll_seconds (show second < 100 by omega) f items rest
    have hshort (f : ClockFields) : PatternItem.readAll [] f
        (TimeText.fractionChars fraction ++ zone.toChars) =
          if fraction = [] ∧ zone = .missing then some f else none := by
      cases fraction <;> cases zone <;> rfl
    have hlong (f : ClockFields) (hunset : f.fraction = 0) : PatternItem.readAll [.fraction] f
        (TimeText.fractionChars fraction ++ zone.toChars) =
          if zone = .missing then some { f with fraction := fractionNanos fraction } else none := by
      rw [PatternItem.readAll, hread f hunset]
      cases zone <;> rfl
    have hunset : w.dayFields.fraction = 0 := rfl
    have hfirst : PatternItem.readAll [.fraction]
        { w.dayFields with hour := hour, minute := minute, second := second }
        (TimeText.fractionChars fraction ++ zone.toChars) =
          if zone = .missing then some w.fields else none := by
      rw [hlong { w.dayFields with hour := hour, minute := minute, second := second } hunset,
        fields, htime]
      rfl
    have hnext : PatternItem.readAll []
        { w.dayFields with hour := hour, minute := minute, second := second }
        (TimeText.fractionChars fraction ++ zone.toChars) =
          if fraction = [] ∧ zone = .missing then some w.fields else none := by
      rw [hshort]
      by_cases hnone : fraction = []
      · have hzero : fractionNanos [] = 0 := Nat.zero_mul _
        rw [fields, htime, hnone, TimeText.fractionOf, hzero]
        rfl
      · rw [if_neg (fun h => hnone h.1), if_neg (fun h => hnone h.1)]
    simp only [afterDay, List.map_cons, List.map_nil, htime, TimeText.toChars, hclock, hseconds,
      hfirst, hnext]
    rfl
  rw [read_toChars h hrfc hfound, htime, TimeText.zoneOf]
  by_cases hsaid : zone = .missing
  · subst hsaid
    by_cases hnone : fraction = []
    · apply findSome?_of_alike <;> simp [ZoneText.offset, hnone]
    · apply findSome?_of_alike <;> simp [ZoneText.offset, hnone]
  · apply findSome?_of_alike <;> simp [hsaid]

/-- However much of the time is written, the numbers of a date are read from it. -/
theorem read_fields (h : w.IsInRange) :
    Timestamp.read w.toChars = w.fields.toClockTime?.map (·.withOffset w.time.zoneOf.offset) := by
  cases htime : w.time with
  | missing =>
    rw [← htime]
    exact read_day h htime
  | minute hour minute =>
    rw [← htime]
    exact read_minute h htime
  | second hour minute second fraction zone =>
    rw [← htime]
    exact read_second h htime

/-! ## What is read -/

/-- A fraction counts as if it had nine digits. -/
theorem fractionNanos_eq (ds : List Char) :
    fractionNanos ds = Decimal.value ((ds ++ List.replicate 9 '0').take 9) := by
  have htake : (ds ++ List.replicate 9 '0').take 9 =
      ds.take 9 ++ List.replicate (9 - ds.length) '0' := by
    rw [List.take_append, List.take_replicate, Nat.min_eq_left (Nat.sub_le 9 ds.length)]
  rw [htake, Decimal.value_eq, Nat.ofDigitChars_append, Nat.ofDigitChars_replicate_zero,
    ← Decimal.value_eq, Nat.mul_comm]
  rfl

theorem IsInRange.nanos_lt (h : w.IsInRange) : w.nanos < 1000000000 := by
  rw [nanos, ← fractionNanos_eq]
  exact Timestamp.fractionNanos_lt h.fraction

/-- The numbers of a date give its clock exactly if the calendar has the day. -/
theorem toClockTime?_fields (h : w.IsInRange) :
    w.fields.toClockTime? = if w.date.IsDay then some w.clock else none := by
  have hfraction : w.fields.fraction = w.nanos := fractionNanos_eq _
  have hsecond : w.fields.second = w.time.secondOf := rfl
  by_cases hday : w.date.IsDay
  · refine (if_pos ⟨hday, h.hour, h.minute, h.second⟩).trans ?_
    rw [if_pos hday, clock, hfraction, hsecond]
    have hle := h.second
    split
    · rename_i hleap
      rw [hleap]
      rfl
    · have hmin : min w.time.secondOf 59 = w.time.secondOf := by omega
      rw [hmin]
      rfl
  · rw [if_neg hday]
    exact if_neg fun hrange => hday hrange.1

/-- The clock of a date in range shows its numbers at the instant that it stands for. -/
theorem clock_withOffset (h : w.IsInRange) (hday : w.date.IsDay) (offset : Int) :
    (w.clock.withOffset offset).clock = w.clock := by
  have hself : w.clock.toEpoch - 60 * offset + 60 * offset = w.clock.toEpoch := by omega
  rw [Timestamp.clock, ClockTime.withOffset, hself]
  exact ClockTime.ofEpoch_toEpoch hday h.hour h.minute (Nat.min_le_right _ _)

/-- The timestamp of a date's clock and offset is the one that it denotes. -/
theorem denotes_withOffset (h : w.IsInRange) (hday : w.date.IsDay) :
    w.Denotes (w.clock.withOffset w.time.zoneOf.offset) where
  clock := clock_withOffset h hday _
  offset := rfl
  epoch := rfl
  nanos := rfl
  floor hplain := by
    have hnanos := h.nanos_lt
    simp only [ClockTime.withOffset, ClockTime.toEpoch, clock, utcNanos, utcMinute]
    omega

/-! ## Date parameters -/

/-- A date consists of digits and a few marks. -/
theorem all_toChars (h : w.IsInRange) : w.toChars.all Timestamp.isTextChar := by
  have htime := TimeText.all_toChars h.fraction
  simp [toChars, Timestamp.all_padded, htime, Timestamp.isTextChar]

/-- A date is looked up as it is written, without its year being refused. -/
theorem decode_text (h : w.IsInRange) :
    Timestamp.decode w.text =
      if w.date.IsDay then .ok (some (w.clock.withOffset w.time.zoneOf.offset))
      else .error ⟨w.text⟩ := by
  have htrim : Blank.trim w.toChars = w.toChars := by
    refine Blank.trim_eq_self fun c hc => ?_
    obtain ⟨hlow, hhigh⟩ := Timestamp.bounds_of_isTextChar (List.all_eq_true.mp (all_toChars h) c hc)
    exact Blank.isBlank_of_visible hlow hhigh
  have hread := read_fields h
  rw [toClockTime?_fields h] at hread
  have hne : w.toChars ≠ [] := by simp [toChars]
  rw [Timestamp.decode, text, String.toList_ofList, htrim]
  split
  · contradiction
  · rw [hread]
    by_cases hday : w.date.IsDay
    · have hyear : (w.clock.withOffset w.time.zoneOf.offset).hasPlainYear := by
        have hplain := h.plainYear
        rw [Timestamp.hasPlainYear, clock_withOffset h hday]
        exact Bool.and_eq_true_iff.mpr ⟨decide_eq_true hplain.1, decide_eq_true hplain.2⟩
      rw [if_pos hday, if_pos hday, Option.map_some, Option.filter_some, if_pos hyear]
    · rw [if_neg hday, if_neg hday]
      rfl

/-! ## Dates denote the right second -/

/-- The minute in UTC, the second of it and the nanoseconds of that. -/
def instant (w : DateText) : Int × Nat × Nat :=
  (w.utcMinute, w.time.secondOf, w.nanos)

/-- Dates of the same instant denote the same second and nanoseconds of it. -/
theorem Denotes.of_instant {w' : DateText} {t t' : Timestamp} (h : w.Denotes t)
    (h' : w'.Denotes t') (hsame : w'.instant = w.instant) :
    t'.epoch = t.epoch ∧ t'.nanos = t.nanos := by
  obtain ⟨hminute, hpair⟩ := Prod.mk.inj hsame
  obtain ⟨hsecond, hnanos⟩ := Prod.mk.inj hpair
  constructor
  · rw [h.epoch, h'.epoch, hsecond]
    simp only [utcMinute] at hminute
    omega
  · rw [h.nanos, h'.nanos, hsecond, hnanos]

/-- A date in full is read exactly if the calendar has its day, and then as the second that it
denotes, which is the same for all dates of the instant. Days are counted from 1970-01-01. -/
theorem read_as_denoted {w : DateText} (h : w.IsInRange) :
    (w.date.IsDay → ∃ t, Timestamp.decode? (some w.text) = .ok (some t) ∧ w.Denotes t ∧
      ∀ (w' : DateText) t', w'.IsInRange → Timestamp.decode? (some w'.text) = .ok (some t') →
        w'.instant = w.instant → t'.epoch = t.epoch ∧ t'.nanos = t.nanos) ∧
    (¬w.date.IsDay → Timestamp.decode? (some w.text) = .error ⟨w.text⟩) ∧
    (Date.toDays ⟨1970, 1, 1⟩ = 0 ∧
      ∀ d : Date, d.IsDay → d.next.IsDay ∧ d.next.toDays = d.toDays + 1) := by
  have hstart : Date.toDays ⟨1970, 1, 1⟩ = 0 := by decide
  refine ⟨?_, ?_, hstart, fun d => Date.toDays_next⟩
  · intro hday
    have hdenotes := denotes_withOffset h hday
    refine ⟨_, (decode_text h).trans (if_pos hday), hdenotes, ?_⟩
    intro w' t' h' hread hsame
    rw [Timestamp.decode?, decode_text h'] at hread
    split at hread
    · rename_i hday'
      obtain rfl := Option.some.inj (Except.ok.inj hread)
      exact hdenotes.of_instant (denotes_withOffset h' hday') hsame
    · contradiction
  · intro hday
    exact (decode_text h).trans (if_neg hday)

/-- A leap second of 1969 in the west, which is one of 1970 in UTC, and a leap day in a year that
has none. -/
theorem read_as_denoted_leap :
    Timestamp.decode? (some "1969-12-31T22:59:60.25-01:30") =
        .ok (some ⟨1799, 1250000000, -90⟩) ∧
      Timestamp.decode? (some "1900-02-29") = .error ⟨"1900-02-29"⟩ := by
  have hleap : IsInRange ⟨1969, 12, 31, .second 22 59 60 ['2', '5'] (.west 1 30)⟩ :=
    ⟨by decide, by decide, by decide, by decide, by decide, by decide, List.all_eq_true.mp rfl,
      show 1 ≤ 23 ∧ 30 ≤ 59 by decide⟩
  have hday : IsInRange ⟨1900, 2, 29, .missing⟩ :=
    ⟨by decide, by decide, by decide, by decide, by decide, by decide, nofun, trivial⟩
  obtain ⟨⟨epoch, nanos, offset⟩, hread, hdenotes, -⟩ := (read_as_denoted hleap).1 (by decide)
  obtain rfl : epoch = 1799 := hdenotes.epoch
  obtain rfl : nanos = 1250000000 := hdenotes.nanos
  obtain rfl : offset = -90 := hdenotes.offset
  exact ⟨hread, (read_as_denoted hday).2.1 (by decide)⟩

end DateText

end HistorySearch
