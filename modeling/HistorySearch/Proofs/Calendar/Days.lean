-- SUMMARY: The day with a number is a day of the calendar and has that number.
import HistorySearch.Calendar.Timestamp

/-!
# Counting days

`Date.ofDays` estimates the year and corrects the estimate, then looks for the month. Here both
are shown to be right for every number of days, before 1970 as well as after.
-/

namespace HistorySearch

namespace Date

/-! ## Years -/

def yearLength (leap : Bool) : Nat :=
  if leap then 366 else 365

theorem daysBeforeYear_succ (year : Int) :
    daysBeforeYear (year + 1) = daysBeforeYear year + yearLength (isLeap year) := by
  cases h : isLeap year
  all_goals
    simp only [isLeap, Bool.and_eq_true, Bool.or_eq_true, Bool.and_eq_false_iff,
      Bool.or_eq_false_iff, decide_eq_true_eq, decide_eq_false_iff_not, ne_eq] at h
    simp only [daysBeforeYear, yearLength, Int.add_sub_cancel, Bool.false_eq_true, if_false, if_true,
      Int.cast_ofNat_Int]
    omega

/-- The year that is found holds the day. -/
theorem yearOf_spec (n : Int) :
    daysBeforeYear (yearOf n) ≤ n ∧ n < daysBeforeYear (yearOf n + 1) := by
  have hlow : daysBeforeYear (n * 400 / 146097 - 1) ≤ n := by
    unfold daysBeforeYear
    omega
  have hhigh : n < daysBeforeYear (n * 400 / 146097 + 2) := by
    unfold daysBeforeYear
    omega
  -- The estimate is off by one at most, so that the correction leaves no third case.
  unfold yearOf
  dsimp only
  split
  · rename_i hbefore
    rw [Int.sub_add_cancel]
    exact ⟨hlow, hbefore⟩
  · rename_i hstart
    split
    · rename_i hafter
      exact ⟨hafter, by rwa [Int.add_assoc]⟩
    · rename_i hend
      exact ⟨Int.not_lt.mp hstart, Int.not_le.mp hend⟩

/-! ## Months -/

/-- The month that is found starts by the day, and the next one does not. -/
theorem monthOf_spec (leap : Bool) (n m : Nat) :
    1 ≤ monthOf leap n (m + 1) ∧ monthOf leap n (m + 1) ≤ m + 1 ∧
      daysBeforeMonth leap (monthOf leap n (m + 1)) ≤ n ∧
      (monthOf leap n (m + 1) ≤ m → n < daysBeforeMonth leap (monthOf leap n (m + 1) + 1)) := by
  induction m with
  | zero => simp [monthOf, daysBeforeMonth]
  | succ m ih =>
    rw [monthOf]
    split
    · rename_i hstart
      exact ⟨by omega, Nat.le_refl _, hstart, by omega⟩
    · rename_i hstart
      obtain ⟨hone, hle, hbefore, hnext⟩ := ih
      refine ⟨hone, by omega, hbefore, fun _ => ?_⟩
      by_cases hlast : monthOf leap n (m + 1) ≤ m
      · exact hnext hlast
      · have : monthOf leap n (m + 1) = m + 1 := by omega
        rw [this]
        exact Nat.not_le.mp hstart

theorem daysBeforeMonth_succ (leap : Bool) {m : Nat} (h : 1 ≤ m) :
    daysBeforeMonth leap (m + 1) = daysBeforeMonth leap m + monthLength leap m := by
  obtain ⟨k, rfl⟩ : ∃ k, m = k + 1 := ⟨m - 1, by omega⟩
  rfl

theorem daysBeforeMonth_thirteen (leap : Bool) : daysBeforeMonth leap 13 = yearLength leap := by
  cases leap <;> rfl

/-- Of a year's twelve months the one that is found holds the day. -/
theorem monthOf_bounds {leap : Bool} {n : Nat} (h : n < yearLength leap) :
    1 ≤ monthOf leap n 12 ∧ monthOf leap n 12 ≤ 12 ∧
      daysBeforeMonth leap (monthOf leap n 12) ≤ n ∧
      n < daysBeforeMonth leap (monthOf leap n 12) + monthLength leap (monthOf leap n 12) := by
  obtain ⟨hone, hle, hbefore, hnext⟩ := monthOf_spec leap n 11
  change 1 ≤ monthOf leap n 12 at hone
  change monthOf leap n 12 ≤ 12 at hle
  refine ⟨hone, hle, hbefore, ?_⟩
  rw [← daysBeforeMonth_succ leap hone]
  by_cases hlast : monthOf leap n 12 ≤ 11
  · exact hnext hlast
  · have hdecember : monthOf leap n 12 = 12 := by omega
    rwa [hdecember, daysBeforeMonth_thirteen]

/-! ## Days -/

/-- What is left of a number of days after the whole years lies within a year. -/
theorem inYear_lt (n : Int) :
    0 ≤ n - daysBeforeYear (yearOf n) ∧
      (n - daysBeforeYear (yearOf n)).toNat < yearLength (isLeap (yearOf n)) := by
  obtain ⟨hstart, hend⟩ := yearOf_spec n
  rw [daysBeforeYear_succ] at hend
  omega

/-- Every number of days is that of a day. -/
theorem isDay_ofDays (n : Int) : (ofDays n).IsDay := by
  obtain ⟨hone, hle, hbefore, hafter⟩ := monthOf_bounds (inYear_lt (n + daysBeforeYear 1970)).2
  refine ⟨hone, hle, ?_, ?_⟩
  · exact Nat.le_add_left 1 _
  · simp only [ofDays]
    omega

theorem daysBeforeYear_mono {a b : Int} (h : a ≤ b) : daysBeforeYear a ≤ daysBeforeYear b := by
  unfold daysBeforeYear
  omega

/-- The year of a day is told from the first days of years. -/
theorem year_ofDays_lt_iff (n year : Int) :
    (ofDays n).year < year ↔ n + daysBeforeYear 1970 < daysBeforeYear year := by
  obtain ⟨hstart, hend⟩ := yearOf_spec (n + daysBeforeYear 1970)
  change yearOf (n + daysBeforeYear 1970) < year ↔ _
  constructor
  · intro hlt
    exact Int.lt_of_lt_of_le hend (daysBeforeYear_mono (Int.add_one_le_of_lt hlt))
  · intro hlt
    refine Int.not_le.mp fun hle => ?_
    have hmono := daysBeforeYear_mono hle
    omega

/-- The days of the years with four digits at most are those from 0000-01-01 to 9999-12-31. -/
theorem year_ofDays_mem_iff (n : Int) :
    (0 ≤ (ofDays n).year ∧ (ofDays n).year ≤ 9999) ↔ (-719528 ≤ n ∧ n < 2932897) := by
  have hfirst := year_ofDays_lt_iff n 0
  have hlast := year_ofDays_lt_iff n 10000
  have hzero : daysBeforeYear 0 = daysBeforeYear 1970 - 719528 := by decide
  have hend : daysBeforeYear 10000 = daysBeforeYear 1970 + 2932897 := by decide
  omega

/-- The day with a number has that number. -/
theorem toDays_ofDays (n : Int) : (ofDays n).toDays = n := by
  obtain ⟨hpositive, hlength⟩ := inYear_lt (n + daysBeforeYear 1970)
  obtain ⟨_, _, hbefore, _⟩ := monthOf_bounds hlength
  simp only [ofDays, toDays]
  omega

/-! ## Dates -/

/-- A number of days from the first of a year on and before the next year lies in that year. -/
theorem yearOf_eq {n year : Int} (hstart : daysBeforeYear year ≤ n)
    (hend : n < daysBeforeYear (year + 1)) : yearOf n = year := by
  obtain ⟨hfrom, huntil⟩ := yearOf_spec n
  rcases Int.lt_trichotomy (yearOf n) year with hlt | heq | hgt
  · have hmono := daysBeforeYear_mono (Int.add_one_le_of_lt hlt)
    omega
  · exact heq
  · have hmono := daysBeforeYear_mono (Int.add_one_le_of_lt hgt)
    omega

theorem daysBeforeMonth_mono (leap : Bool) {a b : Nat} (h : a ≤ b) :
    daysBeforeMonth leap a ≤ daysBeforeMonth leap b := by
  induction h with
  | refl => exact Nat.le_refl _
  | @step m _ ih =>
    apply Nat.le_trans ih
    cases m with
    | zero => exact Nat.zero_le _
    | succ m =>
      rw [daysBeforeMonth_succ leap (Nat.le_add_left 1 m)]
      exact Nat.le_add_right _ _

/-- A day of a month lies within the year. -/
theorem dayOfYear_lt {leap : Bool} {month day : Nat} (hone : 1 ≤ month) (hle : month ≤ 12)
    (hday : day < monthLength leap month) :
    daysBeforeMonth leap month + day < yearLength leap := by
  have hnext := daysBeforeMonth_mono leap (Nat.succ_le_succ hle)
  rw [daysBeforeMonth_succ leap hone, daysBeforeMonth_thirteen] at hnext
  omega

/-- The month of a day is the one that it was counted in. -/
theorem monthOf_eq {leap : Bool} {month day : Nat} (hone : 1 ≤ month) (hle : month ≤ 12)
    (hday : day < monthLength leap month) :
    monthOf leap (daysBeforeMonth leap month + day) 12 = month := by
  obtain ⟨hfirst, _, hfrom, huntil⟩ := monthOf_bounds (dayOfYear_lt hone hle hday)
  generalize monthOf leap (daysBeforeMonth leap month + day) 12 = found at *
  rw [← daysBeforeMonth_succ leap hfirst] at huntil
  rcases Nat.lt_trichotomy found month with hlt | heq | hgt
  · have hmono := daysBeforeMonth_mono leap (show found + 1 ≤ month from hlt)
    omega
  · exact heq
  · have hmono := daysBeforeMonth_mono leap (show month + 1 ≤ found from hgt)
    rw [daysBeforeMonth_succ leap hone] at hmono
    omega

/-- A day of the calendar is the one with its number. -/
theorem ofDays_toDays {d : Date} (h : d.IsDay) : ofDays d.toDays = d := by
  obtain ⟨year, month, day⟩ := d
  obtain ⟨hone, hle, hpositive, hlength⟩ := h
  dsimp only at hone hle hpositive hlength
  have hday : day - 1 < monthLength (isLeap year) month := by omega
  have hinYear := dayOfYear_lt hone hle hday
  have hsum : toDays ⟨year, month, day⟩ + daysBeforeYear 1970 =
      daysBeforeYear year + (daysBeforeMonth (isLeap year) month + (day - 1) : Nat) := by
    simp only [toDays]
    omega
  have hyear : yearOf (toDays ⟨year, month, day⟩ + daysBeforeYear 1970) = year := by
    rw [hsum]
    apply yearOf_eq
    · omega
    · rw [daysBeforeYear_succ]
      omega
  have hleft : (toDays ⟨year, month, day⟩ + daysBeforeYear 1970 - daysBeforeYear year).toNat =
      daysBeforeMonth (isLeap year) month + (day - 1) := by
    omega
  simp only [ofDays, hyear, hleft, monthOf_eq hone hle hday]
  congr 1
  omega

def next (d : Date) : Date :=
  if d.day < monthLength (isLeap d.year) d.month then ⟨d.year, d.month, d.day + 1⟩
  else if d.month < 12 then ⟨d.year, d.month + 1, 1⟩
  else ⟨d.year + 1, 1, 1⟩

theorem monthLength_pos (leap : Bool) (month : Nat) : 1 ≤ monthLength leap month := by
  unfold monthLength
  split
  · split <;> decide
  all_goals decide

/-- Days are counted one by one, over the ends of months and years. -/
theorem toDays_next {d : Date} (h : d.IsDay) : d.next.IsDay ∧ d.next.toDays = d.toDays + 1 := by
  obtain ⟨hone, hle, hpositive, hlength⟩ := h
  unfold next
  split
  · rename_i hinner
    refine ⟨⟨hone, hle, Nat.le_add_left 1 _, hinner⟩, ?_⟩
    simp only [toDays]
    omega
  · rename_i hlast
    have hdays := daysBeforeMonth_succ (isLeap d.year) hone
    split
    · rename_i hmonth
      refine ⟨⟨Nat.le_add_left 1 _, hmonth, Nat.le_refl 1, monthLength_pos _ _⟩, ?_⟩
      simp only [toDays]
      omega
    · rename_i hdecember
      have hmonth : d.month = 12 := by omega
      have hyear := daysBeforeYear_succ d.year
      have hfirst : daysBeforeMonth (isLeap (d.year + 1)) 1 = 0 := rfl
      rw [hmonth, daysBeforeMonth_thirteen] at hdays
      rw [hmonth] at hlast hlength
      refine ⟨⟨Nat.le_refl 1, show 1 ≤ 12 by decide, Nat.le_refl 1, monthLength_pos _ _⟩, ?_⟩
      simp only [toDays, hfirst, hmonth]
      omega

end Date

namespace ClockTime

/-- The clock at a number of seconds shows that number. -/
theorem toEpoch_ofEpoch (epoch : Int) (nanos : Nat) : (ofEpoch epoch nanos).toEpoch = epoch := by
  simp only [ofEpoch, toEpoch, Date.toDays_ofDays]
  omega

/-- A time of a day of the calendar is what a clock shows at its number of seconds. -/
theorem ofEpoch_toEpoch {c : ClockTime} (hdate : c.date.IsDay) (hhour : c.hour ≤ 23)
    (hminute : c.minute ≤ 59) (hsecond : c.second ≤ 59) : ofEpoch c.toEpoch c.nanos = c := by
  obtain ⟨date, hour, minute, second, nanos⟩ := c
  dsimp only at *
  have hdays : (86400 * date.toDays + (3600 * hour + 60 * minute + second : Nat)) / 86400 =
      date.toDays := by
    omega
  have hofDay : ((86400 * date.toDays + (3600 * hour + 60 * minute + second : Nat)) %
      86400).toNat = 3600 * hour + 60 * minute + second := by
    omega
  simp only [ofEpoch, toEpoch, hdays, hofDay, Date.ofDays_toDays hdate]
  congr 1 <;> omega

end ClockTime

end HistorySearch
