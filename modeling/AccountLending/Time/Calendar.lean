/-!
# Dates

Days are counted from the start of 1970, in the calendar of today carried back to the year 0 and
before.  A day is found by counting in years that begin in March, so that the leap day comes last:
400 such years have 146097 days.

* `dayOf`, `daysTo` — the day of a count, and the count of a day;
* `daysTo_dayOf` — no count is lost;
* `Day.isValid` — whether the calendar has a day;
* `digits` — a moment as fourteen digits.
-/

namespace AccountLending.Time

/-- A day of the calendar. -/
structure Day where
  year : Int
  month : Nat
  day : Nat
  deriving DecidableEq, Repr

/-- The number of days from March 1 of the year 0 to the start of 1970. -/
def epoch : Int := 719468

/-- The day that comes so many days after the start of 1970. -/
def dayOf (days : Int) : Day :=
  let shifted := days + epoch
  let dayOfEra := (shifted % 146097).toNat
  -- leap days are taken out first, so that every year has 365 days
  let yearOfEra := (dayOfEra - dayOfEra / 1460 + dayOfEra / 36524 - dayOfEra / 146096) / 365
  let dayOfYear := dayOfEra - (365 * yearOfEra + yearOfEra / 4 - yearOfEra / 100)
  -- from March on, every five months have 153 days
  let monthFromMarch := (5 * dayOfYear + 2) / 153
  let year := yearOfEra + shifted / 146097 * 400
  { year := if monthFromMarch < 10 then year else year + 1
    month := if monthFromMarch < 10 then monthFromMarch + 3 else monthFromMarch - 9
    day := dayOfYear - (153 * monthFromMarch + 2) / 5 + 1 }

/-- The number of days from the start of 1970 to a day. -/
def daysTo (date : Day) : Int :=
  let year := if date.month ≤ 2 then date.year - 1 else date.year
  let monthFromMarch := if date.month ≤ 2 then date.month + 9 else date.month - 3
  let dayOfYear := (153 * monthFromMarch + 2) / 5 + date.day - 1
  year * 365 + year / 4 - year / 100 + year / 400 + dayOfYear - epoch

example : dayOf 0 = ⟨1970, 1, 1⟩ ∧ dayOf 11016 = ⟨2000, 2, 29⟩ ∧
    dayOf 47117 = ⟨2099, 1, 1⟩ := by
  decide
example : daysTo ⟨1970, 1, 1⟩ = 0 ∧ daysTo ⟨2000, 2, 29⟩ = 11016 ∧
    daysTo ⟨0, 1, 1⟩ = -719528 := by
  decide
example : dayOf (-1) = ⟨1969, 12, 31⟩ ∧ dayOf (-719469) = ⟨0, 2, 29⟩ := by decide

/-- The day of the year that is left when the years before it are taken away. -/
theorem yearOfEra_bounds {d y : Nat} (hd : d < 146097)
    (hy : (d - d / 1460 + d / 36524 - d / 146096) / 365 = y) :
    365 * y + y / 4 - y / 100 ≤ d ∧ d - (365 * y + y / 4 - y / 100) ≤ 365 := by
  obtain hlast | rfl : d / 146096 = 0 ∨ d = 146096 := by omega
  · obtain ⟨h, hh⟩ : ∃ h, d / 1460 = h := ⟨_, rfl⟩
    obtain ⟨b, hb⟩ : ∃ b, y / 4 = b := ⟨_, rfl⟩
    rw [hh, hlast] at hy
    rw [hb]
    have hlow : 365 * y ≤ d - h + d / 36524 := by omega
    have hhigh : d - h + d / 36524 < 365 * y + 365 := by omega
    have hf : d / 36524 = 0 ∨ d / 36524 = 1 ∨ d / 36524 = 2 ∨ d / 36524 = 3 := by omega
    rcases hf with hf | hf | hf | hf
    all_goals
      rw [hf] at hlow hhigh
      have hcentury : y / 100 + 1 = d / 36524 ∨ y / 100 = d / 36524 ∨ y / 100 = d / 36524 + 1 := by
        omega
      have hfour : h = b ∨ h = b + 1 ∨ h + 1 = b := by omega
      constructor <;> omega
  · obtain rfl : 399 = y := hy
    decide

/-- The days of the years of an era and of the year that has begun. -/
theorem era_sum {era year : Int} {y d t : Nat} (hyear : year = y + era * 400) (hy : y < 400)
    (hle : 365 * y + y / 4 - y / 100 ≤ d) (ht : d - (365 * y + y / 4 - y / 100) = t) :
    year * 365 + year / 4 - year / 100 + year / 400 + t = era * 146097 + d := by
  have h4 : year / 4 = (y / 4 : Nat) + era * 100 := by omega
  have h100 : year / 100 = (y / 100 : Nat) + era * 4 := by omega
  have h400 : year / 400 = era := by omega
  rw [h4, h100, h400, hyear]
  have : y / 100 ≤ y / 4 := by omega
  generalize y / 4 = a at *
  generalize y / 100 = b at *
  omega

/-- A day is counted as the number that it was found by. -/
theorem daysTo_dayOf (n : Int) : daysTo (dayOf n) = n := by
  obtain ⟨s, hs⟩ : ∃ s, n + epoch = s := ⟨_, rfl⟩
  obtain ⟨d, hd⟩ : ∃ d, (s % 146097).toNat = d := ⟨_, rfl⟩
  obtain ⟨y, hy⟩ : ∃ y, (d - d / 1460 + d / 36524 - d / 146096) / 365 = y := ⟨_, rfl⟩
  have hd' : d < 146097 := by omega
  have hsum : s / 146097 * 146097 + d = s := by omega
  have hbound := yearOfEra_bounds hd' hy
  have hy400 : y < 400 := by omega
  obtain ⟨t, ht⟩ : ∃ t, d - (365 * y + y / 4 - y / 100) = t := ⟨_, rfl⟩
  obtain ⟨year, hyear⟩ : ∃ year : Int, y + s / 146097 * 400 = year := ⟨_, rfl⟩
  have hera := era_sum hyear.symm hy400 hbound.1 ht
  rw [hsum] at hera
  obtain ⟨m, hm⟩ : ∃ m, (5 * t + 2) / 153 = m := ⟨_, rfl⟩
  have hday : (153 * m + 2) / 5 + (t - (153 * m + 2) / 5 + 1) - 1 = t := by omega
  simp only [daysTo, dayOf, hs, hd, hy, ht, hyear, hm]
  by_cases hlate : m < 10
  · have hback : m + 3 - 3 = m := by omega
    have hmonth : ¬ m + 3 ≤ 2 := by omega
    simp only [hlate, hmonth, if_true, if_false, hback, hday, hera]
    omega
  · have hback : m - 9 + 9 = m := by omega
    have hmonth : m - 9 ≤ 2 := by omega
    have hyear' : year + 1 - 1 = year := by omega
    simp only [hlate, hmonth, if_true, if_false, hback, hday, hyear', hera]
    omega
/-! ## The days of a month -/

/-- Whether a year has a leap day: every fourth year has one, but of the years that end a century
only every fourth. -/
def isLeapYear (year : Int) : Bool := year % 4 = 0 && (year % 100 ≠ 0 || year % 400 = 0)

/-- The number of days of a month. -/
def monthLength (year : Int) (month : Nat) : Nat :=
  if month = 2 then if isLeapYear year then 29 else 28
  else if month ∈ [4, 6, 9, 11] then 30 else 31

/-- Whether the calendar has a day. -/
def Day.isValid (date : Day) : Bool :=
  1 ≤ date.month && date.month ≤ 12 && 1 ≤ date.day && date.day ≤ monthLength date.year date.month

example : Day.isValid ⟨2000, 2, 29⟩ = true ∧ Day.isValid ⟨2100, 2, 29⟩ = false := by decide

/-! ## Moments as digits -/

/-- A number with at least so many digits. -/
def padded (width n : Nat) : List Char :=
  let digits := Nat.toDigits 10 n
  List.replicate (width - digits.length) '0' ++ digits

/-- A moment as fourteen digits: year, month, day, hour, minute and second. -/
def digits (seconds : Nat) : String :=
  let date := dayOf (seconds / 86400 : Nat)
  let rest := seconds % 86400
  String.ofList (padded 4 date.year.toNat ++ padded 2 date.month ++ padded 2 date.day
    ++ padded 2 (rest / 3600) ++ padded 2 (rest / 60 % 60) ++ padded 2 (rest % 60))

example : digits 951827696 = "20000229123456" := by decide +kernel

end AccountLending.Time
