/-
Calendar dates of the Gregorian calendar, extended to all years.

* `Date`: a year, a month and a day that exist.
* `Date.of?`, `Date.ofDayOfYear?`: the date of a year, month and day, and of
  a year and day of the year.
* `Date.dayOfYear`, `Date.weekday`: counted from one, and from Monday.
* `Date.text`: a date in digits.
* `Date.month_le`: the months of dates are the twelve.

Assumed of dates in `chrono` 0.4: they have the years from -262143 to 262142, and are
written as `%Y-%m-%d`, where a year below 0 or above 9999 has a sign.
-/
import RowFilter.Text.Decimal

namespace RowFilter

/-- Years divisible by 4 have a leap day, but of the full centuries only
those divisible by 400. -/
def isLeapYear (y : Int) : Bool :=
  y % 4 == 0 && (y % 100 != 0 || y % 400 == 0)

/-- The number of days of a month. What is no month has none. -/
def daysInMonth (y : Int) : Nat → Nat
  | 2 => if isLeapYear y then 29 else 28
  | 4 | 6 | 9 | 11 => 30
  | 1 | 3 | 5 | 7 | 8 | 10 | 12 => 31
  | _ => 0

/-- A day that exists, in a year that can be represented. -/
def IsDate (y : Int) (m d : Nat) : Prop :=
  -262143 ≤ y ∧ y ≤ 262142 ∧ 1 ≤ d ∧ d ≤ daysInMonth y m

instance (y : Int) (m d : Nat) : Decidable (IsDate y m d) :=
  inferInstanceAs (Decidable (_ ∧ _ ∧ _ ∧ _))

/-- A date of the calendar. -/
structure Date where
  year : Int
  month : Nat
  day : Nat
  exists_day : IsDate year month day
deriving DecidableEq

namespace Date

/-- The date of a year, month and day, if there is one. -/
def of? (y : Int) (m d : Nat) : Option Date :=
  if h : IsDate y m d then some ⟨y, m, d, h⟩ else none

/-- A date is found again by its year, month and day. -/
@[simp] theorem of?_self (d : Date) : of? d.year d.month d.day = some d := by
  simp [of?, d.exists_day]

/-- The months of dates are the twelve. -/
theorem month_le (d : Date) : 1 ≤ d.month ∧ d.month ≤ 12 := by
  obtain ⟨y, m, k, h⟩ := d
  obtain ⟨_, _, lo, hi⟩ := h
  by_cases hm : 1 ≤ m ∧ m ≤ 12
  · exact hm
  · have none : daysInMonth y m = 0 := by
      unfold daysInMonth
      split <;> first | rfl | (exfalso; omega)
    omega

/-- The number of days of a year before a month. -/
def daysBefore (y : Int) : Nat → Nat
  | 0 => 0
  | m + 1 => daysBefore y m + daysInMonth y m

/-- The day of the year, counted from one. -/
def dayOfYear (d : Date) : Nat := daysBefore d.year d.month + d.day

/-- The date of a year and a day of the year, if there is one. -/
def ofDayOfYear? (y : Int) (n : Nat) : Option Date :=
  (List.range' 1 12).findSome? fun m =>
    if daysBefore y m < n then of? y m (n - daysBefore y m) else none

/-- The number of days from the last day before year one. -/
def dayNumber (d : Date) : Int :=
  let y := d.year - 1
  365 * y + y / 4 - y / 100 + y / 400 + d.dayOfYear

/-- The day of the week, counted from Monday as zero. -/
def weekday (d : Date) : Nat := ((d.dayNumber - 1) % 7).toNat

/-- A year in digits: four of them from 0 to 9999, and beyond a sign and at
least four digits. -/
def yearText (y : Int) : String :=
  let digits := padLeft 4 '0' (toString y.natAbs)
  if y < 0 then "-" ++ digits
  else if 9999 < y then "+" ++ digits
  else digits

/-- A date in digits: year, month and day. -/
def text (d : Date) : String :=
  yearText d.year ++ "-" ++ padLeft 2 '0' (toString d.month) ++ "-"
    ++ padLeft 2 '0' (toString d.day)

end Date

end RowFilter
