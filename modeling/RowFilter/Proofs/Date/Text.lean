/-
What a date in digits looks like.

* `ofSignedDigits_yearText`: the digits of a year, with their sign, stand for it.
* `Date.toList_text`: a date is its year, month and day with hyphens between them, and
  `Date.month_lt`, `Date.day_lt`: month and day have two digits each.
* `Date.mem_text`: a date consists of digits and signs.
* `Date.text_injective`: different dates look different.
-/
import Mathlib.Algebra.Ring.Nat
import Mathlib.Tactic.Common
import RowFilter.Date

namespace RowFilter

/-! ### Digits -/

/-- A number filled up with zeros consists of digits. -/
lemma isDigit_of_mem_padLeft {width n : Nat} {c : Char}
    (h : c ∈ (padLeft width '0' (toString n)).toList) : c.isDigit = true := by
  rw [toList_padLeft, toList_toString, List.mem_append] at h
  rcases h with zero | digit
  · rw [List.eq_of_mem_replicate zero]
    rfl
  · exact isDigit_of_mem_toDigits digit

/-- A number of no more digits than the width is filled up to the width. -/
lemma length_padLeft_of_lt {width n : Nat} (pos : 0 < width) (h : n < 10 ^ width) :
    (padLeft width '0' (toString n)).toList.length = width := by
  have short : (Nat.toDigits 10 n).length ≤ width :=
    (Nat.length_toDigits_le_iff (by decide) pos).mpr h
  have digits : (toString n).length = (Nat.toDigits 10 n).length := by
    rw [← String.length_toList, toList_toString]
  rw [String.length_toList, length_padLeft, digits]
  omega

/-- A number filled up with zeros has a digit. -/
lemma padLeft_ne_nil (width n : Nat) : (padLeft width '0' (toString n)).toList ≠ [] := by
  rw [toList_padLeft, toList_toString]
  exact fun h => Nat.toDigits_ne_nil (List.append_eq_nil_iff.mp h).2

namespace Date

/-- A year is its digits, behind a sign if it has not four of them. -/
lemma toList_yearText (y : Int) :
    (yearText y).toList =
      (if y < 0 then ['-'] else if 9999 < y then ['+'] else []) ++
        (padLeft 4 '0' (toString y.natAbs)).toList := by
  simp only [yearText]
  split_ifs <;> simp

lemma yearText_ne_nil (y : Int) : (yearText y).toList ≠ [] := by
  rw [toList_yearText]
  exact fun h => padLeft_ne_nil 4 y.natAbs (List.append_eq_nil_iff.mp h).2

/-- The digits of a year, with their sign, stand for it. -/
lemma ofSignedDigits_yearText (y : Int) : ofSignedDigits (yearText y).toList = y := by
  have value := ofDigits_padLeft 4 y.natAbs
  rw [toList_yearText]
  split_ifs with negative large
  · rw [List.singleton_append, ofSignedDigits, value]
    omega
  · rw [List.singleton_append, ofSignedDigits, value]
    omega
  · have digits := ofSignedDigits_of_isDigit (padLeft_ne_nil 4 y.natAbs) fun c hc =>
      isDigit_of_mem_padLeft hc
    rw [List.nil_append, digits, value]
    omega

/-! ### Dates -/

/-- A date is its year, month and day, with hyphens between them. -/
lemma toList_text (d : Date) :
    d.text.toList = (yearText d.year).toList ++
      '-' :: ((padLeft 2 '0' (toString d.month)).toList ++
        '-' :: (padLeft 2 '0' (toString d.day)).toList) := by
  simp [text]

lemma daysInMonth_le (y : Int) (m : Nat) : daysInMonth y m ≤ 31 := by
  unfold daysInMonth
  split
  · split_ifs <;> omega
  all_goals omega

/-- The month of a date has two digits. -/
lemma month_lt (d : Date) : d.month < 100 := by
  have month := d.month_le.2
  omega

/-- The day of a date has two digits. -/
lemma day_lt (d : Date) : d.day < 100 := by
  have day := d.exists_day.2.2.2
  have days := daysInMonth_le d.year d.month
  omega

/-- A date consists of digits and signs. -/
lemma mem_text {d : Date} {c : Char} (h : c ∈ d.text.toList) :
    c.isDigit = true ∨ c = '-' ∨ c = '+' := by
  have year : c ∈ (yearText d.year).toList → c.isDigit = true ∨ c = '-' ∨ c = '+' := by
    intro h
    rw [toList_yearText, List.mem_append] at h
    rcases h with sign | digit
    · split_ifs at sign
      · exact .inr (.inl (List.mem_singleton.mp sign))
      · exact .inr (.inr (List.mem_singleton.mp sign))
      · cases sign
    · exact .inl (isDigit_of_mem_padLeft digit)
  rw [toList_text] at h
  simp only [List.mem_append, List.mem_cons] at h
  rcases h with h | rfl | h | rfl | h
  · exact year h
  · exact .inr (.inl rfl)
  · exact .inl (isDigit_of_mem_padLeft h)
  · exact .inr (.inl rfl)
  · exact .inl (isDigit_of_mem_padLeft h)

/-- Different dates look different. -/
theorem text_injective : Function.Injective text := by
  intro d d' h
  -- behind the year stand six characters
  have width : ∀ d : Date, (padLeft 2 '0' (toString d.month)).toList.length = 2 ∧
      (padLeft 2 '0' (toString d.day)).toList.length = 2 := by
    intro d
    exact ⟨length_padLeft_of_lt (by decide) d.month_lt,
      length_padLeft_of_lt (by decide) d.day_lt⟩
  obtain ⟨month_width, day_width⟩ := width d
  obtain ⟨month_width', day_width'⟩ := width d'
  have shown := congrArg String.toList h
  rw [toList_text, toList_text] at shown
  obtain ⟨years, rest⟩ := List.append_inj' shown (by
    simp only [List.length_cons, List.length_append, month_width, day_width, month_width',
      day_width'])
  obtain ⟨months, rest⟩ :=
    List.append_inj (List.cons.inj rest).2 (month_width.trans month_width'.symm)
  have days := (List.cons.inj rest).2
  have year : d.year = d'.year := by
    rw [← ofSignedDigits_yearText d.year, years, ofSignedDigits_yearText]
  have month : d.month = d'.month := by
    rw [← ofDigits_padLeft 2 d.month, months, ofDigits_padLeft]
  have day : d.day = d'.day := by
    rw [← ofDigits_padLeft 2 d.day, days, ofDigits_padLeft]
  cases d
  cases d'
  cases year
  cases month
  cases day
  rfl

end Date

end RowFilter
