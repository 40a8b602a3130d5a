/-
Dates in digits are read back.

* `readNumeral_padLeft`: a number in front of something else is read as itself.
* `DateNumber.read_yearText`, `DateNumber.read_twoDigits`: so are the year, behind its
  sign if it has one, and the month and the day.
* `DatePattern.parse_text`: a date in digits is read as this date, by the pattern of
  year, month and day.
* `Schema.readDate_display`: schemas with this pattern read what is shown of a date, and a
  filter that compares a column with it has this date as its only value.
-/
import RowFilter.Proofs.CommandAgreement
import RowFilter.Proofs.Date.Text
import RowFilter.Proofs.Provenance
import RowFilter.Proofs.Written.ReadBack

namespace RowFilter

/-! ### Numbers -/

/-- A number filled up with zeros is read as itself, if all its digits are taken and no
digit follows. -/
lemma readNumeral_padLeft {limit : Option Nat} {width n : Nat} {rest : List Char}
    (short : ∀ k ∈ limit, (padLeft width '0' (toString n)).toList.length ≤ k)
    (fits : n ≤ int64Max) (stop : ∀ c ∈ rest.head?, c.isDigit = false) :
    readNumeral limit ((padLeft width '0' (toString n)).toList ++ rest) = .ok (n, rest) := by
  have nonempty := padLeft_ne_nil width n
  have value := ofDigits_padLeft width n
  have digits : (padLeft width '0' (toString n)).toList.takeWhile Char.isDigit =
      (padLeft width '0' (toString n)).toList :=
    List.takeWhile_eq_self_iff.mpr fun _ => isDigit_of_mem_padLeft
  generalize (padLeft width '0' (toString n)).toList = ds at *
  have front : leadingDigits limit (ds ++ rest) = ds := by
    unfold leadingDigits
    rw [takeWhile_isDigit_append stop, digits]
    cases limit with
    | none => rfl
    | some k => exact List.take_of_length_le (short k rfl)
  simp [readNumeral, front, nonempty, value, fits]

/-- A number filled up with zeros begins with a digit. -/
lemma isDigit_of_head?_padLeft {width n : Nat} {rest : List Char} {c : Char}
    (h : c ∈ ((padLeft width '0' (toString n)).toList ++ rest).head?) : c.isDigit = true := by
  rw [List.head?_append_of_ne_nil _ (padLeft_ne_nil width n)] at h
  exact isDigit_of_mem_padLeft (List.mem_of_mem_head? h)

/-- There are no blanks in front of a number filled up with zeros. -/
lemma skipBlanks_padLeft (width n : Nat) (rest : List Char) :
    skipBlanks ((padLeft width '0' (toString n)).toList ++ rest) =
      (padLeft width '0' (toString n)).toList ++ rest := by
  cases shape : (padLeft width '0' (toString n)).toList ++ rest with
  | nil => rfl
  | cons c cs =>
      have digit : c.isDigit = true := isDigit_of_head?_padLeft (by rw [shape]; rfl)
      exact List.dropWhile_cons_of_neg (by simp [isBlank_eq_false_of_isDigit digit])

namespace DateNumber

variable {s rest : List Char}

lemma read_minus (h : skipBlanks s = '-' :: rest) :
    DateNumber.year.read s = (readNumeral none rest).map fun r => (-(r.1 : Int), r.2) := by
  simp only [DateNumber.read, h]

lemma read_plus (h : skipBlanks s = '+' :: rest) :
    DateNumber.year.read s = (readNumeral none rest).map fun r => ((r.1 : Int), r.2) := by
  simp only [DateNumber.read, h]

/-- A year that begins with a digit has no sign. -/
lemma read_unsigned (h : ∀ c ∈ (skipBlanks s).head?, c.isDigit = true) :
    DateNumber.year.read s =
      (readNumeral (some 4) (skipBlanks s)).map fun r => ((r.1 : Int), r.2) := by
  unfold DateNumber.read
  split <;> simp_all

lemma read_two {n : DateNumber} (two : n = .month ∨ n = .day) (s : List Char) :
    n.read s = (readNumeral (some 2) (skipBlanks s)).map fun r => ((r.1 : Int), r.2) := by
  rcases two with rfl | rfl <;> rfl

/-- A month or a day in two digits is read as itself. -/
lemma read_twoDigits {n : DateNumber} (two : n = .month ∨ n = .day) {k : Nat} (small : k < 100)
    (stop : ∀ c ∈ rest.head?, c.isDigit = false) :
    n.read ((padLeft 2 '0' (toString k)).toList ++ rest) = .ok ((k : Int), rest) := by
  have short : ∀ w ∈ some 2, (padLeft 2 '0' (toString k)).toList.length ≤ w := by
    rintro w ⟨⟩
    exact (length_padLeft_of_lt (by decide) small).le
  have fits : k ≤ int64Max := small.le.trans (by decide)
  rw [read_two two, skipBlanks_padLeft, readNumeral_padLeft short fits stop]
  rfl

/-- A year is read as itself, with four digits or behind its sign. -/
lemma read_yearText {y : Int} (fits : y.natAbs ≤ int64Max)
    (stop : ∀ c ∈ rest.head?, c.isDigit = false) :
    DateNumber.year.read ((Date.yearText y).toList ++ rest) = .ok (y, rest) := by
  have all : readNumeral none ((padLeft 4 '0' (toString y.natAbs)).toList ++ rest) =
      .ok (y.natAbs, rest) := readNumeral_padLeft (fun _ => nofun) fits stop
  rw [Date.toList_yearText]
  -- behind a sign all digits are taken, without one at most four, which is all there are
  split_ifs with negative large
  · have value : -(y.natAbs : Int) = y := by omega
    rw [List.singleton_append, List.cons_append, read_minus rfl, all, Except.map, value]
  · have value : (y.natAbs : Int) = y := by omega
    rw [List.singleton_append, List.cons_append, read_plus rfl, all, Except.map, value]
  · have value : (y.natAbs : Int) = y := by omega
    have short : ∀ w ∈ some 4, (padLeft 4 '0' (toString y.natAbs)).toList.length ≤ w := by
      rintro w ⟨⟩
      exact (length_padLeft_of_lt (by decide) (by omega)).le
    have skip := skipBlanks_padLeft 4 y.natAbs rest
    rw [List.nil_append, read_unsigned, skip, readNumeral_padLeft short fits stop, Except.map,
      value]
    rw [skip]
    exact fun c => isDigit_of_head?_padLeft

end DateNumber

/-! ### Dates -/

/-- The written form of year, month and day stands for the pattern of these. -/
lemma DatePattern.ofText_isoText : ofText isoText = iso := by decide +kernel

namespace DateReadings

variable {r : DateReadings}

/-- A year of 32 bits is noted, if there is none yet. -/
lemma note_year {y : Int} (fresh : r.year = none) (fits : FitsInt32 y) :
    r.note y .year = .ok { r with year := some y } := by
  simp [note, agree, fresh, fits, bind, Except.bind, pure, Except.pure]

/-- One of the twelve months is noted, if there is none yet. -/
lemma note_month {m : Nat} (fresh : r.month = none) (lo : 1 ≤ m) (hi : m ≤ 12) :
    r.note m .month = .ok { r with month := some m } := by
  have range : inRange 1 12 m = .ok m := if_pos ⟨by omega, by omega⟩
  simp [note, agree, fresh, range, bind, Except.bind, pure, Except.pure]

/-- A day from 1 to 31 is noted, if there is none yet. -/
lemma note_day {k : Nat} (fresh : r.day = none) (lo : 1 ≤ k) (hi : k ≤ 31) :
    r.note k .day = .ok { r with day := some k } := by
  have range : inRange 1 31 k = .ok k := if_pos ⟨by omega, by omega⟩
  simp [note, agree, fresh, range, bind, Except.bind, pure, Except.pure]

/-- The year, month and day of a date give this date. -/
lemma toDate_of_date (d : Date) :
    toDate { year := some d.year, month := some d.month, day := some d.day } = .ok d := by
  simp [toDate, fullYear, holds, bind, Except.bind, pure, Except.pure]

end DateReadings

namespace DatePattern

variable {items : DatePattern} {r r' : DateReadings} {s rest : List Char}

/-- A number is read and noted, and then the other items are read. -/
lemma readItems_number {n : DateNumber} {v : Int} (read : n.read s = .ok (v, rest))
    (noted : r.note v n = .ok r') :
    readItems (.number n :: items) (r, s) = items.readItems (r', rest) := by
  simp [readItems, DateItem.read, read, noted, bind, Except.bind, pure, Except.pure]

/-- A character that stands in the pattern is passed over. -/
lemma readItems_literal (c : Char) :
    readItems (.literal [c] :: items) (r, c :: rest) = items.readItems (r, rest) := by
  have long : ¬byteLength (c :: rest) < byteLength [c] := by
    simp [byteLength]
  simp [readItems, DateItem.read, long, bind, Except.bind]

/-- The year, month and day of a date in digits are read. -/
lemma readItems_text (d : Date) :
    iso.readItems ({}, d.text.toList) =
      .ok ({ year := some d.year, month := some d.month, day := some d.day }, []) := by
  obtain ⟨lo, hi, first, last⟩ := d.exists_day
  have days := Date.daysInMonth_le d.year d.month
  obtain ⟨january, december⟩ := d.month_le
  have hyphen : ∀ rest, ∀ c ∈ ('-' :: rest : List Char).head?, c.isDigit = false := by
    rintro rest c ⟨⟩
    rfl
  have year := fun rest => DateNumber.read_yearText (y := d.year)
    (by unfold int64Max; omega) (hyphen rest)
  have month := fun rest => DateNumber.read_twoDigits (.inl rfl) d.month_lt (hyphen rest)
  have day := @DateNumber.read_twoDigits [] .day (.inr rfl) d.day d.day_lt (fun _ => nofun)
  rw [List.append_nil] at day
  have fits : FitsInt32 d.year := by
    unfold FitsInt32 int32Max
    omega
  rw [Date.toList_text, iso,
    readItems_number (year _) (DateReadings.note_year rfl fits), readItems_literal,
    readItems_number (month _) (DateReadings.note_month rfl january december),
    readItems_literal,
    readItems_number day (DateReadings.note_day rfl first (last.trans days))]
  rfl

/-- A date in digits is read as this date. -/
theorem parse_text (d : Date) : iso.parse d.text = .ok d := by
  simp [parse, readItems_text, DateReadings.toDate_of_date, bind, Except.bind]

end DatePattern

/-! ### Filters with a date -/

/-- A schema reads dates as it was made to. -/
lemma Schema.readDate_of {table : String} {decls : List (String × ValueType)}
    {readDate : DateReader} {s : Schema} (h : Schema.of table decls readDate = .ok s) :
    s.readDate = readDate := by
  unfold Schema.of at h
  split at h
  · cases h
  · split at h
    · cases h
    · cases h
      rfl

/-- The filter that compares a field with a date as it is shown. -/
def onDateText (name : String) (d : Date) : String :=
  "EQ(" ++ name ++ ", DATE(\"" ++ (SqlValue.date d).display ++ "\"))"

/-- What this filter is written with. -/
def onDateLexemes (name : String) (d : Date) : List Lexeme :=
  Lexeme.call .equal [[.symbol name], Lexeme.call .date [[.string d.text]]]

/-- Nothing in a date has to be escaped. -/
lemma flatMap_escape_text (d : Date) : d.text.toList.flatMap escape = d.text.toList := by
  have kept : ∀ c ∈ d.text.toList, escape c = [c] := by
    intro c hc
    refine if_neg ?_
    rintro (rfl | rfl) <;> simpa using Date.mem_text hc
  calc d.text.toList.flatMap escape
      = d.text.toList.flatMap ([·]) := List.flatMap_congr kept
    _ = d.text.toList := List.flatMap_singleton' _

/-- The filter has a blank behind its comma. -/
lemma laidOut_onDateText (name : String) (d : Date) :
    filterVocabulary.LaidOut (onDateLexemes name d) (onDateText name d).toList := by
  have blank : ∀ c ∈ [' '], isBlank c = true := List.forall_mem_singleton.mpr (by decide)
  have date := Vocabulary.LaidOut.cons (l := .operator Operator.date.index) blank
    (filterVocabulary.laidOut_flatMap
      [.separator '(', .string d.text, .separator ')', .separator ')'])
  have whole := date.append_left
    [.operator Operator.equal.index, .separator '(', .symbol name, .separator ',']
  have equal_word : filterVocabulary.words[Operator.equal.index]?.getD "" = "EQ" := rfl
  have date_word : filterVocabulary.words[Operator.date.index]?.getD "" = "DATE" := rfl
  simpa [onDateText, onDateLexemes, SqlValue.display, Vocabulary.spell, flatMap_escape_text,
    Lexeme.call, Lexeme.enclosed, equal_word, date_word] using whole

namespace Expr

/-- The comparison of a column with a date. -/
def onDate (c : Column) (d : Date) : Expr :=
  .compare .equal (.column c ⟨0, 0⟩) (.literal (.date d) ⟨0, 0⟩) ⟨0, 0⟩

variable {s : Schema} {c : Column} {d : Date}

lemma typed_onDate (declared : s.Declares c) (dated : c.type = .date) : (onDate c d).Typed s :=
  .compare .equal _ (.column _ declared) (.literal (.date d) _) dated

lemma written_onDate (read : s.readDate d.text = .ok d) :
    Written s (onDate c d) (onDateLexemes c.name d) :=
  .compare .equal _ (.column c _) (.date _ read)

lemma expressible_onDate (read : s.readDate d.text = .ok d)
    (symbol : ∃ span, filterLexicon.tokenize c.name = .token ⟨.symbol c.name, span⟩ .done) :
    (onDate c d).Expressible s where
  numbers n hn := by simp [onDate, literals] at hn
  names c' hc' := by
    obtain rfl : c' = c := by simpa [onDate, columns] using hc'
    exact symbol
  dates d' hd' := by
    obtain rfl : d' = d := by simpa [onDate, literals] using hd'
    exact ⟨_, read⟩

end Expr

/-- **Printed dates are read back.** A schema whose dates are read by year, month and day
with hyphens between them reads what is shown of any date as this date. So a filter that
compares a date field with it is accepted, if the name of the field is read as one symbol
and there is room for the filter, as the comparison with this date, its only value. -/
theorem Schema.readDate_display {table : String} {decls : List (String × ValueType)}
    {s : Schema} (made : Schema.withDatePattern table decls DatePattern.isoText = .ok s)
    (d : Date) :
    s.readDate (SqlValue.date d).display = .ok d ∧
      ∀ (name : String) (c : Compiler), s.fieldType? name = some .date →
        (∃ span, filterLexicon.tokenize name = .token ⟨.symbol name, span⟩ .done) →
        c.schema = s → 2 ≤ c.maxDepth →
        (∀ max, c.maxLength = some max → (onDateText name d).length ≤ max) →
        ∃ e, c.parse (onDateText name d) = .ok e ∧
          e.spanless = .onDate ⟨s.table, name, .date⟩ d ∧ e.toSql.params = #[.date d] := by
  have read : s.readDate d.text = .ok d := by
    rw [readDate_of made, DatePattern.reader, DatePattern.ofText_isoText,
      DatePattern.parse_text]
    rfl
  refine ⟨read, fun name c declared symbol same deep short => ?_⟩
  have field : s.Declares ⟨s.table, name, .date⟩ := ⟨rfl, declared⟩
  obtain ⟨e, parsed, spans⟩ := (Compiler.parse_written (Expr.typed_onDate field rfl) rfl
    (Expr.expressible_onDate read symbol)).2 _ _ (Expr.written_onDate read)
    (laidOut_onDateText name d) c same deep short
  refine ⟨e, parsed, spans, Array.toList_inj.mp ?_⟩
  rw [Expr.toSql_params, ← Expr.parts_spanless, spans, Expr.parts_spanless]
  rfl

/-- The leap day of a year far back. -/
def distantLeapDay : Date := ⟨-12400, 2, 29, by decide⟩

/-- A year with a sign and five digits is read back. -/
theorem Schema.readDate_display_signed :
    Schema.withDatePattern "people" [("name", .string), ("born", .date)]
        DatePattern.isoText = .ok Compiler.people.schema ∧
      Compiler.people.schema.readDate "-12400-02-29" = .ok distantLeapDay ∧
      ∃ e, Compiler.people.parse "EQ(born, DATE(\"-12400-02-29\"))" = .ok e ∧
        e.toSql.params = #[.date distantLeapDay] := by
  have made : Schema.withDatePattern "people" [("name", .string), ("born", .date)]
      DatePattern.isoText = .ok Compiler.people.schema := rfl
  have shown : (SqlValue.date distantLeapDay).display = "-12400-02-29" := by decide +kernel
  have text : onDateText "born" distantLeapDay = "EQ(born, DATE(\"-12400-02-29\"))" := by
    rw [onDateText, shown]
    decide
  obtain ⟨read, filters⟩ := readDate_display made distantLeapDay
  rw [shown] at read
  obtain ⟨e, parsed, -, params⟩ := filters "born" Compiler.people (by decide)
    ⟨⟨0, 4⟩, by decide⟩ rfl (by decide) (fun _ => nofun)
  rw [text] at parsed
  exact ⟨made, read, e, parsed, params⟩

end RowFilter
