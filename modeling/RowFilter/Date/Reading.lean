/-
Reading a date from a text by a pattern.

* `DateFault`: why a text is no date of a pattern.
* `DateReadings`: the numbers that the items of a pattern have read so far.
  A number that is read twice has to be the same.
* `DateItem.read`: reads one item from the front of a text.
* `DateReadings.toDate`: the one date that has all the numbers.
* `DatePattern.parse`: reads a whole text.

Assumed of dates in `chrono` 0.4 (`parse_from_str`): white space is skipped before a
number; `%Y` takes four digits at most, or any number of them behind a sign, `%j` three,
and the other numbers two; names are read whatever their case, and the rest of a long
name may be missing; what is read is checked against its range and then against what was
read before; the date comes from year, month and day, or else from year and day of the
year, and has to agree with everything that was read. The texts of the faults are those
of its parse errors.
-/
import RowFilter.Bounds
import RowFilter.Date
import RowFilter.Date.Pattern
import RowFilter.Text.Basic

namespace RowFilter

/-! ### Faults -/

/-- Why a text is no date of a pattern. -/
inductive DateFault where
  /-- The text ends before the pattern. -/
  | tooShort
  /-- A character does not fit the pattern. -/
  | invalid
  /-- A number lies outside its range, or the day does not exist. -/
  | outOfRange
  /-- Two numbers contradict each other. -/
  | impossible
  /-- The numbers leave the date open. -/
  | notEnough
  /-- The pattern has an item that means nothing. -/
  | badPattern
  /-- The pattern ends before the text. -/
  | trailing
deriving DecidableEq, Repr

/-- The fault in words. -/
def DateFault.message : DateFault → String
  | .tooShort => "premature end of input"
  | .invalid => "input contains invalid characters"
  | .outOfRange => "input is out of range"
  | .impossible => "no possible date and time matching input"
  | .notEnough => "input is not enough for unique date and time"
  | .badPattern => "bad or unsupported format string"
  | .trailing => "trailing input"

/-! ### Items -/

/-- The numbers that were read. -/
structure DateReadings where
  year : Option Int := none
  yearOfCentury : Option Nat := none
  month : Option Nat := none
  day : Option Nat := none
  dayOfYear : Option Nat := none
  weekday : Option Nat := none
deriving DecidableEq, Repr

/-- A number that is read again has to be the same. -/
def agree {α : Type} [DecidableEq α] (old : Option α) (new : α) :
    Except DateFault (Option α) :=
  if old.all (· = new) then .ok (some new) else .error .impossible

/-- A number has to lie in its range. -/
def inRange (lo hi : Nat) (n : Int) : Except DateFault Nat :=
  if lo ≤ n ∧ n ≤ hi then .ok n.toNat else .error .outOfRange

namespace DateReadings

/-- Notes a number. -/
def note (r : DateReadings) (n : Int) : DateNumber → Except DateFault DateReadings
  | .year => do
    if FitsInt32 n then
      pure { r with year := ← agree r.year n }
    else throw .outOfRange
  | .yearOfCentury => do
    let k ← inRange 0 99 n
    pure { r with yearOfCentury := ← agree r.yearOfCentury k }
  | .month => do
    let k ← inRange 1 12 n
    pure { r with month := ← agree r.month k }
  | .day => do
    let k ← inRange 1 31 n
    pure { r with day := ← agree r.day k }
  | .dayOfYear => do
    let k ← inRange 1 366 n
    pure { r with dayOfYear := ← agree r.dayOfYear k }

/-- Notes a name by its position. -/
def noteName (r : DateReadings) (k : Nat) : DateName → Except DateFault DateReadings
  | .month _ => do pure { r with month := ← agree r.month (k + 1) }
  | .weekday _ => do pure { r with weekday := ← agree r.weekday k }

end DateReadings

/-- The digits at the front of a text, at most `width` of them if there is a
width. -/
def leadingDigits (width : Option Nat) (s : List Char) : List Char :=
  let ds := s.takeWhile Char.isDigit
  match width with
  | some w => ds.take w
  | none => ds

/-- Reads a numeral of one digit or more. -/
def readNumeral (width : Option Nat) (s : List Char) :
    Except DateFault (Nat × List Char) :=
  let ds := leadingDigits width s
  if s.isEmpty then .error .tooShort
  else if ds.isEmpty then .error .invalid
  else if ofDigits ds ≤ int64Max then .ok (ofDigits ds, s.drop ds.length)
  else .error .outOfRange

/-- Reads a number, after blanks. Only a year may have a sign; with a sign
it may have any number of digits, without one four at most. -/
def DateNumber.read (n : DateNumber) (s : List Char) :
    Except DateFault (Int × List Char) :=
  let plain (width : Nat) (s : List Char) : Except DateFault (Int × List Char) :=
    (readNumeral (some width) s).map fun (v, rest) => ((v : Int), rest)
  match n, skipBlanks s with
  | .year, '-' :: s => (readNumeral none s).map fun (v, rest) => (-(v : Int), rest)
  | .year, '+' :: s => (readNumeral none s).map fun (v, rest) => ((v : Int), rest)
  | .year, s => plain 4 s
  | .dayOfYear, s => plain 3 s
  | .yearOfCentury, s | .month, s | .day, s => plain 2 s

/-- The months, each as its first three letters and the rest. -/
def monthNames : List (List Char × List Char) :=
  [("jan", "uary"), ("feb", "ruary"), ("mar", "ch"), ("apr", "il"),
    ("may", ""), ("jun", "e"), ("jul", "y"), ("aug", "ust"),
    ("sep", "tember"), ("oct", "ober"), ("nov", "ember"),
    ("dec", "ember")].map fun (a, b) => (a.toList, b.toList)

/-- The days of the week, each as its first three letters and the rest. -/
def weekdayNames : List (List Char × List Char) :=
  [("mon", "day"), ("tue", "sday"), ("wed", "nesday"), ("thu", "rsday"),
    ("fri", "day"), ("sat", "urday"), ("sun", "day")].map
      fun (a, b) => (a.toList, b.toList)

/-- Drops a word from the front of a text, whatever its case. -/
def dropWord? (word s : List Char) : Option (List Char) :=
  if (s.take word.length).map Char.toLower = word then
    some (s.drop word.length)
  else none

/-- Finds the name at the front of a text by its first three letters. -/
def findName (names : List (List Char × List Char)) (full : Bool)
    (s : List Char) : Option (Nat × List Char) :=
  names.zipIdx.findSome? fun ((short, rest), k) =>
    (dropWord? short s).map fun s' =>
      (k, if full then (dropWord? rest s').getD s' else s')

/-- Reads a name. -/
def DateName.read (n : DateName) (s : List Char) :
    Except DateFault (Nat × List Char) :=
  let found := match n with
    | .month full => findName monthNames full s
    | .weekday full => findName weekdayNames full s
  if byteLength s < 3 then .error .tooShort
  else
    match found with
    | some r => .ok r
    | none => .error .invalid

/-- Reads one item from the front of a text. -/
def DateItem.read (r : DateReadings) (s : List Char) :
    DateItem → Except DateFault (DateReadings × List Char)
  | .literal l =>
    if byteLength s < byteLength l then .error .tooShort
    else if l.isPrefixOf s then .ok (r, s.drop l.length)
    else .error .invalid
  | .blanks => .ok (r, skipBlanks s)
  | .number n => do
    let (v, rest) ← n.read s
    pure (← r.note v n, rest)
  | .name n => do
    let (k, rest) ← n.read s
    pure (← r.noteName k n, rest)
  | .unsupported => .error .badPattern

/-! ### Dates -/

namespace DateReadings

/-- The year, from all its digits or from the last two: these mean a year
from 1970 to 2069. A negative year has no last two digits. -/
def fullYear (r : DateReadings) : Except DateFault (Option Int) :=
  match r.year, r.yearOfCentury with
  | y, none => .ok y
  | some y, some k =>
    if 0 ≤ y ∧ y % 100 = k then .ok (some y) else .error .impossible
  | none, some k => .ok (some (if k < 70 then 2000 + k else 1900 + k))

/-- Whether a date has all numbers that were read. -/
def holds (r : DateReadings) (d : Date) : Bool :=
  r.year.all (· = d.year)
    && r.yearOfCentury.all (fun k => 0 ≤ d.year && d.year % 100 = k)
    && r.month.all (· = d.month)
    && r.day.all (· = d.day)
    && r.dayOfYear.all (· = d.dayOfYear)
    && r.weekday.all (· = d.weekday)

/-- The date that a year and month and day give, or else a year and a day of
the year. All other numbers have to agree with it. -/
def toDate (r : DateReadings) : Except DateFault Date := do
  let year ← r.fullYear
  let found ← match year, r.month, r.day, r.dayOfYear with
    | some y, some m, some d, _ => pure (Date.of? y m d)
    | some y, _, _, some n => pure (Date.ofDayOfYear? y n)
    | _, _, _, _ => throw .notEnough
  match found with
  | none => throw .outOfRange
  | some d => if r.holds d then pure d else throw .impossible

end DateReadings

namespace DatePattern

/-- Reads the items of a pattern, one after the other. -/
def readItems : DatePattern → DateReadings × List Char →
    Except DateFault (DateReadings × List Char)
  | [], state => .ok state
  | item :: items, (r, s) => do readItems items (← item.read r s)

/-- Reads a whole text by a pattern. -/
def parse (p : DatePattern) (s : String) : Except DateFault Date := do
  let (r, rest) ← p.readItems ({}, s.toList)
  if rest.isEmpty then r.toDate else throw .trailing

end DatePattern

end RowFilter
