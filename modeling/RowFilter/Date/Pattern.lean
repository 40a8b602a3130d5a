/-
Patterns for dates in texts.

* `DatePattern`: a list of items, each a literal text, blanks, a number or a
  name.
* `DatePattern.ofText`: reads a pattern from its written form, in which `%`
  and a letter stand for a number or a name.
* `DatePattern.iso`: year, month and day with hyphens between them.

The written form is that of the `strftime` patterns of `chrono` 0.4. Assumed of them:
a run of literal characters is one item; white space of any amount stands for white
space of any amount, also for none; `%F` is `%Y-%m-%d`, `%D` and `%x` are `%m/%d/%y`,
and `%v` is `%e-%b-%Y`; a padding sign is allowed in front of single numbers, and means
nothing for reading; and a percent sign before anything else is an error that shows when
reading comes to it.
-/
import RowFilter.Text.Blank

namespace RowFilter

/-- A number in a date. -/
inductive DateNumber where
  | year
  /-- The last two digits of the year. -/
  | yearOfCentury
  | month
  | day
  | dayOfYear
deriving DecidableEq, Repr

/-- A name in a date: always its first three letters, or these and, if it is
there, the rest of the name. -/
inductive DateName where
  | month (full : Bool)
  | weekday (full : Bool)
deriving DecidableEq, Repr

/-- An item of a pattern. -/
inductive DateItem where
  /-- This text. -/
  | literal (s : List Char)
  /-- Any number of blanks. -/
  | blanks
  | number (n : DateNumber)
  | name (n : DateName)
  /-- A directive that means nothing. -/
  | unsupported
deriving DecidableEq, Repr

/-- A pattern for dates. -/
abbrev DatePattern := List DateItem

namespace DatePattern

/-- What a percent sign and a letter stand for. The table has the calendar directives
for years, months, days and weekdays by name. Centuries, quarters and weeks (`%C`, `%q`,
`%G`, `%g`, `%U`, `%W`, `%V`), weekdays by number (`%u`, `%w`), times of day (`%H`, `%M`,
`%S`, `%T` and so on), zones and timestamps are not in it: they count as unsupported here,
although `chrono` reads them. -/
def directive : Char → DatePattern
  | 'Y' => [.number .year]
  | 'y' => [.number .yearOfCentury]
  | 'm' => [.number .month]
  | 'd' | 'e' => [.number .day]
  | 'j' => [.number .dayOfYear]
  | 'b' | 'h' => [.name (.month false)]
  | 'B' => [.name (.month true)]
  | 'a' => [.name (.weekday false)]
  | 'A' => [.name (.weekday true)]
  | 'F' => [.number .year, .literal ['-'], .number .month, .literal ['-'],
      .number .day]
  | 'D' | 'x' => [.number .month, .literal ['/'], .number .day, .literal ['/'],
      .number .yearOfCentury]
  | 'v' => [.number .day, .literal ['-'], .name (.month false), .literal ['-'],
      .number .year]
  | 'n' | 't' => [.blanks]
  | '%' => [.literal ['%']]
  | _ => [.unsupported]

/-- A sign that says how a number is padded. -/
def isPadding (c : Char) : Bool := ['-', '_', '0'].contains c

/-- What a letter behind a padding sign stands for. Only a single number can be padded,
and it is read as it is without the sign. -/
def paddedDirective (c : Char) : DatePattern :=
  match directive c with
  | [.number n] => [.number n]
  | _ => [.unsupported]

/-- A run of literal characters, kept latest first, in front of a pattern. -/
def endRun (run : List Char) (rest : DatePattern) : DatePattern :=
  if run.isEmpty then rest else .literal run.reverse :: rest

/-- Reads a pattern after a run of literal characters. -/
def readFrom (run : List Char) : List Char → DatePattern
  | [] => endRun run []
  | ['%'] => endRun run [.unsupported]
  | ['%', c] => endRun run (directive c)
  | '%' :: c :: d :: cs =>
    if isPadding c then endRun run (paddedDirective d ++ readFrom [] cs)
    else endRun run (directive c ++ readFrom [] (d :: cs))
  | c :: cs =>
    if isBlank c then endRun run (.blanks :: readFrom [] cs)
    else readFrom (c :: run) cs

/-- Reads a pattern from its written form. -/
def ofText (s : String) : DatePattern := readFrom [] s.toList

/-- The written form of year, month and day with hyphens between them. -/
def isoText : String := "%Y-%m-%d"

/-- Year, month and day with hyphens between them. -/
def iso : DatePattern :=
  [.number .year, .literal ['-'], .number .month, .literal ['-'],
    .number .day]

end DatePattern

end RowFilter
