/-
Values that travel beside an SQL text.

* `SqlValue`: an integer, a text or a date.
* `SqlValue.display`: a value as a reader sees it, a text in quoted form.
* `SqlValue.kind`: which of the three a value is.
-/
import RowFilter.Date
import RowFilter.Text.Quoted

namespace RowFilter

/-- A value that is bound to a placeholder of an SQL text. -/
inductive SqlValue where
  | int (n : Int64)
  | text (s : String)
  | date (d : Date)
deriving DecidableEq

/-- The three kinds of values. -/
inductive SqlValue.Kind where
  | int
  | text
  | date
deriving DecidableEq, Repr

namespace SqlValue

/-- The kind of a value. -/
def kind : SqlValue → Kind
  | .int _ => .int
  | .text _ => .text
  | .date _ => .date

/-- A value as a reader sees it. -/
def display : SqlValue → String
  | .int n => toString n.toInt
  | .text s => quoted s
  | .date d => d.text

end SqlValue

end RowFilter
