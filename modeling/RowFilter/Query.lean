/-
Paginated queries over one table.

* `Query`: what is selected, from where, and which page of it.
* `Query.parts`: the parts of the query's SQL text.
* `Query.build`: the SQL text with its values.
* `params_build`: the values are those of the cursor, the filter, the offset
  and the page size, in this order.
-/
import RowFilter.Expr.Sql

namespace RowFilter

/-- How many rows a page has unless said otherwise. -/
def defaultPageSize : UInt32 := 10

/-- A query over one table, in the order of a key column. -/
structure Query where
  table : String
  /-- The column that orders the rows. -/
  key : String
  /-- The columns that are selected; all of them if there are none. -/
  columns : List String := []
  /-- Only rows whose key is greater than this. -/
  after : Option SqlValue := none
  /-- Only rows for which this holds. -/
  filter : Option Expr := none
  /-- The page, counted from one. -/
  page : Option UInt32 := none
  /-- The number of rows of a page. -/
  pageSize : UInt32 := defaultPageSize

namespace Query

/-- Selects columns; all of them if the list is empty. -/
def selecting (q : Query) (columns : List String) : Query :=
  { q with columns }

/-- Keeps only rows whose key is greater than a value. -/
def startingAfter (q : Query) (value : SqlValue) : Query :=
  { q with after := some value }

/-- Keeps only rows for which a condition holds. -/
def filteredBy (q : Query) (e : Expr) : Query := { q with filter := some e }

/-- Selects a page, counted from one. Page zero stands for no page. -/
def onPage (q : Query) (page : UInt32) : Query :=
  { q with page := if page = 0 then none else some page }

/-- Sets the number of rows of a page. -/
def sized (q : Query) (size : UInt32) : Query := { q with pageSize := size }

/-- The number of rows before the page. -/
def offset (page size : UInt32) : Int64 :=
  Int64.ofNat ((page.toNat - 1) * size.toNat)

/-! ### SQL -/

/-- What is selected. -/
def columnParts (q : Query) : List SqlPart :=
  if q.columns.isEmpty then [.raw "*"]
  else SqlPart.sepBy ", " (q.columns.map fun c => [.name c])

/-- The condition on the key. -/
def cursorParts (q : Query) : List SqlPart :=
  match q.after with
  | some v => [.raw " WHERE ", .name q.key, .raw " > ", .value v]
  | none => []

/-- The condition of the filter, joined to the one on the key if that is
there. -/
def filterParts (q : Query) : List SqlPart :=
  match q.filter with
  | some e => .raw (if q.after.isSome then " AND " else " WHERE ") :: e.parts
  | none => []

/-- The rows before the page. -/
def offsetParts (q : Query) : List SqlPart :=
  match q.page with
  | some p => [.raw " OFFSET ", .value (.int (offset p q.pageSize))]
  | none => []

/-- The number of rows. -/
def limitParts (q : Query) : List SqlPart :=
  [.raw " LIMIT ", .value (.int (Int64.ofNat q.pageSize.toNat))]

/-- The order of the rows. -/
def orderParts (q : Query) : List SqlPart :=
  [.raw " ORDER BY ", .name q.key, .raw " ASC"]

/-- The parts of the whole query. -/
def parts (q : Query) : List SqlPart :=
  .raw "SELECT " :: q.columnParts ++ [.raw " FROM ", .name q.table]
    ++ q.cursorParts ++ q.filterParts ++ q.orderParts ++ q.offsetParts
    ++ q.limitParts

/-- The SQL text of the query with its values. -/
def build (q : Query) : Statement := Statement.ofParts q.parts

/-! ### Values -/

/-- Names with texts between them have no values. -/
theorem values_sepBy_names (sep : String) (names : List String) :
    SqlPart.values (SqlPart.sepBy sep (names.map fun c => [.name c])) = [] := by
  induction names with
  | nil => rfl
  | cons n names ih =>
    cases names with
    | nil => rfl
    | cons m names => simpa [SqlPart.sepBy] using ih

/-- What is selected has no values. -/
theorem values_columnParts (q : Query) : SqlPart.values q.columnParts = [] := by
  unfold columnParts
  split
  · rfl
  · exact values_sepBy_names ..

/-- The condition on the key has the value that it compares with. -/
theorem values_cursorParts (q : Query) :
    SqlPart.values q.cursorParts = q.after.toList := by
  unfold cursorParts; cases q.after <;> rfl

/-- The condition of the filter has the values of the filter. -/
theorem values_filterParts (q : Query) :
    SqlPart.values q.filterParts =
      q.filter.elim [] fun e => SqlPart.values e.parts := by
  unfold filterParts; cases q.filter <;> rfl

/-- A page has the number of rows before it. -/
theorem values_offsetParts (q : Query) :
    SqlPart.values q.offsetParts =
      q.page.elim [] fun p => [.int (offset p q.pageSize)] := by
  unfold offsetParts; cases q.page <;> rfl

/-- The values are those of the cursor, the filter, the offset and the page
size, in this order. -/
theorem params_build (q : Query) :
    q.build.params.toList =
      q.after.toList ++ (q.filter.elim [] fun e => SqlPart.values e.parts)
        ++ (q.page.elim [] fun p => [.int (offset p q.pageSize)])
        ++ [.int (Int64.ofNat q.pageSize.toNat)] := by
  rw [build, Statement.ofParts, Statement.params_writeAll, parts]
  simp [values_columnParts, values_cursorParts, values_filterParts,
    values_offsetParts, orderParts, limitParts]

end Query

end RowFilter
