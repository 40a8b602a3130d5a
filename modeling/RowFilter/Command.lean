/-
What the commands answer: the tokens of a filter, its condition, and a query
with it.

* `TokenRow`, `tokenRows`: the tokens of a filter, operators by keyword.
* `Statement.report`: an SQL text, and a line for each value.
* `renderFilter`: the condition of a filter on its own.
* `QueryOptions`, `buildQuery`: a query over a configured table. A blank
  filter is no filter.
-/
import RowFilter.Config
import RowFilter.Query

namespace RowFilter

/-! ### Tokens -/

/-- A token as it is shown. -/
structure TokenRow where
  start : Nat
  stop : Nat
  kind : String
  value : String
deriving DecidableEq, Repr

namespace TokenRow

/-- The kind and the value of a lexeme as they are shown. -/
def describe : Lexeme → String × String
  | .number n => ("number", toString n.toInt)
  | .string s => ("string", s)
  | .separator c => ("separator", c.toString)
  | .operator i =>
    ("operator", ((Operator.ofIndex? i).map Operator.keyword).getD s!"#{i}")
  | .symbol s => ("symbol", s)

/-- The row of a token. -/
def ofToken (t : Token) : TokenRow :=
  ⟨t.span.start, t.span.stop, (describe t.lexeme).1, (describe t.lexeme).2⟩

/-- A row in one line. -/
def line (r : TokenRow) : String :=
  padLeft 4 ' ' (toString r.start) ++ ".."
    ++ padRight 4 ' ' (toString r.stop) ++ " "
    ++ padRight 9 ' ' r.kind ++ " " ++ r.value

/-- A row as a JSON document. -/
def document (r : TokenRow) : JsonDocument := .object [
  ("start", .number r.start),
  ("end", .number r.stop),
  ("kind", .text r.kind),
  ("value", .text r.value)]

end TokenRow

/-- The tokens of a filter. -/
def tokenRows (filter : String) : Except LexFault (List TokenRow) :=
  (filterLexicon.tokenize filter).toExcept.map (·.map TokenRow.ofToken)

/-! ### Statements -/

/-- A value as a JSON document. -/
def SqlValue.document : SqlValue → JsonDocument
  | .int n => .number n.toInt
  | .text s => .text s
  | .date d => .text d.text

namespace Statement

/-- The lines of values, of which the first has the number `n`. -/
def valueLines (n : Nat) : List SqlValue → List String
  | [] => []
  | v :: vs => (placeholder n ++ " = " ++ v.display) :: valueLines (n + 1) vs

/-- The SQL text, and a line for each value. -/
def report (st : Statement) : String :=
  "\n".intercalate (st.text :: valueLines 1 st.params.toList)

/-- A statement as a JSON document. -/
def document (st : Statement) : JsonDocument := .object [
  ("sql", .text st.text),
  ("params", .array (st.params.toList.map SqlValue.document))]

end Statement

/-- The condition of a filter on its own. -/
def renderFilter (c : Compiler) (filter : String) :
    Except Rejection Statement :=
  (c.parse filter).map Expr.toSql

/-! ### Queries -/

/-- What a query command says about the query. -/
structure QueryOptions where
  filter : Option String := none
  after : Option Int64 := none
  page : Option UInt32 := none
  pageSize : Option UInt32 := none
  columns : List String := []
  /-- The key, in place of the configured one. -/
  key : Option String := none

namespace QueryOptions

/-- The filter, unless it is blank. -/
def activeFilter (o : QueryOptions) : Option String :=
  o.filter.filter fun f => !(trimBlanks f.toList).isEmpty

/-- The query over a configured table, with a condition. -/
def toQuery (o : QueryOptions) (config : Config) (condition : Option Expr) :
    Query :=
  let q : Query := {
    table := config.table
    key := o.key.getD config.key
    columns := o.columns
    after := o.after.map SqlValue.int
    filter := condition }
  let q := o.page.elim q q.onPage
  o.pageSize.elim q q.sized

end QueryOptions

/-- The condition of a filter, if there is a filter. -/
def parseFilter? (c : Compiler) : Option String →
    Except Rejection (Option Expr)
  | some f => (c.parse f).map some
  | none => .ok none

/-- The query over a configured table. A blank filter is no filter. -/
def buildQuery (c : Compiler) (config : Config) (o : QueryOptions) :
    Except Rejection Statement :=
  (parseFilter? c o.activeFilter).map fun e => (o.toQuery config e).build

end RowFilter
