/-
The SQL condition of an expression.

* `Expr.parts`: the parts of the condition, before the placeholders are
  numbered. All literals are values, all names are identifiers, and the raw
  texts are those of the language.
* `Expr.renderInto`: the condition behind what a statement already holds.
* `Expr.toSql`: the condition on its own.
-/
import RowFilter.Expr
import RowFilter.Sql.Statement

namespace RowFilter

/-- The spelling of a comparison. -/
def Comparison.symbol : Comparison → String
  | .equal => "="
  | .greater => ">"
  | .less => "<"
  | .greaterOrEqual => ">="
  | .lessOrEqual => "<="

/-- What stands between joined conditions. -/
def Junction.separator : Junction → String
  | .and => " AND "
  | .or => " OR "

/-- A column, qualified by its table. -/
def Column.parts (c : Column) : List SqlPart := SqlPart.qualified c.table c.name

namespace Expr

/-- The right side of a membership: an array field is searched with `ANY`,
all else is a list. -/
def memberParts (right : Expr) (parts : List SqlPart) : List SqlPart :=
  match right with
  | .column c _ => .raw " = ANY(" :: c.parts ++ [.raw ")"]
  | _ => .raw " IN " :: parts

mutual

/-- The parts of the condition that an expression stands for. -/
def parts : Expr → List SqlPart
  | .literal v _ => [.value v]
  | .list _ items _ =>
    .raw "(" :: SqlPart.sepBy ", " (partsOfAll items) ++ [.raw ")"]
  | .column c _ => c.parts
  | .not arg _ => .raw "NOT (" :: arg.parts ++ [.raw ")"]
  | .compare op left right _ =>
    left.parts ++ .raw " " :: .raw op.symbol :: .raw " " :: right.parts
  | .isIn left right _ => left.parts ++ memberParts right right.parts
  | .like c pattern _ =>
    c.parts ++ [.raw " ILIKE ", .value (.text pattern)]
  | .anyLike c pattern _ =>
    .raw "EXISTS (SELECT 1 FROM unnest(" :: c.parts ++
      [.raw ") AS element WHERE element ILIKE ", .value (.text pattern),
        .raw ")"]
  | .junction kind args _ =>
    .raw "(" :: SqlPart.sepBy kind.separator (partsOfAll args) ++ [.raw ")"]

/-- The parts of each expression of a list. -/
def partsOfAll : List Expr → List (List SqlPart)
  | [] => []
  | e :: es => e.parts :: partsOfAll es

end

/-- The condition behind what a statement already holds. -/
def renderInto (e : Expr) (st : Statement) : Statement := st.writeAll e.parts

/-- The condition on its own. -/
def toSql (e : Expr) : Statement := e.renderInto {}

/-- Joined conditions begin with the first one. -/
theorem sepBy_partsOfAll_cons (sep : String) (e f : Expr) (es : List Expr) :
    SqlPart.sepBy sep (partsOfAll (e :: f :: es)) =
      e.parts ++ .raw sep :: SqlPart.sepBy sep (partsOfAll (f :: es)) := rfl

/-- The parts of a list of expressions are those of each. -/
theorem partsOfAll_eq_map (es : List Expr) : partsOfAll es = es.map parts := by
  induction es with
  | nil => rfl
  | cons e es ih => simp [partsOfAll, ih]

end Expr

end RowFilter
