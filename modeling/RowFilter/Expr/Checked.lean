/-
Building expressions from their operands, with all checks.

* `Expr.ofList`: a list, from items of one type that is no array.
* `Expr.ofCall`: the application of an operator.
* `ofCall_arity`: a wrong number of operands is the first thing to be found.
-/
import RowFilter.Expr
import RowFilter.Rejection

namespace RowFilter

/-- The comparison that an operator stands for, if it is one. -/
def Operator.comparison? : Operator → Option Comparison
  | .equal => some .equal
  | .greater => some .greater
  | .less => some .less
  | .greaterOrEqual => some .greaterOrEqual
  | .lessOrEqual => some .lessOrEqual
  | _ => none

namespace Expr

/-! ### Lists -/

/-- A list. Its items have the type of the first one, which is no array. -/
def ofList (items : List Expr) (span : Span) : Except Cause Expr :=
  match items with
  | [] => .error .emptyList
  | first :: _ =>
    if first.type.isArray then .error (.typeMismatch .list .nestedList)
    else
      match items.find? (·.type ≠ first.type) with
      | some other =>
        .error (.typeMismatch .list (.expected first.type other.type))
      | none => .ok (.list first.type items span)

/-! ### Operands -/

/-- A wrong number of operands. -/
def wrongArity (op : Operator) (args : List Expr) : Cause :=
  .arity op op.arity args.length

/-- Operands do not fit. -/
def misfit (op : Operator) (fault : TypeFault) : Cause :=
  .typeMismatch (.operator op) fault

/-- The only operand. -/
def onlyOperand (op : Operator) : List Expr → Except Cause Expr
  | [arg] => .ok arg
  | args => .error (wrongArity op args)

/-- The two operands. -/
def twoOperands (op : Operator) : List Expr → Except Cause (Expr × Expr)
  | [left, right] => .ok (left, right)
  | args => .error (wrongArity op args)

/-- An operand that has to be a field. -/
def asField (op : Operator) : Expr → Except Cause Column
  | .column c _ => .ok c
  | e => .error (misfit op (.notField e.type))

/-- An operand that has to be a text literal. -/
def asText (op : Operator) : Expr → Except Cause String
  | .literal (.text s) _ => .ok s
  | e => .error (misfit op (.notText e.type))

/-- Operands that have to be conditions. -/
def requirePredicates (op : Operator) (args : List Expr) :
    Except Cause Unit :=
  match args.find? (!·.isPredicate) with
  | some arg => .error (misfit op (.expected .bool arg.type))
  | none => .ok ()

/-! ### Operators -/

/-- A comparison of two operands of one type. -/
def ofComparison (op : Operator) (c : Comparison) (args : List Expr)
    (span : Span) : Except Cause Expr := do
  let (left, right) ← twoOperands op args
  if left.type ≠ right.type then
    throw (misfit op (.different left.type right.type))
  return .compare c left right span

/-- The membership of an operand in an array of its type. -/
def ofMembership (op : Operator) (args : List Expr) (span : Span) :
    Except Cause Expr := do
  let (left, right) ← twoOperands op args
  if right.type ≠ .array left.type then
    throw (misfit op (.expected (.array left.type) right.type))
  return .isIn left right span

/-- Two conditions or more, joined. -/
def ofJunction (op : Operator) (kind : Junction) (args : List Expr)
    (span : Span) : Except Cause Expr := do
  if args.length < 2 then throw (wrongArity op args)
  requirePredicates op args
  return .junction kind args span

/-- A negated condition. -/
def ofNegation (op : Operator) (args : List Expr) (span : Span) :
    Except Cause Expr := do
  let arg ← onlyOperand op args
  requirePredicates op [arg]
  return .not arg span

/-- A field that matches a pattern. -/
def ofLike (op : Operator) (args : List Expr) (span : Span) :
    Except Cause Expr := do
  let (left, right) ← twoOperands op args
  let column ← asField op left
  let pattern ← asText op right
  return .like column pattern span

/-- An array field with an element that matches a pattern. -/
def ofAnyLike (op : Operator) (args : List Expr) (span : Span) :
    Except Cause Expr := do
  let (left, right) ← twoOperands op args
  let column ← asField op left
  if column.type ≠ .array .string then
    throw (misfit op (.otherField (.array .string) column.type))
  let pattern ← asText op right
  return .anyLike column pattern span

/-- A date that is read from a text literal. -/
def ofDate (readDate : DateReader) (op : Operator) (args : List Expr)
    (span : Span) : Except Cause Expr := do
  let arg ← onlyOperand op args
  let input ← asText op arg
  match readDate input with
  | .ok d => return .literal (.date d) span
  | .error reason => throw (.invalidDate input reason)

/-- The application of an operator to operands. -/
def ofCall (readDate : DateReader) (op : Operator) (args : List Expr)
    (span : Span) : Except Cause Expr :=
  match op with
  | .equal => ofComparison op .equal args span
  | .greater => ofComparison op .greater args span
  | .less => ofComparison op .less args span
  | .greaterOrEqual => ofComparison op .greaterOrEqual args span
  | .lessOrEqual => ofComparison op .lessOrEqual args span
  | .isIn => ofMembership op args span
  | .and => ofJunction op .and args span
  | .or => ofJunction op .or args span
  | .not => ofNegation op args span
  | .like => ofLike op args span
  | .anyLike => ofAnyLike op args span
  | .date => ofDate readDate op args span

/-- Two operands are handed out only when there are exactly two. -/
theorem twoOperands_eq_error {op : Operator} {args : List Expr}
    (h : args.length ≠ 2) : twoOperands op args = .error (wrongArity op args) := by
  match args, h with
  | [], _ | [_], _ | _ :: _ :: _ :: _, _ => rfl

/-- One operand is handed out only when there is exactly one. -/
theorem onlyOperand_eq_error {op : Operator} {args : List Expr}
    (h : args.length ≠ 1) : onlyOperand op args = .error (wrongArity op args) := by
  match args, h with
  | [], _ | _ :: _ :: _, _ => rfl

/-- A wrong number of operands is found before anything else. -/
theorem ofCall_arity {readDate : DateReader} {op : Operator}
    {args : List Expr} {span : Span}
    (h : op.arity.accepts args.length = false) :
    ofCall readDate op args span = .error (wrongArity op args) := by
  cases op
  case and | or =>
    have few : args.length < 2 := by
      simpa [Operator.arity, Arity.accepts] using h
    simp [ofCall, ofJunction, few, throw, throwThe, MonadExceptOf.throw, bind,
      Except.bind]
  case not | date =>
    have other : args.length ≠ 1 := by
      simpa [Operator.arity, Arity.accepts] using h
    simp [ofCall, ofNegation, ofDate, onlyOperand_eq_error other, bind,
      Except.bind]
  all_goals
    have other : args.length ≠ 2 := by
      simpa [Operator.arity, Arity.accepts] using h
    simp [ofCall, ofComparison, ofMembership, ofLike, ofAnyLike,
      twoOperands_eq_error other, bind, Except.bind]

end Expr

end RowFilter
