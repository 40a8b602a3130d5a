/-
Reading an expression from a token stream, one token at a time.

* `OpenList`: a parenthesis that is not closed yet, with the items so far.
* `Unfinished`: what has been read of an expression, and what has to come
  next.
* `Reading`: what reading depends on: the schema and the deepest nesting.
* `Reading.step`: the effect of one token.
* `Reading.run`: reads a stream. The first token that does not fit and the
  first lexical fault end it, whichever comes first.
* `steps_append`, `run_eq`, `run_eq_ok_iff`: what was read before stays read,
  and a stream is read as its tokens are.
-/
import RowFilter.Expr.Checked

namespace RowFilter

/-- A parenthesis that is not closed yet. -/
structure OpenList where
  /-- The operator whose operands it holds, if it is no plain list. -/
  call : Option (Operator × Span)
  /-- The parenthesis. -/
  opened : Span
  /-- The items so far, latest first. -/
  items : List Expr

/-- What has been read of an expression. Open lists are kept innermost
first. -/
inductive Unfinished where
  /-- An expression has to come next. -/
  | operand (stack : List OpenList)
  /-- The parenthesis of an operator has to come next. -/
  | parenthesis (op : Operator) (span : Span) (stack : List OpenList)
  /-- A comma or the end of the innermost list has to come next. -/
  | item (inner : OpenList) (stack : List OpenList)
  /-- Nothing may come any more. -/
  | complete (root : Expr)

/-- What reading depends on. -/
structure Reading where
  schema : Schema
  maxDepth : Nat

namespace OpenList

/-- The expression that a list makes when it is closed. What is wrong with
it is reported at the operator, or at the parenthesis of a plain list. -/
def close (l : OpenList) (readDate : DateReader) : Except Rejection Expr :=
  match l.call with
  | some (op, span) =>
    (Expr.ofCall readDate op l.items.reverse span).mapError
      (Rejection.locate · span.start)
  | none =>
    (Expr.ofList l.items.reverse l.opened).mapError
      (Rejection.locate · l.opened.start)

end OpenList

namespace Unfinished

/-- Puts an expression where one had to come. -/
def place (e : Expr) : List OpenList → Unfinished
  | [] => .complete e
  | l :: stack => .item { l with items := e :: l.items } stack

end Unfinished

namespace Reading

/-- A token does not fit where it stands. -/
def unexpected (t : Token) : Except Rejection Unfinished :=
  .error (.locate (.unexpectedToken t.lexeme) t.span.start)

/-- Opens a list, unless lists are nested too deeply already. -/
def enter (rd : Reading) (call : Option (Operator × Span)) (opened : Span)
    (stack : List OpenList) : Except Rejection Unfinished :=
  if rd.maxDepth ≤ stack.length then
    .error (.locate (.tooDeep rd.maxDepth) opened.start)
  else
    .ok (.operand (⟨call, opened, []⟩ :: stack))

/-- A token where an expression has to come. A closing parenthesis may only
stand right behind an opening one to be called an empty list. -/
def operandStep (rd : Reading) (stack : List OpenList) (t : Token) :
    Except Rejection Unfinished :=
  match t.lexeme with
  | .number n => .ok (.place (.literal (.int n) t.span) stack)
  | .string s => .ok (.place (.literal (.text s) t.span) stack)
  | .symbol name =>
    match rd.schema.fieldType? name with
    | some type =>
      .ok (.place (.column ⟨rd.schema.table, name, type⟩ t.span) stack)
    | none => .error (.locate (.unknownSymbol name) t.span.start)
  | .operator i =>
    match Operator.ofIndex? i with
    | some op => .ok (.parenthesis op t.span stack)
    | none => unexpected t
  | .separator c =>
    if c = '(' then rd.enter none t.span stack
    else if c = ')' ∧ stack.head?.any (·.items.isEmpty) then
      .error (.locate .emptyList t.span.start)
    else unexpected t

/-- The effect of one token. -/
def step (rd : Reading) (u : Unfinished) (t : Token) :
    Except Rejection Unfinished :=
  match u with
  | .operand stack => rd.operandStep stack t
  | .parenthesis op span stack =>
    if t.lexeme = .separator '(' then rd.enter (some (op, span)) t.span stack
    else unexpected t
  | .item inner stack =>
    if t.lexeme = .separator ')' then
      (inner.close rd.schema.readDate).map (Unfinished.place · stack)
    else if t.lexeme = .separator ',' then .ok (.operand (inner :: stack))
    else unexpected t
  | .complete _ => unexpected t

/-- Reads a list of tokens. -/
def steps (rd : Reading) : Unfinished → List Token → Except Rejection Unfinished
  | u, [] => .ok u
  | u, t :: ts =>
    match rd.step u t with
    | .error e => .error e
    | .ok u' => rd.steps u' ts

/-- Reads a token stream. -/
def run (rd : Reading) : Unfinished → TokenStream → Except Rejection Unfinished
  | u, .done => .ok u
  | _, .fault f => .error (.ofLexFault f)
  | u, .token t rest =>
    match rd.step u t with
    | .error e => .error e
    | .ok u' => rd.run u' rest

/-- What was read before stays read. -/
theorem steps_append (rd : Reading) (u : Unfinished) (ts us : List Token) :
    rd.steps u (ts ++ us) = (rd.steps u ts).bind (rd.steps · us) := by
  induction ts generalizing u with
  | nil => rfl
  | cons t ts ih =>
    simp only [List.cons_append, steps]
    cases rd.step u t with
    | error e => rfl
    | ok u' => exact ih u'

/-- A stream is read as its tokens are; its fault counts when all of them
fit. -/
theorem run_eq (rd : Reading) (u : Unfinished) (s : TokenStream) :
    rd.run u s = (rd.steps u s.tokens).bind fun u' =>
      match s.fault? with
      | some f => .error (.ofLexFault f)
      | none => .ok u' := by
  induction s generalizing u with
  | done => rfl
  | fault f => rfl
  | token t rest ih =>
    simp only [run, TokenStream.tokens, steps, TokenStream.fault?]
    cases rd.step u t with
    | error e => rfl
    | ok u' => exact ih u'

/-- A stream is read when it has no fault and its tokens are read. -/
theorem run_eq_ok_iff {rd : Reading} {u v : Unfinished} {s : TokenStream} :
    rd.run u s = .ok v ↔ s.fault? = none ∧ rd.steps u s.tokens = .ok v := by
  rw [run_eq]
  cases s.fault? <;> cases rd.steps u s.tokens <;> simp [Except.bind]

end Reading

end RowFilter
