/-
Typed filter expressions.

* `Column`: a field of a table, with its type.
* `Expr`: expressions. Each node keeps the span of the token that it comes
  from.
* `Expr.type`, `Expr.span`, `Expr.isPredicate`: what is known of a node
  without looking below it.
* `Expr.ind`: what every node inherits from the nodes below it holds of all
  expressions.
* `beq_iff_eq`: equality of expressions, spans included, can be decided.
-/
import RowFilter.Sql.Value
import RowFilter.Token
import RowFilter.ValueType

namespace RowFilter

/-- A field of a table, with its type. -/
structure Column where
  table : String
  name : String
  type : ValueType
deriving DecidableEq, Repr

/-- How two values are compared. -/
inductive Comparison where
  | equal
  | greater
  | less
  | greaterOrEqual
  | lessOrEqual
deriving DecidableEq, Repr

/-- How several conditions are joined. -/
inductive Junction where
  | and
  | or
deriving DecidableEq, Repr

/-- A filter expression. -/
inductive Expr where
  /-- A number, a text or a date. -/
  | literal (value : SqlValue) (span : Span)
  /-- A list in parentheses, whose items have one type. -/
  | list (itemType : ValueType) (items : List Expr) (span : Span)
  /-- A field. -/
  | column (column : Column) (span : Span)
  /-- A negation. -/
  | not (arg : Expr) (span : Span)
  /-- A comparison. -/
  | compare (op : Comparison) (left right : Expr) (span : Span)
  /-- Membership of the left operand in a list or an array field. -/
  | isIn (left right : Expr) (span : Span)
  /-- A field that matches a pattern, whatever the case. -/
  | like (column : Column) (pattern : String) (span : Span)
  /-- An array field with an element that matches a pattern. -/
  | anyLike (column : Column) (pattern : String) (span : Span)
  /-- A conjunction or a disjunction. -/
  | junction (kind : Junction) (args : List Expr) (span : Span)

namespace Expr

/-- The type of a value. -/
def typeOfValue : SqlValue → ValueType
  | .int _ => .number
  | .text _ => .string
  | .date _ => .date

/-- The type of an expression. -/
def type : Expr → ValueType
  | .literal v _ => typeOfValue v
  | .list t _ _ => .array t
  | .column c _ => c.type
  | .not .. | .compare .. | .isIn .. | .like .. | .anyLike ..
  | .junction .. => .bool

/-- The span of the token that an expression comes from. -/
def span : Expr → Span
  | .literal _ s | .list _ _ s | .column _ s | .not _ s | .compare _ _ _ s
  | .isIn _ _ s | .like _ _ s | .anyLike _ _ s | .junction _ _ s => s

/-- Whether the expression is a condition. -/
def isPredicate (e : Expr) : Bool := e.type = .bool

/-- The induction principle of expressions: a property holds of all of them
when every node inherits it from the nodes below it. -/
@[elab_as_elim]
theorem ind {P : Expr → Prop}
    (literal : ∀ v s, P (.literal v s))
    (list : ∀ t items s, (∀ i ∈ items, P i) → P (.list t items s))
    (column : ∀ c s, P (.column c s))
    (not : ∀ arg s, P arg → P (.not arg s))
    (compare : ∀ op left right s, P left → P right →
      P (.compare op left right s))
    (isIn : ∀ left right s, P left → P right → P (.isIn left right s))
    (like : ∀ c p s, P (.like c p s))
    (anyLike : ∀ c p s, P (.anyLike c p s))
    (junction : ∀ k args s, (∀ a ∈ args, P a) → P (.junction k args s))
    (e : Expr) : P e :=
  @Expr.rec P (fun es => ∀ e ∈ es, P e) literal list column not compare isIn
    like anyLike junction
    (fun _ h => nomatch h)
    (fun _ _ head tail e h => by
      rcases List.mem_cons.mp h with rfl | h
      · exact head
      · exact tail e h)
    e

/-! ### Equality -/

mutual

/-- Whether two expressions are equal, spans included. -/
def beq : Expr → Expr → Bool
  | .literal v s, .literal w t => v = w && s = t
  | .list a xs s, .list b ys t => a = b && beqList xs ys && s = t
  | .column c s, .column d t => c = d && s = t
  | .not x s, .not y t => beq x y && s = t
  | .compare p x y s, .compare q x' y' t =>
    p = q && beq x x' && beq y y' && s = t
  | .isIn x y s, .isIn x' y' t => beq x x' && beq y y' && s = t
  | .like c p s, .like d q t => c = d && p = q && s = t
  | .anyLike c p s, .anyLike d q t => c = d && p = q && s = t
  | .junction k xs s, .junction l ys t => k = l && beqList xs ys && s = t
  | _, _ => false

/-- Whether two lists of expressions are equal. -/
def beqList : List Expr → List Expr → Bool
  | [], [] => true
  | x :: xs, y :: ys => beq x y && beqList xs ys
  | _, _ => false

end

mutual

/-- Equality of expressions is decided. -/
theorem beq_iff_eq : (a b : Expr) → (a.beq b = true ↔ a = b)
  | .literal .., b => by cases b <;> simp [beq]
  | .list _ xs _, b => by
    cases b <;> simp [beq, beqList_iff_eq xs, and_assoc]
  | .column .., b => by cases b <;> simp [beq]
  | .not x _, b => by cases b <;> simp [beq, beq_iff_eq x]
  | .compare _ x y _, b => by
    cases b <;> simp [beq, beq_iff_eq x, beq_iff_eq y, and_assoc]
  | .isIn x y _, b => by
    cases b <;> simp [beq, beq_iff_eq x, beq_iff_eq y, and_assoc]
  | .like .., b => by cases b <;> simp [beq, and_assoc]
  | .anyLike .., b => by cases b <;> simp [beq, and_assoc]
  | .junction _ xs _, b => by
    cases b <;> simp [beq, beqList_iff_eq xs, and_assoc]

/-- Equality of lists of expressions is decided. -/
theorem beqList_iff_eq : (as bs : List Expr) → (beqList as bs = true ↔ as = bs)
  | [], bs => by cases bs <;> simp [beqList]
  | a :: as, bs => by
    cases bs <;> simp [beqList, beq_iff_eq a, beqList_iff_eq as]

end

instance : DecidableEq Expr := fun a b =>
  decidable_of_iff (a.beq b = true) (beq_iff_eq a b)

end Expr

end RowFilter
