/-
The typed grammar of the filter language, over tokens.

* `CommaSeparated`: token lists with a comma between neighbours.
* `Applies`: the typing rules of the twelve operators.
* `Derives`: the expressions that a list of tokens derives. Each node carries
  the span of the token that it comes from.
* `unclosed`, `NestsWithin`: how many parentheses are open at a place, and
  that no parenthesis is opened inside too many others.
* `Derives.balanced`: what is derived closes the parentheses that it opens.
-/
import Mathlib.Tactic.Common
import RowFilter.Expr.Checked

namespace RowFilter

/-! ### Typing rules -/

/-- The application of an operator to typed operands. -/
inductive Applies (readDate : DateReader) :
    Operator → List Expr → Span → Expr → Prop where
  /-- A comparison has two operands of one type. -/
  | compare {op : Operator} {c : Comparison} {left right : Expr} {span : Span} :
      op.comparison? = some c → left.type = right.type →
      Applies readDate op [left, right] span (.compare c left right span)
  /-- A membership has an operand and an array of its type. -/
  | isIn {left right : Expr} {span : Span} :
      right.type = .array left.type →
      Applies readDate .isIn [left, right] span (.isIn left right span)
  /-- A conjunction has two conditions or more. -/
  | and {args : List Expr} {span : Span} :
      2 ≤ args.length → (∀ a ∈ args, a.type = .bool) →
      Applies readDate .and args span (.junction .and args span)
  /-- A disjunction has two conditions or more. -/
  | or {args : List Expr} {span : Span} :
      2 ≤ args.length → (∀ a ∈ args, a.type = .bool) →
      Applies readDate .or args span (.junction .or args span)
  /-- A negation has one condition. -/
  | not {arg : Expr} {span : Span} :
      arg.type = .bool → Applies readDate .not [arg] span (.not arg span)
  /-- A pattern is a text literal, and is matched with a field. -/
  | like {column : Column} {pattern : String} {left right span : Span} :
      Applies readDate .like
        [.column column left, .literal (.text pattern) right] span
        (.like column pattern span)
  /-- A pattern is matched with the elements of a field of texts. -/
  | anyLike {column : Column} {pattern : String} {left right span : Span} :
      column.type = .array .string →
      Applies readDate .anyLike
        [.column column left, .literal (.text pattern) right] span
        (.anyLike column pattern span)
  /-- A date is read from one text literal. -/
  | date {input : String} {d : Date} {arg span : Span} :
      readDate input = .ok d →
      Applies readDate .date [.literal (.text input) arg] span
        (.literal (.date d) span)

/-! ### The grammar -/

/-- Token lists, one or more, with a comma between neighbours. -/
inductive CommaSeparated : List (List Token) → List Token → Prop where
  | single (ts : List Token) : CommaSeparated [ts] ts
  | cons {ts : List Token} {comma : Token} {tss : List (List Token)}
      {rest : List Token} :
      comma.lexeme = .separator ',' → CommaSeparated tss rest →
      CommaSeparated (ts :: tss) (ts ++ comma :: rest)

/-- The expressions that tokens derive. The items of a list and the operands
of an operator are given with the tokens that they are derived from. -/
inductive Derives (s : Schema) : List Token → Expr → Prop where
  | number (n : Int64) (span : Span) :
      Derives s [⟨.number n, span⟩] (.literal (.int n) span)
  | string (text : String) (span : Span) :
      Derives s [⟨.string text, span⟩] (.literal (.text text) span)
  | column {name : String} {type : ValueType} (span : Span) :
      s.fieldType? name = some type →
      Derives s [⟨.symbol name, span⟩] (.column ⟨s.table, name, type⟩ span)
  | list {opening closing : Token} {items : List (List Token × Expr)}
      {body : List Token} {type : ValueType} :
      opening.lexeme = .separator '(' → closing.lexeme = .separator ')' →
      (∀ i ∈ items, Derives s i.1 i.2) →
      CommaSeparated (items.map Prod.fst) body →
      (∀ i ∈ items, i.2.type = type) → type.isArray = false →
      Derives s (opening :: (body ++ [closing]))
        (.list type (items.map Prod.snd) opening.span)
  | call {index : Nat} {op : Operator} {span : Span} {opening closing : Token}
      {items : List (List Token × Expr)} {body : List Token} {e : Expr} :
      Operator.ofIndex? index = some op →
      opening.lexeme = .separator '(' → closing.lexeme = .separator ')' →
      (∀ i ∈ items, Derives s i.1 i.2) →
      CommaSeparated (items.map Prod.fst) body →
      Applies s.readDate op (items.map Prod.snd) span e →
      Derives s (⟨.operator index, span⟩ :: opening :: (body ++ [closing])) e

/-! ### Nesting -/

/-- The number of open parentheses behind a token, from that before it. -/
def Token.nest (depth : Nat) (t : Token) : Nat :=
  if t.lexeme = .separator '(' then depth + 1
  else if t.lexeme = .separator ')' then depth - 1
  else depth

/-- The number of open parentheses behind tokens, from that before them. -/
def unclosed (depth : Nat) (ts : List Token) : Nat := ts.foldl Token.nest depth

/-- No parenthesis is opened where `max` parentheses or more are open. Before
the first token there are `depth`. -/
def NestsWithin (max depth : Nat) (ts : List Token) : Prop :=
  ∀ before t after, ts = before ++ t :: after →
    t.lexeme = .separator '(' → unclosed depth before < max

@[simp] lemma unclosed_nil (depth : Nat) : unclosed depth [] = depth := rfl

@[simp] lemma unclosed_cons (depth : Nat) (t : Token) (ts : List Token) :
    unclosed depth (t :: ts) = unclosed (t.nest depth) ts := rfl

@[simp] lemma unclosed_append (depth : Nat) (ts us : List Token) :
    unclosed depth (ts ++ us) = unclosed (unclosed depth ts) us :=
  List.foldl_append ..

lemma Token.nest_opening {t : Token} (h : t.lexeme = .separator '(')
    (depth : Nat) : t.nest depth = depth + 1 := by
  rw [Token.nest, if_pos h]

lemma Token.nest_closing {t : Token} (h : t.lexeme = .separator ')')
    (depth : Nat) : t.nest depth = depth - 1 := by
  rw [Token.nest, h]
  rfl

/-- A token that is no parenthesis leaves the number of open ones. -/
lemma Token.nest_other {t : Token} (ho : t.lexeme ≠ .separator '(')
    (hc : t.lexeme ≠ .separator ')') (depth : Nat) : t.nest depth = depth := by
  rw [Token.nest, if_neg ho, if_neg hc]

/-- A token opens one parenthesis at most. -/
lemma Token.nest_le (t : Token) (depth : Nat) : t.nest depth ≤ depth + 1 := by
  rw [Token.nest]
  split_ifs <;> omega

/-- Tokens open one parenthesis each at most. -/
lemma unclosed_le (depth : Nat) (ts : List Token) :
    unclosed depth ts ≤ depth + ts.length := by
  induction ts generalizing depth with
  | nil => simp
  | cons t ts ih =>
      have first := t.nest_le depth
      have rest := ih (t.nest depth)
      simp only [unclosed_cons, List.length_cons]
      omega

lemma nestsWithin_nil (max depth : Nat) : NestsWithin max depth [] := by
  intro before t after h
  simp at h

/-- Tokens nest within a bound when the first one does and the others do
behind it. -/
lemma nestsWithin_cons {max depth : Nat} {t : Token} {ts : List Token} :
    NestsWithin max depth (t :: ts) ↔
      (t.lexeme = .separator '(' → depth < max) ∧
        NestsWithin max (t.nest depth) ts := by
  constructor
  · intro h
    refine ⟨fun ht => h [] t ts rfl ht, ?_⟩
    intro before u after hts hu
    exact h (t :: before) u after (by rw [hts, List.cons_append]) hu
  · rintro ⟨first, rest⟩ before u after h hu
    cases before with
    | nil =>
        obtain ⟨rfl, rfl⟩ := List.cons.inj h
        exact first hu
    | cons b before =>
        obtain ⟨rfl, rfl⟩ := List.cons.inj h
        exact rest before u after rfl hu

/-- Tokens nest within a bound when the first ones do and the others do
behind them. -/
lemma nestsWithin_append {max depth : Nat} {ts us : List Token} :
    NestsWithin max depth (ts ++ us) ↔
      NestsWithin max depth ts ∧ NestsWithin max (unclosed depth ts) us := by
  induction ts generalizing depth with
  | nil => simp [nestsWithin_nil]
  | cons t ts ih =>
      rw [List.cons_append, nestsWithin_cons, nestsWithin_cons, ih,
        unclosed_cons, and_assoc]

/-- Tokens nest within their own number. -/
lemma nestsWithin_length (ts : List Token) : NestsWithin ts.length 0 ts := by
  intro before t after h _
  have few := unclosed_le 0 before
  rw [h, List.length_append, List.length_cons]
  omega

/-- Items that close what they open leave the number of open parentheses,
with the commas between them. -/
lemma CommaSeparated.balanced {tss : List (List Token)} {ts : List Token}
    (h : CommaSeparated tss ts)
    (items : ∀ us ∈ tss, ∀ depth, unclosed depth us = depth) (depth : Nat) :
    unclosed depth ts = depth := by
  induction h with
  | single us => exact items us (by simp) depth
  | @cons us comma tss rest hcomma _ ih =>
      have first := items us (by simp) depth
      have others := ih fun vs hvs => items vs (by simp [hvs])
      rw [unclosed_append, first, unclosed_cons,
        Token.nest_other (by simp [hcomma]) (by simp [hcomma]), others]

/-- What is derived closes the parentheses that it opens. -/
lemma Derives.balanced {s : Schema} {ts : List Token} {e : Expr}
    (h : Derives s ts e) : ∀ depth, unclosed depth ts = depth := by
  have enclosed : ∀ {opening closing : Token}
      {items : List (List Token × Expr)} {body : List Token},
      opening.lexeme = .separator '(' → closing.lexeme = .separator ')' →
      CommaSeparated (items.map Prod.fst) body →
      (∀ i ∈ items, ∀ depth, unclosed depth i.1 = depth) →
      ∀ depth, unclosed depth (opening :: (body ++ [closing])) = depth := by
    intro opening closing items body ho hc hbody ih depth
    have inner := hbody.balanced (by simpa using ih) (depth + 1)
    rw [unclosed_cons, Token.nest_opening ho, unclosed_append, inner,
      unclosed_cons, Token.nest_closing hc, unclosed_nil, Nat.add_sub_cancel]
  induction h with
  | number | string | column => exact fun depth => rfl
  | list ho hc _ hbody _ _ ih => exact enclosed ho hc hbody ih
  | call _ ho hc _ hbody _ ih => exact enclosed ho hc hbody ih

end RowFilter
