/-
How deep expressions are, and how deep the tokens nest that derive them.

* `Expr.operands`, `Expr.Descends`: the expressions right below a node, and
  the ways from a node down to another one.
* `Expr.nesting`: how many parentheses are open at once where an expression is
  written, and `Descends.le_nesting`: no way down is longer.
* `nesting_spanless`: spans do not count in it.
* `Derives.nestsWithin_iff`: tokens nest within a bound exactly when the
  expression that they derive does.
-/
import RowFilter.Proofs.Grammar
import RowFilter.Proofs.Relabel

namespace RowFilter

namespace Expr

/-! ### Ways down -/

/-- The expressions right below a node. -/
def operands : Expr → List Expr
  | .literal .. | .column .. | .like .. | .anyLike .. => []
  | .list _ items _ => items
  | .not arg _ => [arg]
  | .compare _ left right _ | .isIn left right _ => [left, right]
  | .junction _ args _ => args

/-- A way of `n` steps, each of them to an operand, from one expression down
to another. -/
inductive Descends : Nat → Expr → Expr → Prop where
  | here (e : Expr) : Descends 0 e e
  | down {n : Nat} {e operand leaf : Expr} :
      operand ∈ e.operands → Descends n operand leaf → Descends (n + 1) e leaf

/-! ### Parentheses -/

mutual

/-- The number of parentheses that are open at once where an expression is
written: one around the operands of an operator and the items of a list, and
those inside. A date and a pattern stand in parentheses as well. -/
def nesting : Expr → Nat
  | .literal (.int _) _ | .literal (.text _) _ | .column .. => 0
  | .literal (.date _) _ | .like .. | .anyLike .. => 1
  | .list _ items _ => nestingOfAll items + 1
  | .not arg _ => arg.nesting + 1
  | .compare _ left right _ | .isIn left right _ =>
    max left.nesting right.nesting + 1
  | .junction _ args _ => nestingOfAll args + 1

/-- The largest number of parentheses that are open at once in several
expressions. -/
def nestingOfAll : List Expr → Nat
  | [] => 0
  | e :: es => max e.nesting (nestingOfAll es)

end

/-- Expressions stay within a bound when each of them does. -/
lemma nestingOfAll_le_iff {es : List Expr} {n : Nat} :
    nestingOfAll es ≤ n ↔ ∀ e ∈ es, e.nesting ≤ n := by
  induction es with
  | nil => simp [nestingOfAll]
  | cons e es ih => rw [nestingOfAll, Nat.max_le, ih, List.forall_mem_cons]

lemma nesting_le_nestingOfAll {e : Expr} {es : List Expr} (h : e ∈ es) :
    e.nesting ≤ nestingOfAll es :=
  nestingOfAll_le_iff.mp (Nat.le_refl _) e h

/-- The operands of an expression stand in its parentheses. -/
lemma nesting_lt_of_mem_operands {e operand : Expr} (h : operand ∈ e.operands) :
    operand.nesting < e.nesting := by
  cases e with
  | list | junction => exact Nat.lt_succ_of_le (nesting_le_nestingOfAll h)
  | not arg span =>
      obtain rfl := List.mem_singleton.mp h
      exact Nat.lt_succ_self _
  | compare | isIn =>
      simp only [operands, List.mem_cons, List.not_mem_nil, or_false] at h
      rcases h with rfl | rfl
      · exact Nat.lt_succ_of_le (Nat.le_max_left _ _)
      · exact Nat.lt_succ_of_le (Nat.le_max_right _ _)
  | _ => cases h

/-- No way down an expression has more steps than there are parentheses open
at once. -/
theorem Descends.le_nesting {n : Nat} {e leaf : Expr} (h : Descends n e leaf) :
    n ≤ e.nesting := by
  induction h with
  | here e => exact Nat.zero_le _
  | down hoperand _ ih =>
      exact Nat.lt_of_le_of_lt ih (nesting_lt_of_mem_operands hoperand)

lemma nestingOfAll_spanless {es : List Expr}
    (h : ∀ e ∈ es, e.spanless.nesting = e.nesting) :
    nestingOfAll (es.map spanless) = nestingOfAll es := by
  induction es with
  | nil => rfl
  | cons e es ih =>
      obtain ⟨first, others⟩ := List.forall_mem_cons.mp h
      rw [List.map_cons, nestingOfAll, first, ih others, nestingOfAll]

/-- Spans do not count in parentheses. -/
lemma nesting_spanless (e : Expr) : e.spanless.nesting = e.nesting := by
  induction e using Expr.ind with
  | literal v span => cases v <;> rfl
  | list type items span ih =>
      rw [spanless_list, nesting, nestingOfAll_spanless ih, nesting]
  | column c span => rfl
  | not arg span ih => exact congrArg (· + 1) ih
  | compare op left right span ihl ihr => exact congrArg (· + 1) (congrArg₂ max ihl ihr)
  | isIn left right span ihl ihr => exact congrArg (· + 1) (congrArg₂ max ihl ihr)
  | like c pattern span => rfl
  | anyLike c pattern span => rfl
  | junction kind args span ih =>
      rw [spanless_junction, nesting, nestingOfAll_spanless ih, nesting]

end Expr

open RowFilter.Expr (nestingOfAll nestingOfAll_le_iff nesting_le_nestingOfAll)

/-- An operator puts one parenthesis around its operands. -/
lemma Applies.nesting {readDate : DateReader} {op : Operator} {args : List Expr}
    {span : Span} {e : Expr} (h : Applies readDate op args span e) :
    e.nesting = nestingOfAll args + 1 := by
  cases h <;> simp [Expr.nesting, nestingOfAll]

/-! ### Tokens -/

/-- Items that close what they open nest within a bound when each of them
does. -/
lemma CommaSeparated.nestsWithin_iff {tss : List (List Token)} {ts : List Token}
    (h : CommaSeparated tss ts) {max depth : Nat}
    (balanced : ∀ us ∈ tss, unclosed depth us = depth) :
    NestsWithin max depth ts ↔ ∀ us ∈ tss, NestsWithin max depth us := by
  induction h with
  | single us => simp
  | @cons us comma tss rest hcomma _ ih =>
      have first := balanced us (by simp)
      have others := ih fun vs hvs => balanced vs (by simp [hvs])
      have not_opening : comma.lexeme ≠ .separator '(' := by simp [hcomma]
      rw [nestsWithin_append, first, nestsWithin_cons,
        Token.nest_other not_opening (by simp [hcomma]), others, List.forall_mem_cons]
      simp [not_opening]

/-- In parentheses, items that close what they open nest one deeper. -/
lemma nestsWithin_enclosed_iff {opening closing : Token} {max depth : Nat}
    {items : List (List Token × Expr)} {body : List Token}
    (ho : opening.lexeme = .separator '(') (hc : closing.lexeme = .separator ')')
    (hbody : CommaSeparated (items.map Prod.fst) body)
    (balanced : ∀ i ∈ items, ∀ depth, unclosed depth i.1 = depth)
    (inside : ∀ i ∈ items, depth + 1 ≤ max →
      (NestsWithin max (depth + 1) i.1 ↔ depth + 1 + i.2.nesting ≤ max)) :
    NestsWithin max depth (opening :: (body ++ [closing])) ↔
      depth + (nestingOfAll (items.map Prod.snd) + 1) ≤ max := by
  have last : ∀ depth, NestsWithin max depth [closing] := by
    intro depth
    refine nestsWithin_cons.mpr ⟨fun h => ?_, nestsWithin_nil _ _⟩
    rw [hc] at h
    cases h
  have items_iff : NestsWithin max (depth + 1) body ↔
      ∀ i ∈ items, NestsWithin max (depth + 1) i.1 := by
    rw [hbody.nestsWithin_iff (by simpa using fun i hi => balanced i hi (depth + 1)),
      List.forall_mem_map]
  rw [nestsWithin_cons, Token.nest_opening ho, nestsWithin_append, items_iff]
  constructor
  · rintro ⟨room, hitems, -⟩
    have all : ∀ e ∈ items.map Prod.snd, e.nesting ≤ max - (depth + 1) := by
      refine List.forall_mem_map.mpr fun i hi => ?_
      have deep := (inside i hi (room ho)).mp (hitems i hi)
      omega
    have bound := nestingOfAll_le_iff.mpr all
    have one := room ho
    omega
  · intro h
    refine ⟨fun _ => by omega, fun i hi => ?_, last _⟩
    have deep := nesting_le_nestingOfAll (List.mem_map_of_mem (f := Prod.snd) hi)
    exact (inside i hi (by omega)).mpr (by omega)

/-- Tokens nest within a bound exactly when the expression that they derive
does. -/
theorem Derives.nestsWithin_iff {s : Schema} {ts : List Token} {e : Expr}
    (h : Derives s ts e) {max depth : Nat} (room : depth ≤ max) :
    NestsWithin max depth ts ↔ depth + e.nesting ≤ max := by
  induction h generalizing depth with
  | number | string | column =>
      rw [nestsWithin_cons]
      simp [nestsWithin_nil, Expr.nesting, room]
  | list ho hc hitems hbody _ _ ih =>
      exact nestsWithin_enclosed_iff ho hc hbody (fun i hi => (hitems i hi).balanced)
        fun i hi => ih i hi
  | @call index op span opening closing items body e hop ho hc hitems hbody happ ih =>
      rw [nestsWithin_cons, Token.nest_other (by simp) (by simp), happ.nesting,
        nestsWithin_enclosed_iff ho hc hbody (fun i hi => (hitems i hi).balanced)
          fun i hi => ih i hi]
      simp

end RowFilter
