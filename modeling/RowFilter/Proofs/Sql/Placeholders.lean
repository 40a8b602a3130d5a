/-
Placeholders and values belong together.

* `Expr.literals`, `Expr.columns`: the literals and the columns of an expression, from
  left to right.
* `values_parts`: the literals are the values of its condition.
* `legible_parts`: the parts of a condition can be told apart in its text.
* `placeholders_renderInto`: a condition behind a statement leaves the text
  and the values of the statement as they are, adds its literals in order, and
  its placeholders are those of the literals, numbered in order.
-/
import Mathlib.Tactic.Common
import RowFilter.Expr.Sql
import RowFilter.Proofs.Sql.Pieces

namespace RowFilter

/-- The values of lists of parts come one after the other, whatever stands
between the lists. -/
lemma SqlPart.values_sepBy (sep : String) (pss : List (List SqlPart)) :
    values (sepBy sep pss) = pss.flatMap values := filterMap_sepBy (fun _ => rfl) sep pss

/-- The placeholders in the text of legible parts are those of their values,
numbered in order. -/
lemma SqlText.placeholders_textsAfter {ps : List SqlPart} (h : SqlPart.Legible ps)
    (n : Nat) :
    placeholders (SqlPart.textsAfter n ps) =
      (List.range' (n + 1) (SqlPart.values ps).length).map placeholder := by
  rw [placeholders, pieces, scan_textsAfter h, SqlPiece.bounds_number,
    SqlPart.bounds_glyphs]

namespace Expr

open SqlPart (Legible Plain values)

/-! ### Literals and columns -/

mutual

/-- The literals of an expression, from left to right. -/
def literals : Expr → List SqlValue
  | .literal v _ => [v]
  | .list _ items _ => literalsOfAll items
  | .column .. => []
  | .not arg _ => arg.literals
  | .compare _ left right _ => left.literals ++ right.literals
  | .isIn left right _ => left.literals ++ right.literals
  | .like _ pattern _ => [.text pattern]
  | .anyLike _ pattern _ => [.text pattern]
  | .junction _ args _ => literalsOfAll args

/-- The literals of expressions, one after the other. -/
def literalsOfAll : List Expr → List SqlValue
  | [] => []
  | e :: es => e.literals ++ literalsOfAll es

end

mutual

/-- The columns of an expression, from left to right. -/
def columns : Expr → List Column
  | .literal .. => []
  | .list _ items _ => columnsOfAll items
  | .column c _ | .like c _ _ | .anyLike c _ _ => [c]
  | .not arg _ => arg.columns
  | .compare _ left right _ | .isIn left right _ => left.columns ++ right.columns
  | .junction _ args _ => columnsOfAll args

/-- The columns of expressions, one after the other. -/
def columnsOfAll : List Expr → List Column
  | [] => []
  | e :: es => e.columns ++ columnsOfAll es

end

lemma values_column_parts (c : Column) : values c.parts = [] := rfl

/-- The right side of a membership holds the literals of the operand. -/
lemma values_memberParts (right : Expr) :
    values (memberParts right right.parts) = values right.parts := by
  cases right <;> rfl

/-- Joined conditions hold the literals of each. -/
lemma values_sepBy_parts (sep : String) {es : List Expr}
    (h : ∀ e ∈ es, values e.parts = e.literals) :
    values (SqlPart.sepBy sep (partsOfAll es)) = literalsOfAll es := by
  rw [SqlPart.values_sepBy, partsOfAll_eq_map]
  induction es with
  | nil => rfl
  | cons e es ih =>
      have rest := ih fun d hd => h d (by simp [hd])
      rw [List.map_cons, List.flatMap_cons, literalsOfAll, h e (by simp), rest]

/-- The values of a condition are the literals of the expression. -/
theorem values_parts (e : Expr) : values e.parts = e.literals := by
  induction e using Expr.ind with
  | literal v span => rfl
  | list t items span ih =>
      simp [parts, literals, values_sepBy_parts ", " ih]
  | column c span => rfl
  | not arg span ih => simp [parts, literals, ih]
  | compare op left right span ihl ihr => simp [parts, literals, ihl, ihr]
  | isIn left right span ihl ihr =>
      simp [parts, literals, values_memberParts, ihl, ihr]
  | like c pattern span => simp [parts, literals, values_column_parts]
  | anyLike c pattern span => simp [parts, literals, values_column_parts]
  | junction kind args span ih =>
      simp [parts, literals, values_sepBy_parts kind.separator ih]

/-! ### The parts of a condition -/

lemma legible_column_parts (c : Column) : Legible c.parts :=
  .before (fun _ h => nomatch h) (.raw (by decide) (.last _ fun _ h => nomatch h))

/-- A value behind a plain text is legible. -/
lemma legible_raw_value {s : String} (hs : Plain s) (v : SqlValue) :
    Legible [.raw s, .value v] :=
  .raw hs (.last _ fun _ h => nomatch h)

/-- The right side of a membership begins with a raw text, and is legible. -/
lemma exists_memberParts {right : Expr} (h : Legible right.parts) :
    ∃ s ps, memberParts right right.parts = .raw s :: ps ∧
      Legible (.raw s :: ps) := by
  have searched : Plain " = ANY(" ∧ Plain ")" ∧ Plain " IN " := by decide
  obtain ⟨any, closing, isIn⟩ := searched
  cases right with
  | column c span =>
      have inner := (legible_column_parts c).append (.raw closing .nil)
      exact ⟨_, _, rfl, .raw any inner⟩
  | _ => exact ⟨_, _, rfl, .raw isIn h⟩

/-- Conditions in parentheses are legible. -/
lemma legible_sepBy_parts {sep : String} (hs : Plain sep) {es : List Expr}
    (h : ∀ e ∈ es, Legible e.parts) :
    Legible (.raw "(" :: SqlPart.sepBy sep (partsOfAll es) ++ [.raw ")"]) := by
  have inner : Legible (SqlPart.sepBy sep (partsOfAll es)) := by
    rw [partsOfAll_eq_map]
    refine Legible.sepBy hs ?_
    rintro _ hps
    obtain ⟨e, he, rfl⟩ := List.mem_map.mp hps
    exact h e he
  exact .raw (by decide) (inner.append (.raw (by decide) .nil))

lemma plain_symbol (op : Comparison) : Plain op.symbol := by
  cases op <;> decide

lemma plain_separator (kind : Junction) : Plain kind.separator := by
  cases kind <;> decide

/-- The parts of a condition can be told apart in its text. -/
theorem legible_parts (e : Expr) : Legible e.parts := by
  induction e using Expr.ind with
  | literal v span => exact .last _ fun _ h => nomatch h
  | list t items span ih => exact legible_sepBy_parts (by decide) ih
  | column c span => exact legible_column_parts c
  | not arg span ih =>
      exact .raw (by decide) (ih.append (.raw (by decide) .nil))
  | compare op left right span ihl ihr =>
      have blank : Plain " " := by decide
      exact ihl.append (.raw blank (.raw (plain_symbol op) (.raw blank ihr)))
  | isIn left right span ihl ihr =>
      obtain ⟨s, ps, shown, legible⟩ := exists_memberParts ihr
      rw [parts, shown]
      exact ihl.append legible
  | like c pattern span =>
      exact (legible_column_parts c).append (legible_raw_value (by decide) _)
  | anyLike c pattern span =>
      have closing : Legible [.value (.text pattern), .raw ")"] :=
        .before (fun _ h => nomatch h) (.raw (by decide) .nil)
      exact .raw (by decide)
        ((legible_column_parts c).append (.raw (by decide) closing))
  | junction kind args span ih =>
      exact legible_sepBy_parts (plain_separator kind) ih

/-! ### Placeholders -/

/-- A condition behind a statement leaves the text and the values of the
statement as they are. It adds the literals of the expression, from left to
right, and the placeholders in the text that it adds are those of the
literals, in the same order. -/
theorem placeholders_renderInto (e : Expr) (st : Statement) :
    ∃ fragment,
      (e.renderInto st).text = st.text ++ fragment ∧
      (e.renderInto st).params.toList = st.params.toList ++ e.literals ∧
      SqlText.placeholders fragment =
        (List.range' (st.params.size + 1) e.literals.length).map placeholder := by
  refine ⟨SqlPart.textsAfter st.params.size e.parts, ?_, ?_, ?_⟩
  · exact st.text_writeAll e.parts
  · rw [renderInto, st.params_writeAll, values_parts]
  · rw [SqlText.placeholders, SqlText.pieces,
      SqlText.scan_textsAfter e.legible_parts, SqlPiece.bounds_number,
      SqlPart.bounds_glyphs, values_parts]

/-- A name that looks like a placeholder is none. -/
example :
    SqlText.placeholders
        ((Expr.like ⟨"t", "a\"$7", .string⟩ "%" ⟨0, 4⟩).toSql).text =
      ["$1"] := by
  decide +kernel

end Expr

end RowFilter
