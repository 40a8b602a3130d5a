/-
Well-typed expressions, whatever the tokens that they come from.

* `Schema.Declares`: the columns that a schema has.
* `Expr.Typed`: the expressions that obey the typing rules.
* `Typed.eq_list_or_column`, `Typed.eq_single`: what can stand in the place of
  an array, and what can stand in the place of anything but a condition.
* `Derives.typed`, `Compiler.typed_of_parse`: what tokens derive, and what a
  text is parsed as, is well typed.
-/
import Mathlib.Tactic.Common
import RowFilter.Proofs.Grammar.Parse

namespace RowFilter

/-- The columns of the table of a schema, with the types of its fields. -/
def Schema.Declares (s : Schema) (c : Column) : Prop :=
  c.table = s.table ∧ s.fieldType? c.name = some c.type

/-- A column has a type that can be declared. -/
lemma Schema.Declares.isDeclarable {s : Schema} {c : Column}
    (h : s.Declares c) : c.type.isDeclarable = true := by
  have found : s.fields.entries.lookup c.name = some c.type := h.2
  obtain ⟨before, after, split, -⟩ := List.lookup_eq_some_iff.mp found
  have listed : (c.name, c.type) ∈ s.fields.entries := by simp [split]
  exact s.declarable _ listed

/-- A column holds neither conditions nor arrays of conditions. -/
lemma Schema.Declares.type_ne {s : Schema} {c : Column} (h : s.Declares c) :
    c.type ≠ .bool ∧ c.type ≠ .array .bool := by
  have declarable := h.isDeclarable
  constructor
  · intro hty
    rw [hty] at declarable
    cases declarable
  · intro hty
    rw [hty] at declarable
    cases declarable

namespace Expr

/-- The expressions that obey the typing rules. -/
inductive Typed (s : Schema) : Expr → Prop where
  | literal (v : SqlValue) (span : Span) : Typed s (.literal v span)
  /-- A list has items, of one type that is no array. -/
  | list {type : ValueType} {items : List Expr} (span : Span) :
      items ≠ [] → (∀ i ∈ items, Typed s i) → (∀ i ∈ items, i.type = type) →
      type.isArray = false → Typed s (.list type items span)
  | column {c : Column} (span : Span) : s.Declares c → Typed s (.column c span)
  | not {arg : Expr} (span : Span) :
      Typed s arg → arg.type = .bool → Typed s (.not arg span)
  /-- The operands of a comparison have one type. -/
  | compare (op : Comparison) {left right : Expr} (span : Span) :
      Typed s left → Typed s right → left.type = right.type →
      Typed s (.compare op left right span)
  /-- The right operand of a membership is an array of the type of the left
  one. -/
  | isIn {left right : Expr} (span : Span) :
      Typed s left → Typed s right → right.type = .array left.type →
      Typed s (.isIn left right span)
  | like {c : Column} (pattern : String) (span : Span) :
      s.Declares c → Typed s (.like c pattern span)
  | anyLike {c : Column} (pattern : String) (span : Span) :
      s.Declares c → c.type = .array .string →
      Typed s (.anyLike c pattern span)
  | junction (kind : Junction) {args : List Expr} (span : Span) :
      2 ≤ args.length → (∀ a ∈ args, Typed s a) →
      (∀ a ∈ args, a.type = .bool) → Typed s (.junction kind args span)

namespace Typed

variable {s : Schema} {e : Expr}

/-- An array is a list or a column. -/
lemma eq_list_or_column {t : ValueType} (h : e.type = .array t) :
    (∃ items span, e = .list t items span) ∨
      ∃ c span, e = .column c span ∧ c.type = .array t := by
  cases e with
  | literal v span => cases v <;> cases h
  | list type items span =>
      cases h
      exact .inl ⟨items, span, rfl⟩
  | column c span => exact .inr ⟨c, span, rfl, h⟩
  | _ => cases h

/-- What is no condition is a literal, a list or a column. -/
lemma eq_single (h : e.type ≠ .bool) :
    (∃ v span, e = .literal v span) ∨
      (∃ t items span, e = .list t items span) ∨ ∃ c span, e = .column c span := by
  cases e with
  | literal v span => exact .inl ⟨v, span, rfl⟩
  | list type items span => exact .inr (.inl ⟨type, items, span, rfl⟩)
  | column c span => exact .inr (.inr ⟨c, span, rfl⟩)
  | _ => exact absurd rfl h

end Typed

end Expr

open RowFilter.Expr (Typed)

/-- What an operator makes of well-typed operands is well typed. -/
lemma Applies.typed {s : Schema} {op : Operator} {args : List Expr}
    {span : Span} {e : Expr} (h : Applies s.readDate op args span e)
    (hargs : ∀ a ∈ args, Typed s a) : Typed s e := by
  cases h with
  | @compare _ c left right _ _ hty =>
      exact .compare c span (hargs left (by simp)) (hargs right (by simp)) hty
  | @isIn left right _ hty =>
      exact .isIn span (hargs left (by simp)) (hargs right (by simp)) hty
  | and hlen hty => exact .junction .and span hlen hargs hty
  | or hlen hty => exact .junction .or span hlen hargs hty
  | @not arg _ hty => exact .not span (hargs arg (by simp)) hty
  | @like column pattern left right _ =>
      cases hargs (.column column left) (by simp) with
      | column _ declared => exact .like pattern span declared
  | @anyLike column pattern left right _ hty =>
      cases hargs (.column column left) (by simp) with
      | column _ declared => exact .anyLike pattern span declared hty
  | date _ => exact .literal _ span

/-- What tokens derive is well typed. -/
theorem Derives.typed {s : Schema} {ts : List Token} {e : Expr}
    (h : Derives s ts e) : Typed s e := by
  induction h with
  | number n span => exact .literal _ span
  | string text span => exact .literal _ span
  | column span hty => exact .column span ⟨rfl, hty⟩
  | @list opening closing items body type _ _ _ hbody hsame hty ih =>
      have nonempty : items.map Prod.snd ≠ [] := by
        intro hnil
        obtain rfl := List.map_eq_nil_iff.mp hnil
        cases hbody
      refine .list opening.span nonempty ?_ ?_ hty
      · intro a ha
        obtain ⟨i, hi, rfl⟩ := List.mem_map.mp ha
        exact ih i hi
      · intro a ha
        obtain ⟨i, hi, rfl⟩ := List.mem_map.mp ha
        exact hsame i hi
  | call _ _ _ _ _ happ ih =>
      refine happ.typed fun a ha => ?_
      obtain ⟨i, hi, rfl⟩ := List.mem_map.mp ha
      exact ih i hi

namespace Compiler

/-- The limit on the length only rejects texts. -/
lemma parseAnyLength_of_parse {c : Compiler} {text : String} {e : Expr}
    (h : c.parse text = .ok e) : c.parseAnyLength text = .ok e := by
  rw [parse] at h
  split at h
  · split at h
    · cases h
    · exact h
  · exact h

/-- What a text is parsed as is derived from its tokens. -/
lemma derives_of_parse {c : Compiler} {text : String} {e : Expr}
    (h : c.parse text = .ok e) :
    Derives c.schema (filterLexicon.tokenize text).tokens e := by
  obtain ⟨ts, hts, hread, -⟩ :=
    parseAnyLength_eq_ok_iff.mp (parseAnyLength_of_parse h)
  obtain ⟨-, rfl⟩ := TokenStream.toExcept_eq_ok_iff.mp hts
  exact (steps_eq_complete_iff.mp hread).1

/-- What a text is parsed as is well typed. -/
theorem typed_of_parse {c : Compiler} {text : String} {e : Expr}
    (h : c.parse text = .ok e) : Typed c.schema e := (derives_of_parse h).typed

end Compiler

end RowFilter
