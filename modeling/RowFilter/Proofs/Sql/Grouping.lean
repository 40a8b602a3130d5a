/-
Grouping of comparisons in the text of a condition.

* `Expr.onLast`, `Expr.rightward`: a comparison of conditions is grouped to
  the right, as in `a = (b = c)` for `(a = b) = c`.
* `parts_rightward`: grouping does not show in the text.
* `SqlPhrase.read`: the expression, grouped to the right, that a row of terms
  stands for.
* `Typed.readsBack`: a well-typed expression is read back from its row of
  terms, up to spans and grouping.
* `Expr.IsRightGrouped`: no comparison of conditions stands on the left of
  another one.
* `toSql_eq_iff_rightward_eq`: when two filters have the same condition.
* `toSql_leftChain_eq`: two filters that differ, with the same condition.
-/
import RowFilter.Proofs.Grammar.Typed
import RowFilter.Proofs.Relabel
import RowFilter.Proofs.Sql.Phrase

namespace RowFilter

namespace Expr

/-! ### Grouping to the right -/

/-- Changes the last one of the conditions that an expression compares. -/
def onLast (f : Expr → Expr) : Expr → Expr
  | .compare op left right s =>
    if right.type = .bool then .compare op left (right.onLast f) s
    else f (.compare op left right s)
  | e => f e

mutual

/-- The expression with its comparisons of conditions grouped to the right. -/
def rightward : Expr → Expr
  | .literal v s => .literal v s
  | .list t items s => .list t (rightwardAll items) s
  | .column c s => .column c s
  | .not arg s => .not arg.rightward s
  | .compare op left right s =>
    left.rightward.onLast fun last => .compare op last right.rightward s
  | .isIn left right s =>
    left.rightward.onLast fun last => .isIn last right.rightward s
  | .like c pattern s => .like c pattern s
  | .anyLike c pattern s => .anyLike c pattern s
  | .junction kind args s => .junction kind (rightwardAll args) s

/-- Expressions with their comparisons of conditions grouped to the right. -/
def rightwardAll : List Expr → List Expr
  | [] => []
  | e :: es => e.rightward :: rightwardAll es

end

lemma rightwardAll_eq_map (es : List Expr) :
    rightwardAll es = es.map rightward := by
  induction es with
  | nil => rfl
  | cons e es ih => rw [rightwardAll, ih, List.map_cons]

section OnLast

variable {f g : Expr → Expr} {e : Expr}

/-- What is no condition is changed itself. -/
lemma onLast_of_type_ne (h : e.type ≠ .bool) : e.onLast f = f e := by
  cases e with
  | compare op left right s => exact absurd rfl h
  | _ => rfl

/-- A condition stays one when its last condition becomes one. -/
lemma type_onLast (h : ∀ x, (f x).type = .bool) : (e.onLast f).type = .bool := by
  cases e with
  | compare op left right s =>
      rw [onLast]
      split
      · rfl
      · exact h _
  | _ => exact h _

/-- Only conditions are changed in a condition. -/
lemma onLast_congr (h : ∀ x, x.type = .bool → f x = g x) (he : e.type = .bool) :
    e.onLast f = e.onLast g := by
  induction e using Expr.ind with
  | compare op left right s ihl ihr =>
      rw [onLast, onLast]
      split
      · next hr => rw [ihr hr]
      · exact h _ rfl
  | _ => exact h _ he

/-- The last condition is changed twice, if it stays one at first. -/
lemma onLast_onLast (h : ∀ x, (f x).type = .bool) :
    (e.onLast f).onLast g = e.onLast fun x => (f x).onLast g := by
  induction e using Expr.ind with
  | compare op left right s ihl ihr =>
      by_cases hr : right.type = .bool
      · rw [onLast, if_pos hr, onLast, if_pos (type_onLast h), ihr, onLast,
          if_pos hr]
      · rw [onLast, if_neg hr, onLast, if_neg hr]
  | _ => rfl

/-- What is written behind the last condition is written behind all. -/
lemma parts_onLast {ps : List SqlPart} (h : ∀ x, (f x).parts = x.parts ++ ps) :
    (e.onLast f).parts = e.parts ++ ps := by
  induction e using Expr.ind with
  | compare op left right s ihl ihr =>
      rw [onLast]
      split
      · rw [parts, ihr, parts]
        simp
      · exact h _
  | _ => exact h _

lemma onLast_ne_column (h : ∀ x c s, f x ≠ .column c s) (c : Column) (s : Span) :
    e.onLast f ≠ .column c s := by
  cases e with
  | compare op left right t =>
      rw [onLast]
      split
      · exact fun h => nomatch h
      · exact h _ c s
  | _ => exact h _ c s

end OnLast

/-- Grouping keeps the type. -/
@[simp] lemma type_rightward (e : Expr) : e.rightward.type = e.type := by
  cases e with
  | compare op left right s => exact type_onLast fun _ => rfl
  | isIn left right s => exact type_onLast fun _ => rfl
  | _ => rfl

/-- What is no column is searched as a list. -/
lemma memberParts_of_ne_column {e : Expr} (h : ∀ c s, e ≠ .column c s)
    (ps : List SqlPart) : memberParts e ps = .raw " IN " :: ps := by
  cases e with
  | column c s => exact absurd rfl (h c s)
  | _ => rfl

lemma memberParts_rightward (e : Expr) (ps : List SqlPart) :
    memberParts e.rightward ps = memberParts e ps := by
  cases e with
  | compare op left right s =>
      have ne : ∀ x c t, compare op x right.rightward s ≠ .column c t :=
        fun _ _ _ h => nomatch h
      exact memberParts_of_ne_column (onLast_ne_column ne) ps
  | isIn left right s =>
      have ne : ∀ x c t, isIn x right.rightward s ≠ .column c t :=
        fun _ _ _ h => nomatch h
      exact memberParts_of_ne_column (onLast_ne_column ne) ps
  | _ => rfl

lemma partsOfAll_rightwardAll {es : List Expr}
    (h : ∀ e ∈ es, e.rightward.parts = e.parts) :
    partsOfAll (rightwardAll es) = partsOfAll es := by
  rw [partsOfAll_eq_map, partsOfAll_eq_map, rightwardAll_eq_map, List.map_map]
  exact List.map_congr_left h

/-- Grouping does not show in the text of a condition. -/
theorem parts_rightward (e : Expr) : e.rightward.parts = e.parts := by
  induction e using Expr.ind with
  | list t items s ih =>
      rw [rightward, parts, partsOfAll_rightwardAll ih, parts]
  | not arg s ih => rw [rightward, parts, ih, parts]
  | compare op left right s ihl ihr =>
      have behind : ∀ x, (compare op x right.rightward s).parts =
          x.parts ++ .raw " " :: .raw op.symbol :: .raw " " :: right.parts := by
        intro x
        rw [parts, ihr]
      rw [rightward, parts_onLast behind, ihl, parts]
  | isIn left right s ihl ihr =>
      have behind : ∀ x, (isIn x right.rightward s).parts =
          x.parts ++ memberParts right right.parts := by
        intro x
        rw [parts, ihr, memberParts_rightward]
      rw [rightward, parts_onLast behind, ihl, parts]
  | junction kind args s ih =>
      rw [rightward, parts, partsOfAll_rightwardAll ih, parts]
  | _ => rfl

end Expr

/-! ### Reading rows of terms -/

/-- A field of the table of a schema. -/
def Schema.columnOf (s : Schema) (table name : String) : Column :=
  ⟨table, name, (s.fieldType? name).getD .bool⟩

lemma Schema.columnOf_eq {s : Schema} {c : Column} (h : s.Declares c) :
    s.columnOf c.table c.name = c := by
  rw [columnOf, h.2]
  rfl

/-- Expressions between parentheses: a list, or joined conditions. -/
def SqlSeparator.enclose (items : List Expr) : SqlSeparator → Expr
  | .comma => .list ((items.head?.map Expr.type).getD .bool) items ⟨0, 0⟩
  | .joined kind => .junction kind items ⟨0, 0⟩

/-- The separator between rows of terms. -/
def SqlPhrases.separator : SqlPhrases → SqlSeparator
  | .next _ s _ => s
  | _ => .comma

/-- Two operands with a relation between them. What is compared with an array
of its type is searched in it. -/
def SqlRelation.relate (left right : Expr) : SqlRelation → Expr
  | .compared op =>
    if right.type = .array left.type then .isIn left right ⟨0, 0⟩
    else .compare op left right ⟨0, 0⟩
  | .within => .isIn left right ⟨0, 0⟩
  | .matched =>
    match left, right with
    | .column c _, .literal (.text pattern) _ => .like c pattern ⟨0, 0⟩
    | _, _ => left

/-- The comparison of a condition with all that follows it. What is no
condition is compared with the next term only. -/
def SqlRelation.ahead? (left : Expr) : SqlRelation → Option Comparison
  | .compared op => if left.type = .bool then some op else none
  | _ => none

mutual

/-- The expression that a term stands for. -/
def SqlTerm.read (s : Schema) : SqlTerm → Expr
  | .value v => .literal v ⟨0, 0⟩
  | .column table name => .column (s.columnOf table name) ⟨0, 0⟩
  | .anyOf table name => .column (s.columnOf table name) ⟨0, 0⟩
  | .anyLike table name pattern =>
    match pattern with
    | .text p => .anyLike (s.columnOf table name) p ⟨0, 0⟩
    | v => .literal v ⟨0, 0⟩
  | .not condition => .not (condition.read s) ⟨0, 0⟩
  | .group rows => rows.separator.enclose (rows.read s)

/-- The expression that terms in a row stand for. -/
def SqlPhrase.read (s : Schema) : SqlPhrase → Expr
  | .last t => t.read s
  | .next t r p => p.readBehind s (t.read s) r

/-- The expression that terms in a row behind an operand stand for. -/
def SqlPhrase.readBehind (s : Schema) (left : Expr) (r : SqlRelation) :
    SqlPhrase → Expr
  | .last t =>
    match r.ahead? left with
    | some op => .compare op left (t.read s) ⟨0, 0⟩
    | none => r.relate left (t.read s)
  | .next t r' p =>
    match r.ahead? left with
    | some op => .compare op left (p.readBehind s (t.read s) r') ⟨0, 0⟩
    | none => p.readBehind s (r.relate left (t.read s)) r'

/-- The expressions that rows of terms stand for. -/
def SqlPhrases.read (s : Schema) : SqlPhrases → List Expr
  | .none => []
  | .last p => [p.read s]
  | .next p _ ps => p.read s :: ps.read s

end

namespace SqlPhrase

/-- A condition is compared with all that follows. -/
lemma readBehind_of_condition (s : Schema) {left : Expr} (op : Comparison)
    (h : left.type = .bool) (p : SqlPhrase) :
    p.readBehind s left (.compared op) = .compare op left (p.read s) ⟨0, 0⟩ := by
  have ahead : (SqlRelation.compared op).ahead? left = some op := if_pos h
  cases p with
  | last t => rw [readBehind, ahead, read]
  | next t r p => rw [readBehind, ahead, read]

lemma join_join : (p : SqlPhrase) → (r r' : SqlRelation) → (q q' : SqlPhrase) →
    (p.join r q).join r' q' = p.join r (q.join r' q')
  | .last t, r, r', q, q' => rfl
  | .next t r'' p, r, r', q, q' => by
      rw [join, join, join_join p r r' q q', join]

end SqlPhrase

namespace Expr

variable {s : Schema} {e : Expr}

/-- An expression is read back from its row of terms, up to spans and
grouping, and what stands behind it belongs to its last condition. -/
def ReadsBack (s : Schema) (e : Expr) : Prop :=
  e.phrase.read s = e.spanless.rightward ∧
    ∀ r p, (e.phrase.join r p).read s =
      e.spanless.rightward.onLast fun last => p.readBehind s last r

/-- A term on its own is read back. -/
lemma readsBack_of_term {t : SqlTerm} (shown : e.phrase = .last t)
    (read : t.read s = e.spanless.rightward)
    (last : ∀ f, e.spanless.rightward.onLast f = f e.spanless.rightward) :
    e.ReadsBack s := by
  constructor
  · rw [shown]
    exact read
  · intro r p
    rw [shown, last, ← read]
    rfl

/-- Two terms are read back if the first one is no condition. -/
lemma readsBack_of_pair {t u : SqlTerm} {r : SqlRelation}
    (shown : e.phrase = .next t r (.last u)) (type : (t.read s).type ≠ .bool)
    (read : r.relate (t.read s) (u.read s) = e.spanless.rightward)
    (last : ∀ f, e.spanless.rightward.onLast f = f e.spanless.rightward) :
    e.ReadsBack s := by
  have ahead : r.ahead? (t.read s) = none := by
    cases r with
    | compared op => exact if_neg type
    | _ => rfl
  constructor
  · rw [shown, SqlPhrase.read, SqlPhrase.readBehind, ahead]
    exact read
  · intro r' p
    rw [shown, SqlPhrase.join, SqlPhrase.read, SqlPhrase.join,
      SqlPhrase.readBehind, ahead, last, ← read]

lemma read_phrases (sep : SqlSeparator) {es : List Expr}
    (h : ∀ e ∈ es, e.ReadsBack s) :
    (phrases sep es).read s = es.map fun e => e.spanless.rightward := by
  induction es with
  | nil => rfl
  | cons e es ih =>
      have first := (h e (by simp)).1
      have rest := ih fun d hd => h d (by simp [hd])
      cases es with
      | nil => rw [phrases, SqlPhrases.read, first]; rfl
      | cons f es => rw [phrases, SqlPhrases.read, first, rest]; rfl

lemma rightwardAll_relabelAll (m : Relabelling) (es : List Expr) :
    rightwardAll (relabelAll m es) = es.map fun e => (e.relabel m).rightward := by
  rw [relabelAll_eq_map, rightwardAll_eq_map, List.map_map]
  rfl

/-- Lists are read as lists, however many items they have. -/
lemma separator_phrases_comma (es : List Expr) :
    (phrases .comma es).separator = .comma := by
  rcases es with _ | ⟨e, _ | ⟨f, es⟩⟩ <;> rfl

/-- A literal, a list or a column is a term on its own. -/
lemma exists_term (h : e.type ≠ .bool) : ∃ t, e.phrase = .last t := by
  rcases Typed.eq_single h with ⟨v, span, rfl⟩ | ⟨type, items, span, rfl⟩ |
    ⟨c, span, rfl⟩
  · exact ⟨_, rfl⟩
  · exact ⟨_, rfl⟩
  · exact ⟨_, rfl⟩

/-- No type is the type of its own items. -/
lemma not_array_self (t : ValueType) : t ≠ .array t := by
  intro h
  cases h

/-- A comparison is read back if its operands are. -/
lemma readsBack_compare {left right : Expr} (op : Comparison) (span : Span)
    (same : left.type = right.type) (hl : left.ReadsBack s)
    (hr : right.ReadsBack s) : (compare op left right span).ReadsBack s := by
  have regrouped : (compare op left right span).spanless.rightward =
      left.spanless.rightward.onLast
        fun last => .compare op last right.spanless.rightward ⟨0, 0⟩ := rfl
  by_cases hty : left.type = .bool
  · -- the last condition on the left is compared with all that follows
    have ahead : ∀ p : SqlPhrase, left.spanless.rightward.onLast
        (fun last => p.readBehind s last (.compared op)) =
        left.spanless.rightward.onLast
          (fun last => .compare op last (p.read s) ⟨0, 0⟩) := by
      intro p
      refine onLast_congr (fun last h => p.readBehind_of_condition s op h) ?_
      simpa using hty
    have type : right.spanless.rightward.type = .bool := by
      simpa using same.symm.trans hty
    constructor
    · rw [phrase, hl.2, ahead, hr.1, regrouped]
    · intro r p
      rw [phrase, SqlPhrase.join_join, hl.2, ahead, hr.2, regrouped,
        onLast_onLast fun _ => rfl]
      refine congrArg (onLast · _) (funext fun last => ?_)
      rw [onLast, if_pos type]
  · -- both operands are terms on their own
    have typel : left.spanless.rightward.type ≠ .bool := by simpa using hty
    have typer : right.spanless.rightward.type = left.spanless.rightward.type := by
      simpa using same.symm
    have alone := regrouped.trans (onLast_of_type_ne typel)
    obtain ⟨t, ht⟩ := exists_term hty
    obtain ⟨u, hu⟩ := exists_term (same ▸ hty)
    have readl : t.read s = left.spanless.rightward := by
      rw [← hl.1, ht, SqlPhrase.read]
    have readr : u.read s = right.spanless.rightward := by
      rw [← hr.1, hu, SqlPhrase.read]
    refine readsBack_of_pair (t := t) (u := u) (r := .compared op) ?_ ?_ ?_ ?_
    · rw [phrase, ht, hu, SqlPhrase.join]
    · rwa [readl]
    · rw [readl, readr, alone, SqlRelation.relate, typer,
        if_neg (not_array_self _)]
    · intro f
      rw [alone, onLast, if_neg (typer ▸ typel)]

/-- A membership is read back if its operands are. -/
lemma readsBack_isIn {left right : Expr} (span : Span) (typed : Typed s right)
    (hty : right.type = .array left.type) (hl : left.ReadsBack s)
    (hr : right.ReadsBack s) : (isIn left right span).ReadsBack s := by
  have regrouped : (isIn left right span).spanless.rightward =
      left.spanless.rightward.onLast
        fun last => .isIn last right.spanless.rightward ⟨0, 0⟩ := rfl
  rcases Typed.eq_list_or_column hty with
    ⟨items, span', rfl⟩ | ⟨c, span', rfl, hc⟩
  · -- the last condition on the left is searched in the list
    have readr := hr.1
    rw [phrase, SqlPhrase.read] at readr
    constructor
    · rw [phrase, memberPhrase, hl.2, regrouped, ← readr]
      · rfl
      · intro _ _ h
        cases h
    · intro r p
      rw [phrase, memberPhrase, SqlPhrase.join_join, hl.2, regrouped,
        onLast_onLast fun _ => rfl, ← readr]
      · rfl
      · intro _ _ h
        cases h
  · -- a column is searched for a term on its own
    cases typed with
    | column _ declared =>
    have hne : left.type ≠ .bool := by
      intro h
      rw [h] at hc
      exact declared.type_ne.2 hc
    have typel : left.spanless.rightward.type ≠ .bool := by simpa using hne
    have alone := regrouped.trans (onLast_of_type_ne typel)
    obtain ⟨t, ht⟩ := exists_term hne
    have readl : t.read s = left.spanless.rightward := by
      rw [← hl.1, ht, SqlPhrase.read]
    refine readsBack_of_pair (t := t) (u := .anyOf c.table c.name)
      (r := .compared .equal) ?_ ?_ ?_ ?_
    · rw [phrase, memberPhrase, ht, SqlPhrase.join]
    · rwa [readl]
    · have found : c.type = .array left.spanless.rightward.type := by simpa using hc
      rw [readl, SqlTerm.read, Schema.columnOf_eq declared, alone,
        SqlRelation.relate]
      exact if_pos found
    · intro f
      rw [alone]
      rfl

/-- A well-typed expression is read back from its row of terms. -/
theorem Typed.readsBack (h : Typed s e) : e.ReadsBack s := by
  induction h with
  | literal v span =>
      refine readsBack_of_term (t := .value v) rfl ?_ fun _ => rfl
      cases v <;> rfl
  | @list type items span nonempty _ same _ ih =>
      refine readsBack_of_term rfl ?_ fun _ => rfl
      have itemType : ((items.map fun e => e.spanless.rightward).head?.map
          Expr.type).getD .bool = type := by
        obtain ⟨i, rest, rfl⟩ := List.exists_cons_of_ne_nil nonempty
        simpa using same i (by simp)
      rw [SqlTerm.read, read_phrases .comma ih, separator_phrases_comma,
        SqlSeparator.enclose, itemType, spanless, relabel, rightward,
        rightwardAll_relabelAll]
      rfl
  | @column c span declared =>
      refine readsBack_of_term rfl ?_ fun _ => rfl
      rw [SqlTerm.read, Schema.columnOf_eq declared]
      rfl
  | @not arg span _ _ ih =>
      refine readsBack_of_term rfl ?_ fun _ => rfl
      rw [SqlTerm.read, ih.1]
      rfl
  | compare op span _ _ same ihl ihr => exact readsBack_compare op span same ihl ihr
  | isIn span typed typed' hty ihl ihr =>
      exact readsBack_isIn span typed' hty ihl ihr
  | @like c pattern span declared =>
      have read : (SqlTerm.column c.table c.name).read s = .column c ⟨0, 0⟩ := by
        rw [SqlTerm.read, Schema.columnOf_eq declared]
      refine readsBack_of_pair rfl ?_ ?_ fun _ => rfl
      · rw [read]
        exact declared.type_ne.1
      · rw [read]
        rfl
  | @anyLike c pattern span declared _ =>
      refine readsBack_of_term rfl ?_ fun _ => rfl
      rw [SqlTerm.read, Schema.columnOf_eq declared]
      rfl
  | @junction kind args span two _ _ ih =>
      refine readsBack_of_term rfl ?_ fun _ => rfl
      have separator : (phrases (.joined kind) args).separator = .joined kind := by
        rcases args with _ | ⟨a, _ | ⟨b, args⟩⟩
        · cases two
        · simp at two
        · rfl
      rw [SqlTerm.read, read_phrases (.joined kind) ih, separator,
        SqlSeparator.enclose, spanless, relabel, rightward,
        rightwardAll_relabelAll]
      rfl

/-! ### Filters grouped to the right -/

/-- Whether an expression compares two conditions. -/
def ComparesConditions : Expr → Prop
  | .compare _ _ right _ => right.type = .bool
  | _ => False

mutual

/-- No comparison of conditions stands on the left of another comparison, or
of a membership. -/
def IsRightGrouped : Expr → Prop
  | .literal .. | .column .. | .like .. | .anyLike .. => True
  | .list _ items _ => areRightGrouped items
  | .not arg _ => arg.IsRightGrouped
  | .compare _ left right _ | .isIn left right _ =>
    ¬ left.ComparesConditions ∧ left.IsRightGrouped ∧ right.IsRightGrouped
  | .junction _ args _ => areRightGrouped args

/-- All of these expressions are grouped to the right. -/
def areRightGrouped : List Expr → Prop
  | [] => True
  | e :: es => e.IsRightGrouped ∧ areRightGrouped es

end

lemma areRightGrouped_iff {es : List Expr} :
    areRightGrouped es ↔ ∀ e ∈ es, e.IsRightGrouped := by
  induction es with
  | nil => simp [areRightGrouped]
  | cons e es ih => simp [areRightGrouped, ih]

/-- An expression that compares no conditions is changed itself. -/
lemma onLast_of_not_comparesConditions {f : Expr → Expr}
    (h : ¬ e.ComparesConditions) : e.onLast f = f e := by
  cases e with
  | compare op left right s => exact if_neg h
  | _ => rfl

lemma rightwardAll_eq_self {es : List Expr} (h : areRightGrouped es)
    (ih : ∀ e ∈ es, e.IsRightGrouped → e.rightward = e) : rightwardAll es = es := by
  rw [rightwardAll_eq_map]
  refine (List.map_congr_left fun e he => ?_).trans (List.map_id es)
  exact ih e he (areRightGrouped_iff.mp h e he)

/-- What is grouped to the right stays as it is. -/
theorem rightward_eq_self (h : e.IsRightGrouped) : e.rightward = e := by
  induction e using Expr.ind with
  | list t items s ih => rw [rightward, rightwardAll_eq_self h ih]
  | not arg s ih => rw [rightward, ih h]
  | compare op left right s ihl ihr =>
      obtain ⟨hne, hl, hr⟩ := h
      rw [rightward, ihl hl, ihr hr, onLast_of_not_comparesConditions hne]
  | isIn left right s ihl ihr =>
      obtain ⟨hne, hl, hr⟩ := h
      rw [rightward, ihl hl, ihr hr, onLast_of_not_comparesConditions hne]
  | junction kind args s ih => rw [rightward, rightwardAll_eq_self h ih]
  | _ => rfl

lemma comparesConditions_relabel (m : Relabelling) :
    (e.relabel m).ComparesConditions ↔ e.ComparesConditions := by
  cases e with
  | compare op left right s =>
      rw [relabel, ComparesConditions, ComparesConditions, type_relabel]
  | _ => rfl

lemma areRightGrouped_relabelAll (m : Relabelling) {es : List Expr}
    (ih : ∀ e ∈ es, (e.relabel m).IsRightGrouped ↔ e.IsRightGrouped) :
    areRightGrouped (relabelAll m es) ↔ areRightGrouped es := by
  rw [relabelAll_eq_map, areRightGrouped_iff, areRightGrouped_iff,
    List.forall_mem_map]
  exact forall₂_congr ih

/-- Grouping does not depend on spans and literals. -/
lemma isRightGrouped_relabel (m : Relabelling) (e : Expr) :
    (e.relabel m).IsRightGrouped ↔ e.IsRightGrouped := by
  induction e using Expr.ind with
  | list t items s ih => exact areRightGrouped_relabelAll m ih
  | not arg s ih => exact ih
  | compare op left right s ihl ihr =>
      rw [relabel, IsRightGrouped, comparesConditions_relabel, ihl, ihr,
        IsRightGrouped]
  | isIn left right s ihl ihr =>
      rw [relabel, IsRightGrouped, comparesConditions_relabel, ihl, ihr,
        IsRightGrouped]
  | junction kind args s ih => exact areRightGrouped_relabelAll m ih
  | _ => rfl

/-! ### Filters with the same condition -/

lemma toSql_eq_of_parts_eq {f : Expr} (h : e.parts = f.parts) :
    e.toSql = f.toSql := by
  rw [toSql, renderInto, h, toSql, renderInto]

/-- Well-typed expressions have the same condition exactly when they agree up
to spans and the grouping of comparisons. -/
lemma toSql_eq_iff_of_typed {f : Expr} (he : Typed s e) (hf : Typed s f) :
    e.toSql = f.toSql ↔ e.spanless.rightward = f.spanless.rightward := by
  constructor
  · intro h
    calc e.spanless.rightward
        = e.phrase.read s := he.readsBack.1.symm
      _ = f.phrase.read s := by rw [phrase_eq_of_toSql_eq h]
      _ = f.spanless.rightward := hf.readsBack.1
  · intro h
    refine toSql_eq_of_parts_eq ?_
    rw [← parts_spanless, ← parts_rightward, h, parts_rightward, parts_spanless]

end Expr

/-- **Two filters have the same condition exactly when they agree up to spans
and the grouping of comparisons of conditions**, which the text does not show.
If no comparison of conditions stands on the left of another comparison or of
a membership, filters with the same condition agree up to spans. -/
theorem Compiler.toSql_eq_iff_rightward_eq {c : Compiler} {text text' : String}
    {e f : Expr} (he : c.parse text = .ok e) (hf : c.parse text' = .ok f) :
    (e.toSql = f.toSql ↔ e.spanless.rightward = f.spanless.rightward) ∧
      (e.IsRightGrouped → f.IsRightGrouped →
        (e.toSql = f.toSql ↔ e.spanless = f.spanless)) := by
  have key := Expr.toSql_eq_iff_of_typed (typed_of_parse he) (typed_of_parse hf)
  refine ⟨key, fun ge gf => ?_⟩
  have grouped := (Expr.isRightGrouped_relabel .spanless e).mpr ge
  have grouped' := (Expr.isRightGrouped_relabel .spanless f).mpr gf
  rw [key, Expr.spanless, Expr.spanless, Expr.rightward_eq_self grouped,
    Expr.rightward_eq_self grouped']

/-! ### Two filters with one condition -/

/-- A compiler for a table without fields that reads no dates. -/
def Compiler.fieldless : Compiler where
  schema := {
    table := "t"
    fields := .empty
    readDate := fun _ => .error "no dates"
    named := by decide
    declarable := fun _ h => nomatch h }

/-- The filter `EQ(m,n)` of two digits, from a place of a text on. -/
def Expr.digitsEqual (m n : Int64) (place : Nat) : Expr :=
  .compare .equal (.literal (.int m) ⟨place + 3, place + 4⟩)
    (.literal (.int n) ⟨place + 5, place + 6⟩) ⟨place, place + 2⟩

/-- Three conditions compared, grouped to the left. -/
def Expr.leftChain : Expr :=
  .compare .greater
    (.compare .greater (digitsEqual 1 2 6) (digitsEqual 3 4 14) ⟨3, 5⟩)
    (digitsEqual 5 6 23) ⟨0, 2⟩

/-- The same three conditions compared, grouped to the right. -/
def Expr.rightChain : Expr :=
  .compare .greater (digitsEqual 1 2 3)
    (.compare .greater (digitsEqual 3 4 14) (digitsEqual 5 6 22) ⟨11, 13⟩) ⟨0, 2⟩

lemma parse_leftChain :
    Compiler.fieldless.parse "GT(GT(EQ(1,2),EQ(3,4)),EQ(5,6))" =
      .ok .leftChain := by
  decide +kernel

lemma parse_rightChain :
    Compiler.fieldless.parse "GT(EQ(1,2),GT(EQ(3,4),EQ(5,6)))" =
      .ok .rightChain := by
  decide +kernel

/-- Three compared conditions have one text and one list of values, however
they are grouped. -/
theorem toSql_leftChain_eq :
    Compiler.fieldless.parse "GT(GT(EQ(1,2),EQ(3,4)),EQ(5,6))" =
        .ok .leftChain ∧
      Compiler.fieldless.parse "GT(EQ(1,2),GT(EQ(3,4),EQ(5,6)))" =
        .ok .rightChain ∧
      Expr.leftChain.toSql = Expr.rightChain.toSql ∧
      Expr.leftChain.spanless ≠ Expr.rightChain.spanless :=
  ⟨parse_leftChain, parse_rightChain, by decide, by decide⟩

/-- Grouped to the right, the two filters are one. -/
theorem rightward_leftChain_eq :
    Compiler.fieldless.parse "GT(GT(EQ(1,2),EQ(3,4)),EQ(5,6))" =
        .ok .leftChain ∧
      Compiler.fieldless.parse "GT(EQ(1,2),GT(EQ(3,4),EQ(5,6)))" =
        .ok .rightChain ∧
      Expr.leftChain.toSql = Expr.rightChain.toSql ∧
      Expr.leftChain.spanless.rightward = Expr.rightChain.spanless.rightward := by
  have same : Expr.leftChain.toSql = Expr.rightChain.toSql := by decide
  have key := Compiler.toSql_eq_iff_rightward_eq parse_leftChain parse_rightChain
  exact ⟨parse_leftChain, parse_rightChain, same, key.1.mp same⟩

end RowFilter
