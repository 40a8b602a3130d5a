/-
Conditions can be joined with others.

* `Expr.sheltered_parts`: a condition closes the parentheses that it opens and
  has no joining word outside of them.
* `Query.legible_parts`, `Query.sheltered_build`: the whole text of a query.
* `sheltered_renderInto`: a condition behind any statement is closed and
  balanced, with all its joining words in parentheses, so that behind a
  condition on the key there is one `AND` outside of parentheses, which joins
  the two.
-/
import RowFilter.Proofs.Sql.Placeholders
import RowFilter.Proofs.Sql.Words
import RowFilter.Query

namespace RowFilter

open SqlOutline (Apart Balanced Sheltered)

/-! ### Raw texts and parentheses -/

namespace SqlPart

/-- A raw text that begins with no word stands apart from what is before
it. -/
lemma apart_raw (s : String)
    (h : (s.toList.head?.any fun c => !SqlOutline.isWordChar c) = true)
    (cs ds : SqlOutline) : Apart cs (rawOutline s ++ ds) := by
  refine .inr fun d hd => ?_
  obtain ⟨c, hc, gap⟩ := (Option.any_eq_true _ _).mp h
  have shown : (rawOutline s ++ ds).head? = some (some c) := by
    rw [rawOutline, List.head?_append, List.head?_map, hc]
    rfl
  rw [shown] at hd
  obtain rfl := Option.some.inj hd
  exact gap

/-- What is balanced is sheltered in parentheses, also behind a sheltered
text. -/
lemma sheltered_enclosed {opening before : String} {ps : List SqlPart}
    (split : rawOutline opening = rawOutline before ++ [some '('])
    (hbefore : Sheltered (rawOutline before)) (h : Balanced (outline ps)) :
    Sheltered (outline (.raw opening :: ps ++ [.raw ")"])) := by
  have shown : outline (.raw opening :: ps ++ [.raw ")"]) =
      rawOutline before ++ some '(' :: (outline ps ++ [some ')']) := by
    have closing : rawOutline ")" = [some ')'] := rfl
    simp [split, closing]
  rw [shown]
  exact hbefore.append h.sheltered (SqlOutline.apart_cons rfl _ _)

/-- Lists of parts are balanced with a balanced text between them. -/
lemma balanced_sepBy {sep : String} (hs : Balanced (rawOutline sep))
    {pss : List (List SqlPart)} (h : ∀ ps ∈ pss, Balanced (outline ps)) :
    Balanced (outline (sepBy sep pss)) := by
  induction pss with
  | nil => exact .of_plain (by simp [sepBy])
  | cons ps pss ih =>
      have first := h ps (by simp)
      cases pss with
      | nil => exact first
      | cons qs pss =>
          have rest := ih fun ps hp => h ps (by simp [hp])
          simpa [sepBy] using first.append (hs.append rest)

end SqlPart

/-! ### Conditions -/

namespace Expr

open SqlPart (outline rawOutline apart_raw sheltered_enclosed balanced_sepBy)

lemma sheltered_raw_blank : Sheltered (rawOutline " ") := .of_plain (by decide) (by decide)

lemma sheltered_column_parts (c : Column) : Sheltered (outline c.parts) := by
  have shown : outline c.parts = [none, some '.', none] := rfl
  rw [shown]
  exact .of_plain (by decide) (by decide)

/-- Conditions in parentheses are sheltered, whatever joins them. -/
lemma sheltered_sepBy_parts {sep : String} (hs : Balanced (rawOutline sep))
    {es : List Expr} (h : ∀ e ∈ es, Sheltered (outline e.parts)) :
    Sheltered (outline (.raw "(" :: SqlPart.sepBy sep (partsOfAll es) ++ [.raw ")"])) := by
  have start : Sheltered (rawOutline "") := .of_plain (by decide) (by decide)
  refine sheltered_enclosed rfl start (balanced_sepBy hs ?_)
  rw [partsOfAll_eq_map]
  intro ps hps
  obtain ⟨e, he, rfl⟩ := List.mem_map.mp hps
  exact (h e he).balanced

/-- The right side of a membership is sheltered, and begins with no word. -/
lemma sheltered_memberParts {right : Expr} (h : Sheltered (outline right.parts)) :
    Sheltered (outline (memberParts right right.parts)) ∧
      ∀ cs, Apart cs (outline (memberParts right right.parts)) := by
  cases right with
  | column c span =>
      have any : Sheltered (rawOutline " = ANY") := .of_plain (by decide) (by decide)
      exact ⟨sheltered_enclosed rfl any (sheltered_column_parts c).balanced,
        fun cs => apart_raw " = ANY(" (by decide) cs _⟩
  | _ =>
      have isIn : Sheltered (rawOutline " IN ") := .of_plain (by decide) (by decide)
      have joined := isIn.append h (.inl (by decide))
      have apart := fun cs => apart_raw " IN " (by decide) cs
      exact ⟨by simpa [memberParts] using joined,
        by simpa [memberParts] using fun cs => apart cs _⟩

/-- The search for an element that matches a pattern is sheltered. -/
lemma sheltered_anyLike (c : Column) (v : SqlValue) :
    Sheltered (outline (.raw "EXISTS (SELECT 1 FROM unnest(" :: c.parts ++
      [.raw ") AS element WHERE element ILIKE ", .value v, .raw ")"])) := by
  have search : Balanced (rawOutline "SELECT 1 FROM unnest") := .of_plain (by decide)
  have pattern : Balanced (rawOutline " AS element WHERE element ILIKE " ++ [none]) :=
    .of_plain (by decide)
  have exists_ : Sheltered (rawOutline "EXISTS ") := .of_plain (by decide) (by decide)
  have inner := (search.append (sheltered_column_parts c).balanced.enclose).append pattern
  exact exists_.append inner.sheltered (.inl (by decide))

/-- A condition closes the parentheses that it opens, and has no joining word
outside of them. -/
theorem sheltered_parts (e : Expr) : Sheltered (outline e.parts) := by
  induction e using Expr.ind with
  | literal v span => exact .of_plain (by simp [parts, SqlOutline.opens]) rfl
  | list t items span ih => exact sheltered_sepBy_parts (.of_plain (by decide)) ih
  | column c span => exact sheltered_column_parts c
  | not arg span ih =>
      have word : Sheltered (rawOutline "NOT ") := .of_plain (by decide) (by decide)
      exact sheltered_enclosed rfl word ih.balanced
  | compare op left right span ihl ihr =>
      have symbol : Sheltered (rawOutline op.symbol) := by
        cases op <;> exact .of_plain (by decide) (by decide)
      have ends : ∀ c ∈ (rawOutline op.symbol).getLast?, SqlOutline.isGap c = true := by
        cases op <;> decide
      have behind := symbol.append (sheltered_raw_blank.append ihr (.inl (by decide)))
        (.inl ends)
      have joined := ihl.append
        (sheltered_raw_blank.append behind (.inl (by decide)))
        (apart_raw " " (by decide) _ _)
      simpa [parts] using joined
  | isIn left right span ihl ihr =>
      obtain ⟨member, apart⟩ := sheltered_memberParts ihr
      rw [parts, SqlPart.outline_append]
      exact ihl.append member (apart _)
  | like c pattern span =>
      have word : Sheltered (rawOutline " ILIKE ") := .of_plain (by decide) (by decide)
      have value : Sheltered [none] := .of_plain (by decide) (by decide)
      rw [parts, SqlPart.outline_append]
      exact (sheltered_column_parts c).append
        (word.append value (SqlOutline.apart_cons rfl _ _))
        (apart_raw " ILIKE " (by decide) _ _)
  | anyLike c pattern span => exact sheltered_anyLike c _
  | junction kind args span ih =>
      have sep : Balanced (rawOutline kind.separator) := by
        cases kind <;> exact .of_plain (by decide)
      exact sheltered_sepBy_parts sep ih

end Expr

/-! ### Clauses -/

namespace SqlPart

/-- The text of parts behind others counts the values of those. -/
lemma textsAfter_append (n : Nat) (ps qs : List SqlPart) :
    textsAfter n (ps ++ qs) =
      textsAfter n ps ++ textsAfter (n + (values ps).length) qs := by
  induction ps generalizing n with
  | nil => simp [textsAfter]
  | cons p ps ih =>
      have count : n + p.value?.toList.length + (values ps).length =
          n + (values (p :: ps)).length := by
        cases p <;> simp [value?, Nat.add_assoc, Nat.add_comm]
      rw [List.cons_append, textsAfter, ih, count, textsAfter, String.append_assoc]

/-- Balanced parts that can stand behind others, because they begin with a raw
text that no word runs into. -/
structure Clause (ps : List SqlPart) : Prop where
  legible : Legible ps
  balanced : Balanced (outline ps)
  first : ∀ p ∈ ps.head?, ∃ s, p = .raw s ∧
    (s.toList.head?.any fun c => !SqlOutline.isWordChar c) = true

namespace Clause

variable {ps qs : List SqlPart}

/-- No clause at all. -/
lemma nil : Clause [] := ⟨.nil, .of_plain (by simp), by simp⟩

/-- A clause stands apart from what is before it. -/
lemma apart (h : Clause qs) (cs : SqlOutline) : Apart cs (outline qs) := by
  cases qs with
  | nil => exact .inr (by simp)
  | cons q qs =>
      obtain ⟨s, rfl, gap⟩ := h.first q rfl
      rw [outline_raw_cons]
      exact apart_raw s gap cs _

/-- Legible parts stay legible with a clause behind them. -/
lemma legible_append (hp : Legible ps) (hq : Clause qs) : Legible (ps ++ qs) := by
  cases qs with
  | nil => rwa [List.append_nil]
  | cons q qs =>
      obtain ⟨s, rfl, -⟩ := hq.first q rfl
      exact hp.append hq.legible

/-- A clause with another behind it. -/
lemma append (hp : Clause ps) (hq : Clause qs) : Clause (ps ++ qs) := by
  refine ⟨legible_append hp.legible hq, ?_, ?_⟩
  · rw [outline_append]
    exact hp.balanced.append hq.balanced
  · cases ps with
    | nil => exact hq.first
    | cons p ps => exact hp.first

/-- The joining words of a clause come behind those of what is before it. -/
lemma junctionsAt_append (hp : Balanced (outline ps)) (hq : Clause qs) (d : Int) :
    SqlOutline.junctionsAt d (outline (ps ++ qs)) =
      SqlOutline.junctionsAt d (outline ps) ++ SqlOutline.junctionsAt d (outline qs) := by
  rw [outline_append, SqlOutline.junctionsAt_append (hq.apart _) hp.closes_all]

end Clause

end SqlPart

/-! ### Queries -/

namespace Query

open SqlOutline (junctionsAt)
open SqlPart (Clause Legible Plain outline rawOutline textsAfter)

/-- What a query selects, and from where. -/
def selectionParts (q : Query) : List SqlPart :=
  .raw "SELECT " :: q.columnParts ++ [.raw " FROM ", .name q.table]

/-- What stands behind the conditions of a query. -/
def endingParts (q : Query) : List SqlPart :=
  q.orderParts ++ q.offsetParts ++ q.limitParts

lemma parts_eq (q : Query) :
    q.parts = q.selectionParts ++ (q.cursorParts ++ q.filterParts ++ q.endingParts) := by
  simp [parts, selectionParts, endingParts]

/-- The selection has no values. -/
lemma values_selectionParts (q : Query) : SqlPart.values q.selectionParts = [] := by
  simp [selectionParts, values_columnParts]

/-- Names with commas between them are sheltered. -/
lemma sheltered_sepBy_names (names : List String) :
    Sheltered (outline (SqlPart.sepBy ", " (names.map fun c => [.name c]))) := by
  have name : Sheltered [none] := .of_plain (by decide) (by decide)
  have comma : Sheltered (rawOutline ", ") := .of_plain (by decide) (by decide)
  induction names with
  | nil => exact .of_plain (by simp [SqlPart.sepBy]) rfl
  | cons n names ih =>
      cases names with
      | nil => exact name
      | cons m names =>
          have behind := name.append (comma.append ih (.inl (by decide)))
            (.inl (by decide))
          simpa [SqlPart.sepBy] using behind

/-- The selection is legible and sheltered. -/
lemma selectionParts_spec (q : Query) :
    Legible q.selectionParts ∧ Sheltered (outline q.selectionParts) := by
  have select : Sheltered (rawOutline "SELECT ") := .of_plain (by decide) (by decide)
  have source : Sheltered (rawOutline " FROM " ++ [none]) :=
    .of_plain (by decide) (by decide)
  have table : Legible [.raw " FROM ", .name q.table] :=
    .raw (by decide) (.last _ fun _ h => nomatch h)
  have columns : Legible q.columnParts ∧ Sheltered (outline q.columnParts) := by
    rw [columnParts]
    split
    · exact ⟨.raw (by decide) .nil, .of_plain (by decide) (by decide)⟩
    · refine ⟨Legible.sepBy (by decide) fun ps hps => ?_, sheltered_sepBy_names _⟩
      obtain ⟨c, -, rfl⟩ := List.mem_map.mp hps
      exact .last _ fun _ h => nomatch h
  constructor
  · exact .raw (by decide) (columns.1.append table)
  · have behind := columns.2.append source (SqlPart.apart_raw " FROM " (by decide) _ _)
    simpa [selectionParts] using select.append behind (.inl (by decide))

/-- The condition on the key is a clause without joining words. -/
lemma cursorParts_spec (q : Query) :
    Clause q.cursorParts ∧ Sheltered (outline q.cursorParts) := by
  rw [cursorParts]
  cases q.after with
  | none => exact ⟨.nil, .of_plain (by simp) rfl⟩
  | some v =>
      have sheltered : Sheltered
          (outline [.raw " WHERE ", .name q.key, .raw " > ", .value v]) := by
        change Sheltered (rawOutline " WHERE " ++ none :: (rawOutline " > " ++ [none]))
        exact .of_plain (by decide) (by decide)
      have legible : Legible [.raw " WHERE ", .name q.key, .raw " > ", .value v] :=
        .raw (by decide) (.before (fun _ h => nomatch h)
          (.raw (by decide) (.last _ fun _ h => nomatch h)))
      exact ⟨⟨legible, sheltered.balanced,
        fun p hp => ⟨" WHERE ", by simpa using hp.symm, by decide⟩⟩, sheltered⟩

/-- The filter is a clause, with one joining word outside of parentheses if
there is a condition on the key before it, and none otherwise. -/
lemma filterParts_spec (q : Query) :
    Clause q.filterParts ∧ junctionsAt 0 (outline q.filterParts) =
      if q.after.isSome && q.filter.isSome then [.and] else [] := by
  rw [filterParts]
  cases q.filter with
  | none => simpa using ⟨Clause.nil, rfl⟩
  | some e =>
      have behind : ∀ s : String, Plain s →
          (s.toList.head?.any fun c => !SqlOutline.isWordChar c) = true →
          Balanced (rawOutline s) → (∀ ds, Apart (rawOutline s) ds) →
          Clause (.raw s :: e.parts) ∧ junctionsAt 0 (outline (.raw s :: e.parts)) =
            junctionsAt 0 (rawOutline s) := by
        intro s plain gap balanced apart
        have sheltered := e.sheltered_parts
        rw [SqlPart.outline_raw_cons, SqlOutline.junctionsAt_append (apart _)
          balanced.closes_all, sheltered.junctionsAt_zero, List.append_nil]
        refine ⟨⟨.raw plain e.legible_parts, ?_, ?_⟩, rfl⟩
        · rw [SqlPart.outline_raw_cons]
          exact balanced.append sheltered.balanced
        · intro p hp
          exact ⟨s, by simpa using hp.symm, gap⟩
      cases q.after with
      | none =>
          exact behind " WHERE " (by decide) (by decide) (.of_plain (by decide))
            fun ds => .inl (by decide)
      | some v =>
          exact behind " AND " (by decide) (by decide) (.of_plain (by decide))
            fun ds => .inl (by decide)

/-- A raw text with a name or a value behind it, as a clause. -/
lemma clause_pair {s : String} {p : SqlPart} (plain : Plain s)
    (gap : (s.toList.head?.any fun c => !SqlOutline.isWordChar c) = true)
    (hp : ∀ s, p ≠ .raw s) (sheltered : Sheltered (rawOutline s ++ [none])) :
    Clause [.raw s, p] ∧ Sheltered (outline [.raw s, p]) := by
  have shown : outline [.raw s, p] = rawOutline s ++ [none] := by
    cases p with
    | raw t => exact absurd rfl (hp t)
    | name t => simp
    | value v => simp
  rw [shown]
  refine ⟨⟨.raw plain (.last _ hp), ?_, ?_⟩, sheltered⟩
  · rw [shown]
    exact sheltered.balanced
  · intro q hq
    exact ⟨s, by simpa using hq.symm, gap⟩

/-- What stands behind the conditions is a clause without joining words. -/
lemma endingParts_spec (q : Query) :
    Clause q.endingParts ∧ junctionsAt 0 (outline q.endingParts) = [] := by
  have order : Clause q.orderParts ∧ Sheltered (outline q.orderParts) := by
    obtain ⟨key, hkey⟩ := clause_pair (s := " ORDER BY ") (p := .name q.key)
      (by decide) (by decide) (fun _ h => nomatch h) (.of_plain (by decide) (by decide))
    have asc : Clause [.raw " ASC"] := ⟨.raw (by decide) .nil, .of_plain (by decide),
      fun p hp => ⟨" ASC", by simpa using hp.symm, by decide⟩⟩
    have hasc : Sheltered (outline [.raw " ASC"]) := .of_plain (by decide) (by decide)
    exact ⟨key.append asc, hkey.append hasc (asc.apart _)⟩
  have offset : Clause q.offsetParts ∧ Sheltered (outline q.offsetParts) := by
    rw [offsetParts]
    cases q.page with
    | none => exact ⟨.nil, .of_plain (by simp) rfl⟩
    | some page =>
        exact clause_pair (by decide) (by decide) (fun _ h => nomatch h)
          (.of_plain (by decide) (by decide))
  have limit : Clause q.limitParts ∧ Sheltered (outline q.limitParts) :=
    clause_pair (by decide) (by decide) (fun _ h => nomatch h)
      (.of_plain (by decide) (by decide))
  refine ⟨(order.1.append offset.1).append limit.1, ?_⟩
  rw [endingParts, Clause.junctionsAt_append (order.1.append offset.1).balanced limit.1,
    Clause.junctionsAt_append order.1.balanced offset.1, order.2.junctionsAt_zero,
    offset.2.junctionsAt_zero, limit.2.junctionsAt_zero]
  rfl

/-- The conditions of a query, as a clause: outside of parentheses there is one
joining word if there are two of them, and none otherwise. -/
lemma conditionParts_spec (q : Query) :
    Clause (q.cursorParts ++ q.filterParts) ∧
      junctionsAt 0 (outline (q.cursorParts ++ q.filterParts)) =
        if q.after.isSome && q.filter.isSome then [.and] else [] := by
  obtain ⟨cursor, hcursor⟩ := q.cursorParts_spec
  obtain ⟨filter, hfilter⟩ := q.filterParts_spec
  refine ⟨cursor.append filter, ?_⟩
  rw [Clause.junctionsAt_append cursor.balanced filter, hcursor.junctionsAt_zero,
    hfilter, List.nil_append]

/-- The parts of a query can be told apart in its text. -/
theorem legible_parts (q : Query) : Legible q.parts := by
  rw [parts_eq]
  exact Clause.legible_append q.selectionParts_spec.1
    (q.conditionParts_spec.1.append q.endingParts_spec.1)

/-- The text of a query is balanced. Outside of parentheses it has one joining
word if there are two conditions, and none otherwise. -/
theorem sheltered_build (q : Query) :
    Balanced (outline q.parts) ∧ junctionsAt 0 (outline q.parts) =
      if q.after.isSome && q.filter.isSome then [.and] else [] := by
  obtain ⟨-, selection⟩ := q.selectionParts_spec
  obtain ⟨conditions, hconditions⟩ := q.conditionParts_spec
  obtain ⟨ending, hending⟩ := q.endingParts_spec
  rw [parts_eq]
  constructor
  · rw [SqlPart.outline_append]
    exact selection.balanced.append (conditions.append ending).balanced
  · rw [Clause.junctionsAt_append selection.balanced (conditions.append ending),
      Clause.junctionsAt_append conditions.balanced ending, selection.junctionsAt_zero,
      hconditions, hending, List.append_nil, List.nil_append]

/-- The text of the selection. -/
lemma textsAfter_selectionParts (q : Query) :
    textsAfter 0 q.selectionParts =
      "SELECT " ++ textsAfter 0 q.columnParts ++ " FROM " ++ quoteName q.table := by
  rw [selectionParts, List.cons_append, textsAfter, SqlPart.textsAfter_append]
  simp [textsAfter, SqlPart.textAfter, SqlPart.value?, String.append_assoc]

/-- The text of a query with two conditions. -/
lemma text_build {q : Query} {v : SqlValue} {e : Expr} (hafter : q.after = some v)
    (hfilter : q.filter = some e) :
    q.build.text = textsAfter 0 q.selectionParts ++
      textsAfter 0 (q.cursorParts ++ q.filterParts) ++
        textsAfter (1 + e.literals.length) q.endingParts := by
  have values : SqlPart.values (q.cursorParts ++ q.filterParts) = v :: e.literals := by
    simp [cursorParts, filterParts, hafter, hfilter, e.values_parts]
  rw [build, Statement.ofParts, Statement.text_writeAll, parts_eq,
    SqlPart.textsAfter_append, SqlPart.textsAfter_append, values_selectionParts, values]
  simp [String.append_assoc, Nat.add_comm]

/-- The text of two conditions. -/
lemma textsAfter_conditionParts {q : Query} {v : SqlValue} {e : Expr}
    (hafter : q.after = some v) (hfilter : q.filter = some e) :
    textsAfter 0 (q.cursorParts ++ q.filterParts) =
      textsAfter 0 q.cursorParts ++ " AND " ++ textsAfter 1 e.parts ∧
    textsAfter 0 q.cursorParts =
      " WHERE " ++ quoteName q.key ++ " > " ++ placeholder 1 := by
  have values : SqlPart.values q.cursorParts = [v] := by
    simp [cursorParts, hafter]
  constructor
  · rw [SqlPart.textsAfter_append, values, filterParts, hfilter, hafter]
    simp [textsAfter, SqlPart.textAfter, SqlPart.value?, String.append_assoc]
  · simp [cursorParts, hafter, textsAfter, SqlPart.textAfter, SqlPart.value?,
      String.append_assoc]

end Query

/-! ### Joining -/

/-- **Conditions can be joined with others.** The text that any expression adds
to any statement closes its identifiers, closes the parentheses that it opens
and no others, and has no `AND` and no `OR` outside of parentheses. So in a
query with a condition on the key and a filter, the `WHERE` clause has one
`AND` outside of parentheses, which stands between the two, and no `OR`; the
whole text has no further ones. -/
theorem sheltered_renderInto :
    (∀ (e : Expr) (st : Statement), ∃ fragment,
      (e.renderInto st).text = st.text ++ fragment ∧
      SqlText.Closed fragment ∧ Balanced (SqlText.outline fragment) ∧
      SqlText.junctions fragment = []) ∧
    ∀ (q : Query) (v : SqlValue) (e : Expr), q.after = some v → q.filter = some e →
      ∃ columns keyset condition rest,
        q.build.text = ("SELECT " ++ columns ++ " FROM " ++ quoteName q.table) ++
          (keyset ++ " AND " ++ condition) ++
          (" ORDER BY " ++ quoteName q.key ++ " ASC" ++ rest) ∧
        keyset = " WHERE " ++ quoteName q.key ++ " > " ++ placeholder 1 ∧
        (∀ st : Statement, st.params.size = 1 →
          (e.renderInto st).text = st.text ++ condition) ∧
        SqlText.Closed (keyset ++ " AND " ++ condition) ∧
        Balanced (SqlText.outline (keyset ++ " AND " ++ condition)) ∧
        SqlText.junctions keyset = [] ∧ SqlText.junctions condition = [] ∧
        SqlText.junctions (keyset ++ " AND " ++ condition) = [.and] ∧
        SqlText.junctions q.build.text = [.and] := by
  have junctions_eq : ∀ {ps : List SqlPart}, SqlPart.Legible ps → ∀ n,
      SqlText.junctions (SqlPart.textsAfter n ps) =
        SqlOutline.junctionsAt 0 (SqlPart.outline ps) := by
    intro ps h n
    rw [SqlText.junctions, SqlPart.outline_textsAfter h]
  constructor
  · intro e st
    refine ⟨SqlPart.textsAfter st.params.size e.parts, st.text_writeAll e.parts,
      SqlPart.closed_textsAfter e.legible_parts _, ?_, ?_⟩
    · rw [SqlPart.outline_textsAfter e.legible_parts]
      exact e.sheltered_parts.balanced
    · rw [junctions_eq e.legible_parts]
      exact e.sheltered_parts.junctionsAt_zero
  · intro q v e hafter hfilter
    obtain ⟨cursor, hcursor⟩ := q.cursorParts_spec
    obtain ⟨clause, hclause⟩ := q.conditionParts_spec
    obtain ⟨joined, keyset⟩ := Query.textsAfter_conditionParts hafter hfilter
    refine ⟨SqlPart.textsAfter 0 q.columnParts, SqlPart.textsAfter 0 q.cursorParts,
      SqlPart.textsAfter 1 e.parts, SqlPart.textsAfter (1 + e.literals.length)
        (q.offsetParts ++ q.limitParts), ?_, keyset, ?_, ?_, ?_, ?_, ?_, ?_, ?_⟩
    · rw [Query.text_build hafter hfilter, Query.textsAfter_selectionParts, joined]
      simp [Query.endingParts, Query.orderParts, SqlPart.textsAfter, SqlPart.textAfter,
        SqlPart.value?, String.append_assoc]
    · intro st one
      rw [← one]
      exact st.text_writeAll e.parts
    · rw [← joined]
      exact SqlPart.closed_textsAfter clause.legible 0
    · rw [← joined, SqlPart.outline_textsAfter clause.legible]
      exact clause.balanced
    · rw [junctions_eq cursor.legible, hcursor.junctionsAt_zero]
    · rw [junctions_eq e.legible_parts, e.sheltered_parts.junctionsAt_zero]
    · rw [← joined, junctions_eq clause.legible, hclause, hafter, hfilter]
      rfl
    · have text : q.build.text = SqlPart.textsAfter 0 q.parts := by
        rw [Query.build, Statement.ofParts, Statement.text_writeAll]
        simp
      rw [text, junctions_eq q.legible_parts, q.sheltered_build.2, hafter, hfilter]
      rfl

/-- Names that look like joined conditions join nothing. -/
example :
    let q : Query := {
      table := "t"
      key := "k\" OR 1"
      after := some (.int 5)
      filter := some (.like ⟨"t", ") AND (\"", .string⟩ "%" ⟨0, 4⟩) }
    SqlText.junctions q.build.text = [.and] := by
  decide +kernel

end RowFilter
