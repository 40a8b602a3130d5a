/-
The command that shows the condition of a filter and the command that shows a query
with it agree.

* `trimBlanks_eq_nil_iff`: nothing is left of a text without its outer blanks when
  it has only blanks.
* `activeFilter_eq_none_iff`: a filter is passed over exactly when the tokenizer finds
  nothing in it.
* `textsAfter_parts`: a condition behind one value is the one on its own, renumbered.
* `text_build_ne`, `build_of_filter`: a query with a condition is another one than
  without, and has the condition in its place.
* `buildQuery_given`: when a given filter counts, when it fails, and what it adds to
  the query.
-/
import Mathlib.Data.List.TakeWhile
import RowFilter.Command
import RowFilter.Proofs.Lexing.Continued
import RowFilter.Proofs.Lexing.Scan
import RowFilter.Proofs.LiteralIndependence
import RowFilter.Proofs.Sql.Renumber
import RowFilter.Proofs.Sql.Settings

namespace RowFilter

/-! ### Blank filters -/

/-- Only blanks can be cut from the ends of a text so that nothing is left. -/
lemma trimBlanks_eq_nil_iff {cs : List Char} :
    trimBlanks cs = [] ↔ ∀ c ∈ cs, isBlank c = true := by
  have cut : cs.takeWhile isBlank ++ skipBlanks cs = cs := List.takeWhile_append_dropWhile
  have front : ∀ c ∈ cs.takeWhile isBlank, isBlank c = true := fun c hc =>
    List.all_eq_true.mp List.all_takeWhile c hc
  rw [trimBlanks, List.reverse_eq_nil_iff, skipBlanks, List.dropWhile_eq_nil_iff]
  constructor
  · intro h c hc
    rw [← cut] at hc
    rcases List.mem_append.mp hc with hc | hc
    · exact front c hc
    · exact h c (List.mem_reverse.mpr hc)
  · intro h c hc
    exact h c (List.dropWhile_subset _ (List.mem_reverse.mp hc))

/-- The tokenizer finds nothing in blanks, and only there. -/
lemma tokenize_eq_done_iff {f : String} :
    filterLexicon.tokenize f = .done ↔ ∀ c ∈ f.toList, isBlank c = true := by
  rw [filterLexicon_tokenize, Vocabulary.read_eq_done_iff]

/-- A given filter is passed over exactly when the tokenizer finds nothing in it. -/
lemma QueryOptions.activeFilter_eq_none_iff {o : QueryOptions} {f : String}
    (given : o.filter = some f) :
    o.activeFilter = none ↔ filterLexicon.tokenize f = .done := by
  rw [activeFilter, given, tokenize_eq_done_iff, ← trimBlanks_eq_nil_iff]
  simp [Option.filter]

/-! ### Conditions on their own and in a query -/

open SqlPart (textsAfter values)

namespace Expr

variable (e : Expr)

lemma toSql_text : e.toSql.text = textsAfter 0 e.parts := by
  rw [toSql, renderInto, Statement.text_writeAll]
  exact String.empty_append

lemma toSql_params : e.toSql.params.toList = values e.parts := by
  rw [toSql, renderInto, Statement.params_writeAll]
  rfl

/-- Behind one value, a condition is the one on its own with each placeholder one
higher. -/
lemma textsAfter_parts (after : Option SqlValue) :
    textsAfter after.toList.length e.parts =
      if after.isSome then SqlText.renumber 1 e.toSql.text else e.toSql.text := by
  cases after with
  | none => exact e.toSql_text.symm
  | some v =>
      rw [toSql_text]
      exact (SqlText.renumber_textsAfter e.legible_parts 1 0).symm

end Expr

/-- A query with a condition is another one than without. -/
lemma Query.text_build_ne (q : Query) (e : Expr) :
    { q with filter := some e }.build.text ≠ { q with filter := none }.build.text := by
  intro same
  rw [text_build_eq _ rfl rfl rfl, text_build_eq _ rfl rfl rfl] at same
  simp only [String.append_assoc, String.append_right_inj, Option.elim_some, Option.elim_none,
    String.empty_append] at same
  -- behind the common first part, the second characters differ
  have second := congrArg (·.toList[1]?) same
  split at second <;> simp at second

/-- A query with a condition has the clauses of its settings, of which one is the
condition on its own, and the values of the clauses. -/
lemma Query.build_of_filter {q : Query} {e : Expr} (h : q.filter = some e) :
    q.build.text =
      "SELECT " ++
      (if q.columns = [] then "*" else ", ".intercalate (q.columns.map quoteName)) ++
      " FROM " ++ quoteName q.table ++
      (q.after.elim "" fun _ => " WHERE " ++ quoteName q.key ++ " > " ++ placeholder 1) ++
      ((if q.after.isSome then " AND " else " WHERE ") ++
        if q.after.isSome then SqlText.renumber 1 e.toSql.text else e.toSql.text) ++
      (" ORDER BY " ++ quoteName q.key ++ " ASC") ++
      (q.page.elim "" fun _ =>
        " OFFSET " ++ placeholder (q.after.toList.length + e.toSql.params.size + 1)) ++
      (" LIMIT " ++ placeholder q.build.params.size) ∧
    q.build.params.toList = q.after.toList ++ e.toSql.params.toList ++
      (q.page.elim [] fun n => [.int (offset n q.pageSize)]) ++
        [.int (Int64.ofNat q.pageSize.toNat)] := by
  have params : q.build.params.toList = q.after.toList ++ e.toSql.params.toList ++
      (q.page.elim [] fun n => [.int (offset n q.pageSize)]) ++
        [.int (Int64.ofNat q.pageSize.toNat)] := by
    rw [params_build, h, e.toSql_params]
    rfl
  have cursor : (values q.cursorParts).length = q.after.toList.length := by
    rw [values_cursorParts]
  have condition : (values q.filterParts).length = e.toSql.params.size := by
    rw [values_filterParts, h, ← Array.length_toList, e.toSql_params]
    rfl
  have rows : (values q.offsetParts).length = q.page.toList.length := by
    rw [values_offsetParts]
    cases q.page <;> rfl
  have count : q.build.params.size =
      q.after.toList.length + e.toSql.params.size + q.page.toList.length + 1 := by
    rw [← Array.length_toList, params]
    cases q.page <;> simp [Nat.add_assoc]
  refine ⟨?_, params⟩
  rw [q.text_build_eq cursor condition rows, count, h, Option.elim_some, e.textsAfter_parts]

/-! ### The commands -/

namespace QueryOptions

variable (o : QueryOptions) (config : Config)

/-- The query that the options stand for. -/
lemma toQuery_eq (condition : Option Expr) :
    o.toQuery config condition =
      { table := config.table
        key := o.key.getD config.key
        columns := o.columns
        after := o.after.map SqlValue.int
        filter := condition
        page := o.page.filter (· ≠ 0)
        pageSize := o.pageSize.getD 10 } := by
  obtain ⟨-, -, page, size, -, -⟩ := o
  cases page with
  | none => cases size <;> rfl
  | some n =>
      by_cases h : n = 0 <;>
        cases size <;> simp [toQuery, Query.onPage, Query.sized, Option.filter, h] <;> rfl

end QueryOptions

/-- The options say the same of all conditions. -/
lemma QueryOptions.toQuery_filter (o : QueryOptions) (config : Config)
    (condition : Option Expr) :
    o.toQuery config condition = { o.toQuery config none with filter := condition } := by
  rw [toQuery_eq, toQuery_eq]

/-- Without an active filter, there is a query without a condition. -/
lemma buildQuery_of_none (c : Compiler) (config : Config) {o : QueryOptions}
    (h : o.activeFilter = none) :
    buildQuery c config o = .ok (o.toQuery config none).build := by
  rw [buildQuery, h]
  rfl

/-- With an active filter, there is a query with the condition of that filter. -/
lemma buildQuery_of_some (c : Compiler) (config : Config) {o : QueryOptions} {f : String}
    (h : o.activeFilter = some f) :
    buildQuery c config o = (c.parse f).map fun e => (o.toQuery config (some e)).build := by
  rw [buildQuery, h, parseFilter?]
  cases c.parse f <;> rfl

/-- A given filter that is not passed over is active. -/
lemma QueryOptions.activeFilter_of_given {o : QueryOptions} {f : String}
    (given : o.filter = some f) (counts : filterLexicon.tokenize f ≠ .done) :
    o.activeFilter = some f := by
  have kept := mt (activeFilter_eq_none_iff given).mp counts
  obtain ⟨g, active⟩ := Option.ne_none_iff_exists'.mp kept
  have same : o.filter = some g := (Option.filter_eq_some_iff.mp active).1
  rw [active, ← same, given]

/-- A given filter leaves the query as it is only when it is passed over. -/
lemma buildQuery_eq_unfiltered_iff (c : Compiler) (config : Config) {o : QueryOptions}
    {f : String} (given : o.filter = some f) :
    buildQuery c config o = buildQuery c config { o with filter := none } ↔
      filterLexicon.tokenize f = .done := by
  have unfiltered : buildQuery c config { o with filter := none } =
      .ok (o.toQuery config none).build := buildQuery_of_none c config rfl
  rw [unfiltered]
  constructor
  · intro same
    by_contra counts
    rw [buildQuery_of_some c config (QueryOptions.activeFilter_of_given given counts)] at same
    cases parsed : c.parse f with
    | error r =>
        rw [parsed] at same
        cases same
    | ok e =>
        rw [parsed] at same
        have built : (o.toQuery config (some e)).build.text = (o.toQuery config none).build.text :=
          congrArg Statement.text (Except.ok.inj same)
        rw [o.toQuery_filter config (some e), o.toQuery_filter config none] at built
        exact Query.text_build_ne (o.toQuery config none) e built
  · intro blank
    exact buildQuery_of_none c config ((QueryOptions.activeFilter_eq_none_iff given).mpr blank)

/-- **The two commands agree on every filter.** A given filter is passed over exactly
when the tokenizer finds neither token nor fault in it, which is when it is blank; and
only then the query is the one without a filter. Any other filter fails in the query
exactly when it fails on its own, in the same way. If it does not fail, the query has
its condition as it is on its own, with each placeholder one higher if there is a value
for the key in front, and its values between that value and those of the page. The
number of rows before the page has to have 64 bits. -/
theorem buildQuery_given (c : Compiler) (config : Config) {o : QueryOptions} {f : String}
    (given : o.filter = some f)
    (fits : ∀ n ∈ o.page, n ≠ 0 →
      FitsInt64 (((n.toNat : Int) - 1) * (o.pageSize.getD 10).toNat)) :
    let blank := filterLexicon.tokenize f = .done
    let key := o.key.getD config.key
    let after := o.after.map SqlValue.int
    let page := o.page.filter (· ≠ 0)
    let size := o.pageSize.getD 10
    (blank ↔ ∀ ch ∈ f.toList, isBlank ch = true) ∧
    (o.activeFilter = none ↔ blank) ∧
    (buildQuery c config o = buildQuery c config { o with filter := none } ↔ blank) ∧
    (¬blank → ∀ r, buildQuery c config o = .error r ↔ renderFilter c f = .error r) ∧
    (¬blank → ∀ condition, renderFilter c f = .ok condition →
      ∃ st, buildQuery c config o = .ok st ∧
        st.text =
          "SELECT " ++
          (if o.columns = [] then "*" else ", ".intercalate (o.columns.map quoteName)) ++
          " FROM " ++ quoteName config.table ++
          (after.elim "" fun _ => " WHERE " ++ quoteName key ++ " > " ++ placeholder 1) ++
          ((if after.isSome then " AND " else " WHERE ") ++
            if after.isSome then SqlText.renumber 1 condition.text else condition.text) ++
          (" ORDER BY " ++ quoteName key ++ " ASC") ++
          (page.elim "" fun _ =>
            " OFFSET " ++ placeholder (after.toList.length + condition.params.size + 1)) ++
          (" LIMIT " ++ placeholder st.params.size) ∧
        st.params.toList = after.toList ++ condition.params.toList ++
          (page.elim [] fun n => [.int (Query.offset n size)]) ++
            [.int (Int64.ofNat size.toNat)]) ∧
    (∀ n ∈ page, (Query.offset n size).toInt = ((n.toNat : Int) - 1) * size.toNat) := by
  intro blank key after page size
  have counted : ¬blank →
      buildQuery c config o = (c.parse f).map fun e => (o.toQuery config (some e)).build :=
    fun counts => buildQuery_of_some c config (QueryOptions.activeFilter_of_given given counts)
  refine ⟨tokenize_eq_done_iff, QueryOptions.activeFilter_eq_none_iff given,
    buildQuery_eq_unfiltered_iff c config given, fun counts r => ?_,
    fun counts condition rendered => ?_, fun n hn => ?_⟩
  · rw [counted counts, renderFilter]
    cases c.parse f <;> simp [Except.map]
  · rw [renderFilter] at rendered
    cases parsed : c.parse f with
    | error r =>
        rw [parsed] at rendered
        cases rendered
    | ok e =>
        rw [parsed] at rendered
        obtain rfl := Except.ok.inj rendered
        have built : buildQuery c config o = .ok (o.toQuery config (some e)).build := by
          rw [counted counts, parsed]
          rfl
        refine ⟨_, built, ?_⟩
        rw [o.toQuery_eq]
        exact Query.build_of_filter rfl
  · obtain ⟨set, positive⟩ := Option.filter_eq_some_iff.mp hn
    have first : n ≠ 0 := by simpa using positive
    exact Query.toInt_offset first (fits n set first)

/-- A configuration for people, ordered by a number. -/
def Config.people : Config where
  table := "people"
  fields := .ofList [("name", .string), ("born", .date)]

/-- The third page behind a key, with a filter whose pattern looks like a placeholder. -/
def QueryOptions.thirdPage : QueryOptions where
  filter := some "LIKE(name,\"$1%\")"
  after := some 2
  page := some 3
  pageSize := some 20

/-- The condition has the second placeholder in the query, and its pattern is the second
value. -/
theorem buildQuery_thirdPage :
    Config.people.compiler none = .ok .people ∧
    (∀ n ∈ QueryOptions.thirdPage.page, n ≠ 0 →
      FitsInt64 (((n.toNat : Int) - 1) * (QueryOptions.thirdPage.pageSize.getD 10).toNat)) ∧
    renderFilter .people "LIKE(name,\"$1%\")" =
      .ok ⟨"\"people\".\"name\" ILIKE $1", #[.text "$1%"]⟩ ∧
    ∃ st, buildQuery .people .people .thirdPage = .ok st ∧
      st.text = "SELECT * FROM \"people\" WHERE \"id\" > $1 AND \"people\".\"name\" ILIKE $2" ++
        " ORDER BY \"id\" ASC OFFSET $3 LIMIT $4" ∧
      st.params.toList = [.int 2, .text "$1%", .int 40, .int 20] := by
  have fits : ∀ n ∈ QueryOptions.thirdPage.page, n ≠ 0 →
      FitsInt64 (((n.toNat : Int) - 1) * (QueryOptions.thirdPage.pageSize.getD 10).toNat) := by
    rintro n ⟨⟩ -
    decide
  have rendered : renderFilter .people "LIKE(name,\"$1%\")" =
      .ok ⟨"\"people\".\"name\" ILIKE $1", #[.text "$1%"]⟩ := by decide +kernel
  obtain ⟨-, -, -, -, agrees, -⟩ :=
    buildQuery_given .people .people (o := .thirdPage) rfl fits
  obtain ⟨st, built, text, params⟩ := agrees (by decide +kernel) _ rendered
  refine ⟨rfl, fits, rendered, st, built, ?_, params⟩
  rw [text, ← st.params.length_toList, params]
  decide +kernel

end RowFilter
