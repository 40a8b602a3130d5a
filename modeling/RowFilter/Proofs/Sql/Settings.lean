/-
Queries from their settings.

* `Query.Setting`, `Query.setAll`: one setting of a query, and settings made one
  after the other.
* `Query.lastOf`: the last setting of a kind. `setAll_eq`: it is the one that
  counts, whatever is set between, before or behind.
* `textsAfter_columnParts` and the lemmas behind it: the text of each clause.
* `text_build_eq`: the text of a query, clause by clause.
* `placeholders_build`: the placeholders of a query are those of its values,
  numbered in order.
* `build_setAll`: the text, the values and the placeholders of a query in terms
  of the last settings.
-/
import Mathlib.Data.List.Induction
import RowFilter.Bounds
import RowFilter.Proofs.Sql.Placeholders
import RowFilter.Proofs.Sql.Shelter

namespace RowFilter

namespace Query

/-! ### Settings -/

/-- One setting of a query. -/
inductive Setting where
  | columns (names : List String)
  | after (value : SqlValue)
  | filter (e : Expr)
  /-- A page, counted from one. Page zero stands for no page. -/
  | page (n : UInt32)
  | pageSize (n : UInt32)

namespace Setting

/-- The columns that are set, if they are. -/
def columns? : Setting → Option (List String)
  | .columns names => some names
  | _ => none

/-- The value that is set for the key, if it is. -/
def after? : Setting → Option SqlValue
  | .after v => some v
  | _ => none

/-- The condition that is set, if it is. -/
def filter? : Setting → Option Expr
  | .filter e => some e
  | _ => none

/-- The page that is set, if it is. -/
def page? : Setting → Option UInt32
  | .page n => some n
  | _ => none

/-- The page size that is set, if it is. -/
def pageSize? : Setting → Option UInt32
  | .pageSize n => some n
  | _ => none

end Setting

/-- A query with one more setting. -/
def set (q : Query) : Setting → Query
  | .columns names => q.selecting names
  | .after v => q.startingAfter v
  | .filter e => q.filteredBy e
  | .page n => q.onPage n
  | .pageSize n => q.sized n

/-- A query with settings made one after the other. -/
def setAll (q : Query) (ss : List Setting) : Query := ss.foldl set q

/-- The last of the settings that a reading finds. -/
def lastOf {α : Type} (read : Setting → Option α) (ss : List Setting) : Option α :=
  (ss.filterMap read).getLast?

/-- A setting of the kind comes in front of all earlier ones. -/
lemma lastOf_concat {α : Type} (read : Setting → Option α) (ss : List Setting)
    (s : Setting) : lastOf read (ss ++ [s]) = (read s).or (lastOf read ss) := by
  rw [lastOf, List.filterMap_append, List.getLast?_append]
  cases h : read s <;> simp [h, lastOf]

/-- The last setting of each kind counts. -/
theorem setAll_eq (q : Query) (ss : List Setting) :
    q.setAll ss = { q with
      columns := (lastOf Setting.columns? ss).getD q.columns
      after := (lastOf Setting.after? ss).or q.after
      filter := (lastOf Setting.filter? ss).or q.filter
      page := ((lastOf Setting.page? ss).map fun n => if n = 0 then none else some n).getD q.page
      pageSize := (lastOf Setting.pageSize? ss).getD q.pageSize } := by
  induction ss using List.reverseRecOn with
  | nil => rfl
  | append_singleton ss s ih =>
      have next : q.setAll (ss ++ [s]) = (q.setAll ss).set s := List.foldl_concat ..
      rw [next, ih]
      simp only [lastOf_concat]
      cases s <;> rfl

/-! ### The text of each clause -/

open SqlPart (textsAfter values)

/-- Names with a separator between them are written in quotes. -/
lemma textsAfter_sepBy_names (n : Nat) (sep : String) (names : List String) :
    textsAfter n (SqlPart.sepBy sep (names.map fun c => [.name c])) =
      sep.intercalate (names.map quoteName) := by
  induction names with
  | nil => simp [SqlPart.sepBy, textsAfter]
  | cons c names ih =>
      cases names with
      | nil => simp [SqlPart.sepBy, textsAfter, SqlPart.textAfter]
      | cons d names =>
          simp only [List.map_cons] at ih ⊢
          rw [String.intercalate_cons_cons, ← ih]
          simp [SqlPart.sepBy, textsAfter, SqlPart.textAfter, SqlPart.value?,
            String.append_assoc]

variable (q : Query)

lemma textsAfter_columnParts (n : Nat) :
    textsAfter n q.columnParts =
      if q.columns = [] then "*" else ", ".intercalate (q.columns.map quoteName) := by
  rw [columnParts]
  by_cases none : q.columns = []
  · simp [none, textsAfter, SqlPart.textAfter]
  · simp [none, textsAfter_sepBy_names]

lemma textsAfter_cursorParts (n : Nat) :
    textsAfter n q.cursorParts =
      q.after.elim "" fun _ => " WHERE " ++ quoteName q.key ++ " > " ++ placeholder (n + 1) := by
  rw [cursorParts]
  cases q.after <;>
    simp [textsAfter, SqlPart.textAfter, SqlPart.value?, String.append_assoc]

lemma textsAfter_filterParts (n : Nat) :
    textsAfter n q.filterParts =
      q.filter.elim "" fun e =>
        (if q.after.isSome then " AND " else " WHERE ") ++ textsAfter n e.parts := by
  rw [filterParts]
  cases q.filter <;> rfl

lemma textsAfter_orderParts (n : Nat) :
    textsAfter n q.orderParts = " ORDER BY " ++ quoteName q.key ++ " ASC" := by
  simp [orderParts, textsAfter, SqlPart.textAfter, String.append_assoc]

lemma textsAfter_offsetParts (n : Nat) :
    textsAfter n q.offsetParts =
      q.page.elim "" fun _ => " OFFSET " ++ placeholder (n + 1) := by
  rw [offsetParts]
  cases q.page <;> simp [textsAfter, SqlPart.textAfter, SqlPart.value?]

lemma textsAfter_limitParts (n : Nat) :
    textsAfter n q.limitParts = " LIMIT " ++ placeholder (n + 1) := by
  simp [limitParts, textsAfter, SqlPart.textAfter, SqlPart.value?]

/-! ### Whole queries -/

/-- A query has the text of its parts. -/
lemma text_build_eq_textsAfter : q.build.text = textsAfter 0 q.parts := by
  rw [build, Statement.ofParts, Statement.text_writeAll]
  simp

/-- The text of a query, clause by clause. Behind `a` values of the condition on
the key, `f` values of the filter and `p` values of the page stands the number of
rows. -/
lemma text_build_eq {a f p : Nat} (ha : (values q.cursorParts).length = a)
    (hf : (values q.filterParts).length = f) (hp : (values q.offsetParts).length = p) :
    q.build.text =
      "SELECT " ++
      (if q.columns = [] then "*" else ", ".intercalate (q.columns.map quoteName)) ++
      " FROM " ++ quoteName q.table ++
      (q.after.elim "" fun _ => " WHERE " ++ quoteName q.key ++ " > " ++ placeholder 1) ++
      (q.filter.elim "" fun e =>
        (if q.after.isSome then " AND " else " WHERE ") ++ textsAfter a e.parts) ++
      (" ORDER BY " ++ quoteName q.key ++ " ASC") ++
      (q.page.elim "" fun _ => " OFFSET " ++ placeholder (a + f + 1)) ++
      (" LIMIT " ++ placeholder (a + f + p + 1)) := by
  have order : values q.orderParts = [] := rfl
  rw [text_build_eq_textsAfter, parts_eq, endingParts]
  simp only [SqlPart.textsAfter_append, textsAfter_selectionParts, textsAfter_columnParts,
    textsAfter_cursorParts, textsAfter_filterParts, textsAfter_orderParts,
    textsAfter_offsetParts, textsAfter_limitParts, SqlPart.values_append,
    values_selectionParts, order, List.length_append, List.length_nil, ha, hf, hp]
  simp [String.append_assoc]

/-- The placeholders of a query are those of its values, numbered in order. -/
lemma placeholders_build :
    SqlText.placeholders q.build.text =
      (List.range' 1 q.build.params.size).map placeholder := by
  have bound : q.build.params.size = (values q.parts).length := by
    rw [← Array.length_toList, build, Statement.ofParts, Statement.params_writeAll]
    simp
  rw [text_build_eq_textsAfter, SqlText.placeholders_textsAfter q.legible_parts, bound]

/-- The number of rows before a page is not cut off where it has 64 bits. -/
lemma toInt_offset {page size : UInt32} (first : page ≠ 0)
    (fits : FitsInt64 (((page.toNat : Int) - 1) * size.toNat)) :
    (offset page size).toInt = ((page.toNat : Int) - 1) * size.toNat := by
  have positive : 1 ≤ page.toNat := by
    have := mt UInt32.toNat_inj.mp first
    simp only [UInt32.toNat_zero] at this
    omega
  have shown : (((page.toNat - 1) * size.toNat : Nat) : Int) =
      ((page.toNat : Int) - 1) * size.toNat := by
    push_cast [positive]
    rfl
  rw [offset, ← Int64.ofInt_eq_ofNat, shown, toInt_ofInt_of_fits fits]

/-! ### Queries from settings -/

/-- The query that settings make of a table and its key. -/
lemma setAll_fresh (table key : String) (ss : List Setting) :
    setAll { table, key } ss =
      { table, key
        columns := (lastOf Setting.columns? ss).getD []
        after := lastOf Setting.after? ss
        filter := lastOf Setting.filter? ss
        page := (lastOf Setting.page? ss).filter (· ≠ 0)
        pageSize := (lastOf Setting.pageSize? ss).getD 10 } := by
  have page : ((lastOf Setting.page? ss).map fun n => if n = 0 then none else some n).getD
      none = (lastOf Setting.page? ss).filter (· ≠ 0) := by
    cases lastOf Setting.page? ss with
    | none => rfl
    | some n => by_cases h : n = 0 <;> simp [Option.filter, h]
  rw [setAll_eq, page, Option.or_none, Option.or_none]
  rfl

/-- **Queries are composed from the last setting of each kind.** However a query
is set up, its text has the clauses of the last settings in their fixed order, the
filter in the words of its own condition; its values are those of the clauses, in
the same order; and outside of identifiers, the placeholders in the text are those
of the values, numbered from one. The number of rows before the page has to have 64
bits. -/
theorem build_setAll (table key : String) (ss : List Setting)
    (fits : ∀ n ∈ lastOf Setting.page? ss, n ≠ 0 →
      FitsInt64 (((n.toNat : Int) - 1) *
        ((lastOf Setting.pageSize? ss).getD 10).toNat)) :
    let columns := (lastOf Setting.columns? ss).getD []
    let after := lastOf Setting.after? ss
    let filter := lastOf Setting.filter? ss
    let page := (lastOf Setting.page? ss).filter (· ≠ 0)
    let size := (lastOf Setting.pageSize? ss).getD 10
    let literals := filter.elim [] Expr.literals
    let st := (setAll { table, key } ss).build
    (∃ condition,
      (∀ e ∈ filter, ∀ before : Statement, before.params.toList = after.toList →
        (e.renderInto before).text = before.text ++ condition) ∧
      st.text =
        "SELECT " ++
        (if columns = [] then "*" else ", ".intercalate (columns.map quoteName)) ++
        " FROM " ++ quoteName table ++
        (after.elim "" fun _ => " WHERE " ++ quoteName key ++ " > " ++ placeholder 1) ++
        (filter.elim "" fun _ =>
          (if after.isSome then " AND " else " WHERE ") ++ condition) ++
        (" ORDER BY " ++ quoteName key ++ " ASC") ++
        (page.elim "" fun _ =>
          " OFFSET " ++ placeholder (after.toList.length + literals.length + 1)) ++
        (" LIMIT " ++ placeholder st.params.size)) ∧
    st.params.toList = after.toList ++ literals ++
      (page.elim [] fun n => [.int (offset n size)]) ++
        [.int (Int64.ofNat size.toNat)] ∧
    (∀ n ∈ page, (offset n size).toInt = ((n.toNat : Int) - 1) * size.toNat) ∧
    (Int64.ofNat size.toNat).toInt = size.toNat ∧
    SqlText.placeholders st.text = (List.range' 1 st.params.size).map placeholder := by
  intro columns after filter page size literals st
  let q : Query := { table, key, columns, after, filter, page, pageSize := size }
  have built : st = q.build := congrArg build (setAll_fresh table key ss)
  have bound : (filter.elim [] fun e => values e.parts) = literals := by
    cases h : filter with
    | none => simp [literals, h]
    | some e => simp [literals, h, e.values_parts]
  have params : st.params.toList = after.toList ++ literals ++
      (page.elim [] fun n => [.int (offset n size)]) ++
        [.int (Int64.ofNat size.toNat)] := by
    rw [built, q.params_build, ← bound]
  refine ⟨⟨filter.elim "" fun e => textsAfter after.toList.length e.parts, ?_, ?_⟩,
    params, ?_, ?_, ?_⟩
  · intro e he before hbefore
    rw [Option.mem_def.mp he, Option.elim_some, ← hbefore, Array.length_toList]
    exact before.text_writeAll e.parts
  · have count : st.params.size =
        after.toList.length + literals.length + page.toList.length + 1 := by
      rw [← Array.length_toList, params]
      cases page <;> simp [Nat.add_assoc]
    have cursor : (values q.cursorParts).length = after.toList.length := by
      rw [q.values_cursorParts]
    have condition : (values q.filterParts).length = literals.length := by
      rw [q.values_filterParts, ← bound]
    have offset : (values q.offsetParts).length = page.toList.length := by
      rw [q.values_offsetParts]
      cases h : page <;> simp [q, h]
    rw [count, built, q.text_build_eq cursor condition offset]
    cases h : filter <;> simp [q, h]
  · intro n hn
    obtain ⟨last, positive⟩ := Option.filter_eq_some_iff.mp hn
    have first : n ≠ 0 := by simpa using positive
    exact toInt_offset first (fits n last first)
  · have small := size.toNat_lt
    rw [← Int64.ofInt_eq_ofNat, toInt_ofInt_of_fits]
    simp only [FitsInt64, int64Max]
    omega
  · rw [built, q.placeholders_build]

/-- Settings of which each kind is made twice, with a name and a pattern that look
like placeholders. -/
def Setting.songs : List Setting :=
  [.page 7, .columns ["id"], .after (.int 5), .pageSize 3,
    .filter (.compare .less (.literal (.int 1) ⟨3, 4⟩) (.literal (.int 2) ⟨5, 6⟩) ⟨0, 2⟩),
    .pageSize 25, .columns ["title", "a\"$1"], .page 3,
    .filter (.like ⟨"song", "$7", .string⟩ "$8%" ⟨0, 4⟩), .after (.text "x")]

/-- The last of the settings count. -/
theorem build_songs :
    (∀ n ∈ lastOf Setting.page? Setting.songs, n ≠ 0 →
      FitsInt64 (((n.toNat : Int) - 1) *
        ((lastOf Setting.pageSize? Setting.songs).getD 10).toNat)) ∧
      (setAll { table := "song", key := "id" } Setting.songs).build.params.toList =
        [.text "x", .text "$8%", .int 50, .int 25] ∧
      SqlText.placeholders
          (setAll { table := "song", key := "id" } Setting.songs).build.text =
        ["$1", "$2", "$3", "$4"] := by
  have fits : ∀ n ∈ lastOf Setting.page? Setting.songs, n ≠ 0 →
      FitsInt64 (((n.toNat : Int) - 1) *
        ((lastOf Setting.pageSize? Setting.songs).getD 10).toNat) := by
    rintro n ⟨⟩ -
    decide
  obtain ⟨-, params, -, -, shown⟩ := build_setAll "song" "id" Setting.songs fits
  refine ⟨fits, params, ?_⟩
  rw [shown, ← Array.length_toList, params]
  rfl

end Query

end RowFilter
