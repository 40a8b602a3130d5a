/-
Identifiers stay inside of their quotes.

* `SqlText.names`, `SqlText.outside`: the identifiers of a text, and what stands
  outside of them.
* `names_textsAfter`, `outside_textsAfter`: legible parts are written with their own
  names, and what stands outside of those depends on neither names nor values.
* `Expr.identifiers`, `names_parts`: the names of a condition are those of its columns.
* `Expr.bare`, `parts_bare`: an expression without names and values has the condition
  without them.
* `Query.SameForm`: queries that have the same clauses and, apart from names and values,
  the same filter.
* `names_build`: the identifiers of a query, and what does not depend on them.
-/
import RowFilter.Proofs.Sql.Placeholders
import RowFilter.Proofs.Sql.Settings

namespace RowFilter

/-! ### Names in a text -/

namespace SqlPiece

variable {α : Type}

/-- The name that a piece is, if it is an identifier. -/
def name? : SqlPiece α → Option String
  | .name s => some s
  | _ => none

/-- A piece without its name. -/
def nameless : SqlPiece α → SqlPiece α
  | .name _ => .name ""
  | .char c => .char c
  | .bound a => .bound a
  | .unclosed s => .unclosed s

end SqlPiece

namespace SqlText

/-- The identifiers of a text, in order. -/
def names (text : String) : List String := (pieces text).filterMap SqlPiece.name?

/-- What stands outside of the identifiers of a text: the characters and placeholders,
with a gap for each identifier. -/
def outside (text : String) : List (SqlPiece String) := (pieces text).map .nameless

end SqlText

namespace SqlPart

/-- The name that a part is, if it is one. -/
def name? : SqlPart → Option String
  | .name s => some s
  | _ => none

/-- The names of parts, in order. -/
def names (ps : List SqlPart) : List String := ps.filterMap name?

/-- A part without its name or value. -/
def bare : SqlPart → SqlPart
  | .raw s => .raw s
  | .name _ => .name ""
  | .value _ => .value (.int 0)

@[simp] lemma names_nil : names [] = [] := rfl

@[simp] lemma names_raw_cons (s : String) (ps : List SqlPart) :
    names (.raw s :: ps) = names ps := rfl

@[simp] lemma names_name_cons (s : String) (ps : List SqlPart) :
    names (.name s :: ps) = s :: names ps := rfl

@[simp] lemma names_value_cons (v : SqlValue) (ps : List SqlPart) :
    names (.value v :: ps) = names ps := rfl

@[simp] lemma names_append (ps qs : List SqlPart) : names (ps ++ qs) = names ps ++ names qs :=
  List.filterMap_append ..

/-- The names of lists of parts come one after the other, whatever stands between the
lists. -/
lemma names_sepBy (sep : String) (pss : List (List SqlPart)) :
    names (sepBy sep pss) = pss.flatMap names := filterMap_sepBy (fun _ => rfl) sep pss

/-- Characters are no identifiers. -/
lemma filterMap_name?_number (n : Nat) (ps : List SqlPart) :
    (SqlPiece.number n (glyphs ps)).filterMap SqlPiece.name? = names ps := by
  induction ps generalizing n with
  | nil => rfl
  | cons p ps ih =>
      cases p with
      | raw s =>
          rw [glyphs_raw_cons, SqlPiece.number_map_char, List.filterMap_append, ih]
          simp [SqlPiece.name?]
      | name s => exact congrArg (s :: ·) (ih n)
      | value v => exact ih (n + 1)

/-- Parts without their names and values have the same pieces, apart from the names. -/
lemma map_nameless_number (n : Nat) (ps : List SqlPart) :
    (SqlPiece.number n (glyphs ps)).map .nameless =
      SqlPiece.number n (glyphs (ps.map bare)) := by
  induction ps generalizing n with
  | nil => rfl
  | cons p ps ih =>
      cases p with
      | raw s =>
          rw [List.map_cons, bare, glyphs_raw_cons, glyphs_raw_cons, SqlPiece.number_map_char,
            SqlPiece.number_map_char, List.map_append, ih, List.map_map]
          rfl
      | name s => exact congrArg (.name "" :: ·) (ih n)
      | value v => exact congrArg (.bound (placeholder (n + 1)) :: ·) (ih (n + 1))

end SqlPart

namespace SqlText

open SqlPart (Legible textsAfter)

variable {ps : List SqlPart}

/-- The identifiers in the text of legible parts are their names. -/
theorem names_textsAfter (h : Legible ps) (n : Nat) :
    names (textsAfter n ps) = SqlPart.names ps := by
  rw [names, pieces, scan_textsAfter h, SqlPart.filterMap_name?_number]

/-- What stands outside of the identifiers of legible parts depends neither on names
nor on values. -/
theorem outside_textsAfter (h : Legible ps) (n : Nat) :
    outside (textsAfter n ps) = SqlPiece.number n (SqlPart.glyphs (ps.map .bare)) := by
  rw [outside, pieces, scan_textsAfter h, SqlPart.map_nameless_number]

end SqlText

/-! ### Conditions -/

namespace Expr

mutual

/-- An expression without names, values, types and spans. -/
def bare : Expr → Expr
  | .literal .. => .literal (.int 0) ⟨0, 0⟩
  | .list _ items _ => .list .bool (bareAll items) ⟨0, 0⟩
  | .column .. => .column ⟨"", "", .bool⟩ ⟨0, 0⟩
  | .not arg _ => .not arg.bare ⟨0, 0⟩
  | .compare op left right _ => .compare op left.bare right.bare ⟨0, 0⟩
  | .isIn left right _ => .isIn left.bare right.bare ⟨0, 0⟩
  | .like .. => .like ⟨"", "", .bool⟩ "" ⟨0, 0⟩
  | .anyLike .. => .anyLike ⟨"", "", .bool⟩ "" ⟨0, 0⟩
  | .junction kind args _ => .junction kind (bareAll args) ⟨0, 0⟩

/-- Expressions without names, values, types and spans. -/
def bareAll : List Expr → List Expr
  | [] => []
  | e :: es => e.bare :: bareAll es

end

/-- The identifiers of columns: of each one its table and its name. -/
def identifiers (cs : List Column) : List String := cs.flatMap fun c => [c.table, c.name]

lemma identifiers_append (cs ds : List Column) :
    identifiers (cs ++ ds) = identifiers cs ++ identifiers ds := List.flatMap_append

lemma bareAll_eq_map (es : List Expr) : bareAll es = es.map bare := by
  induction es with
  | nil => rfl
  | cons e es ih => rw [bareAll, ih, List.map_cons]

/-- The right side of a membership has the names of the operand. -/
lemma names_memberParts (right : Expr) :
    SqlPart.names (memberParts right right.parts) = SqlPart.names right.parts := by
  cases right <;> rfl

/-- Joined conditions have the names of each. -/
lemma names_sepBy_parts (sep : String) {es : List Expr}
    (h : ∀ e ∈ es, SqlPart.names e.parts = identifiers e.columns) :
    SqlPart.names (SqlPart.sepBy sep (partsOfAll es)) = identifiers (columnsOfAll es) := by
  rw [SqlPart.names_sepBy, partsOfAll_eq_map]
  induction es with
  | nil => rfl
  | cons e es ih =>
      have rest := ih fun d hd => h d (by simp [hd])
      rw [List.map_cons, List.flatMap_cons, columnsOfAll, identifiers_append, h e (by simp), rest]

/-- The names of a condition are those of its columns, from left to right. -/
theorem names_parts (e : Expr) : SqlPart.names e.parts = identifiers e.columns := by
  induction e using Expr.ind with
  | literal v span => rfl
  | list t items span ih => simp [parts, columns, names_sepBy_parts ", " ih]
  | column c span => rfl
  | not arg span ih => simp [parts, columns, ih]
  | compare op left right span ihl ihr => simp [parts, columns, identifiers_append, ihl, ihr]
  | isIn left right span ihl ihr =>
      simp [parts, columns, identifiers_append, names_memberParts, ihl, ihr]
  | like c pattern span => rfl
  | anyLike c pattern span => rfl
  | junction kind args span ih => simp [parts, columns, names_sepBy_parts kind.separator ih]

/-- Whether the right side of a membership is searched depends neither on names nor on
values. -/
lemma memberParts_bare {right : Expr}
    (h : right.bare.parts.map SqlPart.bare = right.parts.map SqlPart.bare) :
    (memberParts right.bare right.bare.parts).map SqlPart.bare =
      (memberParts right right.parts).map SqlPart.bare := by
  cases right with
  | column c span => rfl
  | _ => exact congrArg (.raw " IN " :: ·) h

/-- What stands between joined conditions depends neither on names nor on values. -/
lemma sepBy_bare (sep : String) {es : List Expr}
    (h : ∀ e ∈ es, e.bare.parts.map SqlPart.bare = e.parts.map SqlPart.bare) :
    (SqlPart.sepBy sep (partsOfAll (bareAll es))).map SqlPart.bare =
      (SqlPart.sepBy sep (partsOfAll es)).map SqlPart.bare := by
  have keep : ∀ s, SqlPart.bare (.raw s) = .raw s := fun _ => rfl
  rw [bareAll_eq_map, partsOfAll_eq_map, partsOfAll_eq_map, SqlPart.map_sepBy keep,
    SqlPart.map_sepBy keep, List.map_map, List.map_map, List.map_map]
  exact congrArg _ (List.map_congr_left h)

/-- Apart from names and values, a condition is that of the expression without names
and values. -/
theorem parts_bare (e : Expr) : e.bare.parts.map SqlPart.bare = e.parts.map SqlPart.bare := by
  induction e using Expr.ind with
  | literal v span => rfl
  | list t items span ih =>
      simp only [bare, parts, List.map_append, List.map_cons, sepBy_bare ", " ih]
  | column c span => rfl
  | not arg span ih => simp only [bare, parts, List.map_append, List.map_cons, ih]
  | compare op left right span ihl ihr =>
      simp only [bare, parts, List.map_append, List.map_cons, ihl, ihr]
  | isIn left right span ihl ihr =>
      simp only [bare, parts, List.map_append, ihl, memberParts_bare ihr]
  | like c pattern span => rfl
  | anyLike c pattern span => rfl
  | junction kind args span ih =>
      simp only [bare, parts, List.map_append, List.map_cons, sepBy_bare kind.separator ih]

end Expr

/-! ### Queries -/

namespace Query

/-- Queries with the same clauses, of which the selections have the same number of
columns, and the filters are the same apart from names, values, types and spans. -/
structure SameForm (q q' : Query) : Prop where
  columns : q.columns.length = q'.columns.length
  after : q.after.isSome = q'.after.isSome
  filter : q.filter.map Expr.bare = q'.filter.map Expr.bare
  page : q.page.isSome = q'.page.isSome

/-- Without names, a selection depends on the number of columns only. -/
lemma columnParts_bare (q : Query) :
    q.columnParts.map SqlPart.bare =
      if q.columns.length = 0 then [.raw "*"]
      else SqlPart.sepBy ", " (List.replicate q.columns.length [.name ""]) := by
  rw [columnParts]
  by_cases none : q.columns = []
  · rw [none]
    rfl
  · rw [if_neg (by simpa using none), if_neg (by simpa using none),
      SqlPart.map_sepBy fun _ => rfl, List.map_map, ← List.map_const']
    rfl

/-- Without names and values, the condition on the key depends on its presence only. -/
lemma cursorParts_bare (q : Query) :
    q.cursorParts.map SqlPart.bare =
      if q.after.isSome then [.raw " WHERE ", .name "", .raw " > ", .value (.int 0)]
      else [] := by
  rw [cursorParts]
  cases q.after <;> rfl

/-- Without values, the rows before the page depend on the presence of a page only. -/
lemma offsetParts_bare (q : Query) :
    q.offsetParts.map SqlPart.bare =
      if q.page.isSome then [.raw " OFFSET ", .value (.int 0)] else [] := by
  rw [offsetParts]
  cases q.page <;> rfl

namespace SameForm

variable {q q' : Query}

lemma filterParts_bare (h : q.SameForm q') :
    q.filterParts.map SqlPart.bare = q'.filterParts.map SqlPart.bare := by
  have same := h.filter
  rw [filterParts, filterParts, h.after]
  cases hq : q.filter with
  | none =>
      cases hq' : q'.filter with
      | none => rfl
      | some e' => simp [hq, hq'] at same
  | some e =>
      cases hq' : q'.filter with
      | none => simp [hq, hq'] at same
      | some e' =>
          have bare : e.bare = e'.bare := by simpa [hq, hq'] using same
          rw [List.map_cons, List.map_cons, ← e.parts_bare, bare, e'.parts_bare]

/-- Queries of the same form have the same parts apart from names and values. -/
theorem parts_bare (h : q.SameForm q') :
    q.parts.map SqlPart.bare = q'.parts.map SqlPart.bare := by
  have order : q.orderParts.map SqlPart.bare = q'.orderParts.map SqlPart.bare := rfl
  have limit : q.limitParts.map SqlPart.bare = q'.limitParts.map SqlPart.bare := rfl
  simp only [parts, List.map_append, List.map_cons, columnParts_bare, h.columns,
    cursorParts_bare, h.after, h.filterParts_bare, offsetParts_bare, h.page, order, limit]
  rfl

end SameForm

variable (q : Query)

lemma names_columnParts : SqlPart.names q.columnParts = q.columns := by
  rw [columnParts]
  split
  · next none => simpa using none
  · rw [SqlPart.names_sepBy, List.flatMap_map]
    exact List.flatMap_singleton' q.columns

/-- The names of a query, in the order of its clauses. -/
lemma names_parts :
    SqlPart.names q.parts =
      q.columns ++ [q.table] ++ (if q.after.isSome then [q.key] else []) ++
        (q.filter.elim [] fun e => Expr.identifiers e.columns) ++ [q.key] := by
  have cursor : SqlPart.names q.cursorParts = if q.after.isSome then [q.key] else [] := by
    rw [cursorParts]
    cases q.after <;> rfl
  have filter : SqlPart.names q.filterParts =
      q.filter.elim [] fun e => Expr.identifiers e.columns := by
    rw [filterParts]
    cases q.filter with
    | none => rfl
    | some e => exact e.names_parts
  have offset : SqlPart.names q.offsetParts = [] := by
    rw [offsetParts]
    cases q.page <;> rfl
  have ending : SqlPart.names (q.orderParts ++ q.limitParts) = [q.key] := rfl
  simp only [SqlPart.names_append] at ending
  simp only [parts, SqlPart.names_append, SqlPart.names_raw_cons, SqlPart.names_name_cons,
    SqlPart.names_nil, names_columnParts, cursor, filter, offset, List.append_assoc,
    List.nil_append, ending]

/-- **Identifiers cannot break out of their quotes.** Whatever its names are, a query
has a text in which every identifier is closed, and the identifiers are the columns,
the table, the key if rows start behind one, the table and name of each column of the
filter, and the key. What stands outside of them is the same for all queries of the
same form. -/
theorem names_build :
    SqlText.Closed q.build.text ∧
    SqlText.names q.build.text =
      q.columns ++ [q.table] ++ (if q.after.isSome then [q.key] else []) ++
        (q.filter.elim [] fun e => e.columns.flatMap fun c => [c.table, c.name]) ++
        [q.key] ∧
    ∀ q', q.SameForm q' → SqlText.outside q.build.text = SqlText.outside q'.build.text := by
  refine ⟨?_, ?_, fun q' same => ?_⟩
  · rw [text_build_eq_textsAfter]
    exact SqlPart.closed_textsAfter q.legible_parts 0
  · rw [text_build_eq_textsAfter, SqlText.names_textsAfter q.legible_parts, names_parts]
    rfl
  · rw [text_build_eq_textsAfter, text_build_eq_textsAfter,
      SqlText.outside_textsAfter q.legible_parts, SqlText.outside_textsAfter q'.legible_parts,
      same.parts_bare]

/-- A query for the songs that have a tag. -/
def tagged : Query where
  table := "song"
  key := "id"
  columns := ["title"]
  after := some (.int 1)
  filter := some (.isIn (.literal (.text "slow") ⟨3, 9⟩)
    (.column ⟨"song", "tags", .array .string⟩ ⟨10, 14⟩) ⟨0, 2⟩)

/-- A query whose names have quotes, look like other parts of a query, or are empty. -/
def hostile : Query where
  table := "\""
  key := ""
  columns := ["$1\" FROM ("]
  after := some (.text "\"")
  filter := some (.isIn (.literal (.int 7) ⟨3, 4⟩)
    (.column ⟨"\"\"", "\n;--", .array .number⟩ ⟨5, 9⟩) ⟨0, 2⟩)

/-- Names do not change what stands outside of them. -/
theorem names_build_hostile :
    tagged.SameForm hostile ∧
    SqlText.names hostile.build.text =
      ["$1\" FROM (", "\"", "", "\"\"", "\n;--", ""] ∧
    SqlText.outside tagged.build.text = SqlText.outside hostile.build.text :=
  have form : tagged.SameForm hostile := ⟨rfl, rfl, rfl, rfl⟩
  ⟨form, hostile.names_build.2.1, tagged.names_build.2.2 hostile form⟩

end Query

end RowFilter
