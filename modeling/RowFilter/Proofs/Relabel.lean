/-
Changing spans and literals while the form stays.

* `Relabelling`: maps on spans, numbers, texts and dates.
* `Relabelling.value`, `Relabelling.token`, `Relabelling.part`,
  `Expr.relabel`: values, tokens, parts and expressions with their spans and
  literals mapped.
* `type_relabel`: types stay.
* `relabel_relabel`: mapping twice is mapping once.
* `parts_relabel`: the parts of a condition are mapped with it.
* `toSql_text_relabel`, `toSql_params_relabel`: the text of a condition stays,
  and its values are mapped.
* `toSql_kinds_relabel`: the values of a condition keep their kinds.
* `parts_relabel_of_value`: without a change of literals, the condition stays.
* `Relabelling.spanless`, `Relabelling.blank`: spans, or spans and literals,
  become the same.
* `Expr.spanless`: an expression without its spans, and
  `type_eq_of_spanless_eq`: expressions that are equal up to spans have one
  type.
-/
import Mathlib.Tactic.Common
import RowFilter.Expr.Sql

namespace RowFilter

/-- Maps on what tokens and expressions hold besides their form. -/
structure Relabelling where
  span : Span → Span := id
  number : Int64 → Int64 := id
  text : String → String := id
  date : Date → Date := id

namespace Relabelling

variable (m : Relabelling)

/-- A value mapped. -/
def value : SqlValue → SqlValue
  | .int n => .int (m.number n)
  | .text s => .text (m.text s)
  | .date d => .date (m.date d)

/-- A lexeme with its literal mapped. -/
def lexeme : Lexeme → Lexeme
  | .number n => .number (m.number n)
  | .string s => .string (m.text s)
  | .separator c => .separator c
  | .operator index => .operator index
  | .symbol s => .symbol s

/-- A token mapped. -/
def token (t : Token) : Token := ⟨m.lexeme t.lexeme, m.span t.span⟩

/-- A part with its value mapped. -/
def part : SqlPart → SqlPart
  | .value v => .value (m.value v)
  | .raw s => .raw s
  | .name s => .name s

/-- A value keeps its kind. -/
@[simp] lemma kind_value (v : SqlValue) : (m.value v).kind = v.kind := by
  cases v <;> rfl

@[simp] lemma typeOfValue_value (v : SqlValue) :
    Expr.typeOfValue (m.value v) = Expr.typeOfValue v := by
  cases v <;> rfl

/-- All spans become the same, and literals stay. -/
def spanless : Relabelling where
  span := fun _ => ⟨0, 0⟩

/-- The date that all dates become when literals become the same. -/
def epoch : Date := ⟨1970, 1, 1, by decide⟩

/-- All spans and all literals become the same. -/
def blank : Relabelling where
  span := fun _ => ⟨0, 0⟩
  number := fun _ => 0
  text := fun _ => ""
  date := fun _ => epoch

/-- One relabelling after another. -/
def trans (m m' : Relabelling) : Relabelling where
  span := m'.span ∘ m.span
  number := m'.number ∘ m.number
  text := m'.text ∘ m.text
  date := m'.date ∘ m.date

lemma value_value (m' : Relabelling) (v : SqlValue) :
    m'.value (m.value v) = (m.trans m').value v := by
  cases v <;> rfl

/-- Separators stay, and nothing becomes one. -/
lemma lexeme_eq_separator_iff {l : Lexeme} {c : Char} :
    m.lexeme l = .separator c ↔ l = .separator c := by
  cases l <;> simp [lexeme]

end Relabelling

namespace Expr

mutual

/-- An expression with its spans and literals mapped. -/
def relabel (m : Relabelling) : Expr → Expr
  | .literal v s => .literal (m.value v) (m.span s)
  | .list t items s => .list t (relabelAll m items) (m.span s)
  | .column c s => .column c (m.span s)
  | .not arg s => .not (arg.relabel m) (m.span s)
  | .compare op left right s =>
    .compare op (left.relabel m) (right.relabel m) (m.span s)
  | .isIn left right s => .isIn (left.relabel m) (right.relabel m) (m.span s)
  | .like c pattern s => .like c (m.text pattern) (m.span s)
  | .anyLike c pattern s => .anyLike c (m.text pattern) (m.span s)
  | .junction kind args s => .junction kind (relabelAll m args) (m.span s)

/-- Expressions with their spans and literals mapped. -/
def relabelAll (m : Relabelling) : List Expr → List Expr
  | [] => []
  | e :: es => e.relabel m :: relabelAll m es

end

lemma relabelAll_eq_map (m : Relabelling) (es : List Expr) :
    relabelAll m es = es.map (relabel m) := by
  induction es with
  | nil => rfl
  | cons e es ih => rw [relabelAll, ih, List.map_cons]

/-- The type of an expression stays. -/
@[simp] lemma type_relabel (m : Relabelling) (e : Expr) :
    (e.relabel m).type = e.type := by
  cases e with
  | literal v s => exact m.typeOfValue_value v
  | _ => rfl

/-- The span of an expression is mapped with it. -/
lemma span_relabel (m : Relabelling) (e : Expr) : (e.relabel m).span = m.span e.span := by
  cases e <;> rfl

/-- Expressions that are mapped twice are mapped once by both maps. -/
lemma relabel_relabel (m m' : Relabelling) (e : Expr) :
    (e.relabel m).relabel m' = e.relabel (m.trans m') := by
  have all : ∀ {es : List Expr}, (∀ e ∈ es, (e.relabel m).relabel m' = e.relabel (m.trans m')) →
      relabelAll m' (relabelAll m es) = relabelAll (m.trans m') es := by
    intro es h
    rw [relabelAll_eq_map, relabelAll_eq_map, relabelAll_eq_map, List.map_map]
    exact List.map_congr_left h
  induction e using Expr.ind with
  | literal v s =>
      rw [relabel, relabel, relabel, m.value_value]
      rfl
  | list t items s ih =>
      rw [relabel, relabel, relabel, all ih]
      rfl
  | column c s => rfl
  | not arg s ih =>
      rw [relabel, relabel, relabel, ih]
      rfl
  | compare op left right s ihl ihr =>
      rw [relabel, relabel, relabel, ihl, ihr]
      rfl
  | isIn left right s ihl ihr =>
      rw [relabel, relabel, relabel, ihl, ihr]
      rfl
  | like c pattern s => rfl
  | anyLike c pattern s => rfl
  | junction kind args s ih =>
      rw [relabel, relabel, relabel, all ih]
      rfl

/-- The parts on the right side of a membership are mapped with it. -/
lemma memberParts_relabel (m : Relabelling) (right : Expr) (ps : List SqlPart) :
    memberParts (right.relabel m) (ps.map m.part) =
      (memberParts right ps).map m.part := by
  cases right <;> rfl

/-- The parts of joined conditions are mapped with them. -/
lemma sepBy_relabel (m : Relabelling) (sep : String) {es : List Expr}
    (h : ∀ e ∈ es, (e.relabel m).parts = e.parts.map m.part) :
    SqlPart.sepBy sep (partsOfAll (relabelAll m es)) =
      (SqlPart.sepBy sep (partsOfAll es)).map m.part := by
  rw [relabelAll_eq_map, partsOfAll_eq_map, partsOfAll_eq_map, SqlPart.map_sepBy fun _ => rfl,
    List.map_map, List.map_map]
  exact congrArg _ (List.map_congr_left h)

/-- The parts of a condition are mapped with it. -/
theorem parts_relabel (m : Relabelling) (e : Expr) :
    (e.relabel m).parts = e.parts.map m.part := by
  induction e using Expr.ind with
  | literal v s => rfl
  | list t items s ih =>
      rw [relabel, parts, sepBy_relabel m ", " ih, parts, List.map_append]
      rfl
  | column c s => rfl
  | not arg s ih =>
      rw [relabel, parts, ih, parts, List.map_append]
      rfl
  | compare op left right s ihl ihr =>
      rw [relabel, parts, ihl, ihr, parts, List.map_append]
      rfl
  | isIn left right s ihl ihr =>
      rw [relabel, parts, ihl, ihr, memberParts_relabel, parts, List.map_append]
  | like c pattern s => rfl
  | anyLike c pattern s => rfl
  | junction kind args s ih =>
      rw [relabel, parts, sepBy_relabel m kind.separator ih, parts,
        List.map_append]
      rfl

/-! ### The text and the values -/

/-- The text of parts does not depend on the values. -/
lemma textsAfter_map_part (m : Relabelling) (n : Nat) (ps : List SqlPart) :
    SqlPart.textsAfter n (ps.map m.part) = SqlPart.textsAfter n ps := by
  induction ps generalizing n with
  | nil => rfl
  | cons p ps ih =>
      have rest := ih (n + p.value?.toList.length)
      rw [List.map_cons, SqlPart.textsAfter, SqlPart.textsAfter, ← rest]
      cases p <;> rfl

lemma values_map_part (m : Relabelling) (ps : List SqlPart) :
    SqlPart.values (ps.map m.part) = (SqlPart.values ps).map m.value := by
  induction ps with
  | nil => rfl
  | cons p ps ih => cases p <;> simp [Relabelling.part, ih]

/-- The text of a condition stays when its literals are mapped. -/
theorem toSql_text_relabel (m : Relabelling) (e : Expr) :
    (e.relabel m).toSql.text = e.toSql.text := by
  have mapped : SqlPart.textsAfter 0 (e.relabel m).parts =
      SqlPart.textsAfter 0 e.parts := by
    rw [parts_relabel, textsAfter_map_part]
  calc (e.relabel m).toSql.text
      = "" ++ SqlPart.textsAfter 0 (e.relabel m).parts :=
        Statement.text_writeAll {} _
    _ = "" ++ SqlPart.textsAfter 0 e.parts := by rw [mapped]
    _ = e.toSql.text := (Statement.text_writeAll {} _).symm

/-- The values of a condition are mapped with its literals. -/
theorem toSql_params_relabel (m : Relabelling) (e : Expr) :
    (e.relabel m).toSql.params.toList = e.toSql.params.toList.map m.value := by
  have mapped : SqlPart.values (e.relabel m).parts =
      (SqlPart.values e.parts).map m.value := by
    rw [parts_relabel, values_map_part]
  calc (e.relabel m).toSql.params.toList
      = SqlPart.values (e.relabel m).parts := Statement.params_writeAll {} _
    _ = (SqlPart.values e.parts).map m.value := mapped
    _ = e.toSql.params.toList.map m.value :=
        congrArg (List.map m.value) (Statement.params_writeAll {} _).symm

/-- The values of a condition keep their kinds. -/
lemma toSql_kinds_relabel (m : Relabelling) (e : Expr) :
    (e.relabel m).toSql.params.map SqlValue.kind =
      e.toSql.params.map SqlValue.kind := by
  have same : SqlValue.kind ∘ m.value = SqlValue.kind := funext m.kind_value
  apply Array.toList_inj.mp
  rw [Array.toList_map, Array.toList_map, toSql_params_relabel, List.map_map,
    same]

/-! ### Spans -/

/-- An expression without its spans. -/
def spanless (e : Expr) : Expr := e.relabel .spanless

@[simp] lemma type_spanless (e : Expr) : e.spanless.type = e.type :=
  type_relabel _ e

/-- Only literals show in a condition. -/
lemma parts_relabel_of_value {m : Relabelling} (h : ∀ v, m.value v = v) (e : Expr) :
    (e.relabel m).parts = e.parts := by
  have same : ∀ p, m.part p = p := by
    intro p
    cases p with
    | value v => exact congrArg SqlPart.value (h v)
    | _ => rfl
  calc (e.relabel m).parts
      = e.parts.map m.part := parts_relabel _ e
    _ = e.parts.map id := List.map_congr_left fun p _ => same p
    _ = e.parts := List.map_id _

/-- Spans do not show in a condition. -/
lemma parts_spanless (e : Expr) : e.spanless.parts = e.parts :=
  parts_relabel_of_value (by intro v; cases v <;> rfl) e

/-- Expressions that are equal up to spans have one type. -/
lemma type_eq_of_spanless_eq {e f : Expr} (h : f.spanless = e.spanless) :
    f.type = e.type := by
  rw [← type_spanless f, h, type_spanless]

lemma spanless_list (type : ValueType) (items : List Expr) (span : Span) :
    (Expr.list type items span).spanless = .list type (items.map spanless) ⟨0, 0⟩ := by
  rw [spanless, relabel, relabelAll_eq_map]
  rfl

lemma spanless_junction (kind : Junction) (args : List Expr) (span : Span) :
    (Expr.junction kind args span).spanless =
      .junction kind (args.map spanless) ⟨0, 0⟩ := by
  rw [spanless, relabel, relabelAll_eq_map]
  rfl

/-- What is a column up to spans is a column. -/
lemma eq_column_of_spanless {c : Column} {span : Span} {f : Expr}
    (h : f.spanless = .column c span) : ∃ span', f = .column c span' := by
  cases f with
  | column d span' =>
      cases h
      exact ⟨span', rfl⟩
  | _ => cases h

/-- What is a text up to spans is a text. -/
lemma eq_text_of_spanless {t : String} {span : Span} {f : Expr}
    (h : f.spanless = .literal (.text t) span) : ∃ span', f = .literal (.text t) span' := by
  cases f with
  | literal v span' =>
      cases v with
      | text =>
          cases h
          exact ⟨span', rfl⟩
      | _ => cases h
  | _ => cases h

/-- Lists that are equal up to spans have items of the same types. -/
lemma forall_type_eq {es fs : List Expr} {type : ValueType}
    (h : fs.map spanless = es.map spanless) (hes : ∀ e ∈ es, e.type = type) :
    ∀ f ∈ fs, f.type = type := by
  intro f hf
  have listed : f.spanless ∈ es.map spanless := h ▸ List.mem_map_of_mem hf
  obtain ⟨e, he, same⟩ := List.mem_map.mp listed
  rw [type_eq_of_spanless_eq same.symm, hes e he]

end Expr

end RowFilter
