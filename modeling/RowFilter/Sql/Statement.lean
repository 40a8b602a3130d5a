/-
SQL texts with numbered placeholders, and the values that belong to them.

* `quoteName`: an identifier between double quotes.
* `SqlPart`: a piece of an SQL text before the placeholders are numbered: a
  raw text, an identifier, or a value.
* `Statement`: an SQL text with the values of its placeholders.
* `Statement.write`: appends a part. A value becomes the placeholder of the
  next number, and joins the values.
* `writeAll_append`: parts are written one after the other.
* `params_writeAll`: the values of a statement are those of its parts, in
  order.
* `text_writeAll`: the text written for parts depends only on the number of
  values before them.
-/
import RowFilter.Sql.Value

namespace RowFilter

/-- An identifier between double quotes. A quote inside is written twice. -/
def quoteName (name : String) : String :=
  String.ofList ('"' :: name.toList.flatMap
    (fun c => if c = '"' then ['"', '"'] else [c]) ++ ['"'])

/-- The placeholder of the `n`th value, counted from one. -/
def placeholder (n : Nat) : String := s!"${n}"

/-- A piece of an SQL text before the placeholders are numbered. -/
inductive SqlPart where
  /-- A text that stands as it is. -/
  | raw (s : String)
  /-- An identifier, to be quoted. -/
  | name (s : String)
  /-- A value, to be replaced by a placeholder. -/
  | value (v : SqlValue)
deriving DecidableEq

namespace SqlPart

/-- The value of a part, if it is one. -/
def value? : SqlPart → Option SqlValue
  | .value v => some v
  | _ => none

/-- The text of a part before which there are `n` values. -/
def textAfter (n : Nat) : SqlPart → String
  | .raw s => s
  | .name s => quoteName s
  | .value _ => placeholder (n + 1)

/-- A qualified column: the quoted table and the quoted name, with a point
between them. -/
def qualified (table name : String) : List SqlPart :=
  [.name table, .raw ".", .name name]

/-- Lists of parts with a separator text between them. -/
def sepBy (sep : String) : List (List SqlPart) → List SqlPart
  | [] => []
  | [ps] => ps
  | ps :: rest => ps ++ .raw sep :: sepBy sep rest

/-- A map that keeps raw texts goes through to the lists between the separators. -/
theorem map_sepBy {f : SqlPart → SqlPart} (h : ∀ s, f (.raw s) = .raw s) (sep : String)
    (pss : List (List SqlPart)) :
    (sepBy sep pss).map f = sepBy sep (pss.map (List.map f)) := by
  induction pss with
  | nil => rfl
  | cons ps pss ih =>
    cases pss with
    | nil => rfl
    | cons qs pss =>
      simp only [sepBy, List.map_append, List.map_cons, h, ih]

/-- What is picked out of lists of parts, but not of raw texts, comes one after the
other, whatever stands between the lists. -/
theorem filterMap_sepBy {α : Type} {f : SqlPart → Option α} (h : ∀ s, f (.raw s) = none)
    (sep : String) (pss : List (List SqlPart)) :
    (sepBy sep pss).filterMap f = pss.flatMap (List.filterMap f) := by
  induction pss with
  | nil => rfl
  | cons ps pss ih =>
    cases pss with
    | nil => simp [sepBy]
    | cons qs pss =>
      simp only [sepBy, List.filterMap_append, List.filterMap_cons_none (h sep), ih,
        List.flatMap_cons]

/-- The values of parts, in order. -/
def values (ps : List SqlPart) : List SqlValue := ps.filterMap value?

@[simp] theorem values_nil : values [] = [] := rfl

@[simp] theorem values_raw_cons (s : String) (ps : List SqlPart) :
    values (.raw s :: ps) = values ps := rfl

@[simp] theorem values_name_cons (s : String) (ps : List SqlPart) :
    values (.name s :: ps) = values ps := rfl

@[simp] theorem values_value_cons (v : SqlValue) (ps : List SqlPart) :
    values (.value v :: ps) = v :: values ps := rfl

/-- The values of a concatenation come one after the other. -/
@[simp] theorem values_append (ps qs : List SqlPart) :
    values (ps ++ qs) = values ps ++ values qs := List.filterMap_append ..

/-- The text of parts before which there are `n` values. -/
def textsAfter : Nat → List SqlPart → String
  | _, [] => ""
  | n, p :: ps => p.textAfter n ++ textsAfter (n + p.value?.toList.length) ps

end SqlPart

/-- An SQL text with the values of its placeholders, in order. -/
structure Statement where
  text : String := ""
  params : Array SqlValue := #[]
deriving DecidableEq

namespace Statement

/-- Appends a part. -/
def write (st : Statement) : SqlPart → Statement
  | .raw s => { st with text := st.text ++ s }
  | .name s => { st with text := st.text ++ quoteName s }
  | .value v =>
    { text := st.text ++ placeholder (st.params.size + 1)
      params := st.params.push v }

/-- Appends parts one after the other. -/
def writeAll (st : Statement) (ps : List SqlPart) : Statement :=
  ps.foldl write st

/-- The statement of parts alone. -/
def ofParts (ps : List SqlPart) : Statement := writeAll {} ps

/-! ### What is written -/

/-- The parts of a concatenation are written one after the other. -/
@[simp] theorem writeAll_append (st : Statement) (ps qs : List SqlPart) :
    st.writeAll (ps ++ qs) = (st.writeAll ps).writeAll qs :=
  List.foldl_append ..

/-- A part adds its text. -/
theorem text_write (st : Statement) (p : SqlPart) :
    (st.write p).text = st.text ++ p.textAfter st.params.size := by
  cases p <;> rfl

/-- A part adds its value, if it is one. -/
theorem params_write (st : Statement) (p : SqlPart) :
    (st.write p).params.toList = st.params.toList ++ p.value?.toList := by
  cases p <;> simp [write, SqlPart.value?]

/-- The values of parts are added in order. -/
theorem params_writeAll (st : Statement) (ps : List SqlPart) :
    (st.writeAll ps).params.toList =
      st.params.toList ++ SqlPart.values ps := by
  induction ps generalizing st with
  | nil => simp [writeAll, SqlPart.values]
  | cons p ps ih =>
    change ((st.write p).writeAll ps).params.toList = _
    rw [ih, params_write, List.append_assoc]
    congr 1
    cases p <;> rfl

/-- The text that parts add depends only on the number of values before
them. -/
theorem text_writeAll (st : Statement) (ps : List SqlPart) :
    (st.writeAll ps).text =
      st.text ++ SqlPart.textsAfter st.params.size ps := by
  induction ps generalizing st with
  | nil => simp [writeAll, SqlPart.textsAfter]
  | cons p ps ih =>
    change ((st.write p).writeAll ps).text = _
    have size : (st.write p).params.size =
        st.params.size + p.value?.toList.length := by
      simpa using congrArg List.length (params_write st p)
    rw [ih, text_write, size, SqlPart.textsAfter, String.append_assoc]

end Statement

end RowFilter
