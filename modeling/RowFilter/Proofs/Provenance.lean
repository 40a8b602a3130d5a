/-
Where the types and the columns of a compiled tree come from.

* `Fields.find?_ofList`: the last declaration of a name counts.
* `ValueType.IsFlat`: the types that hold no arrays of arrays.
* `Typed.descends`: every node of a well-typed expression is well typed.
* `Typed.isFlat`, `Typed.membership`: its type is flat, and what a membership
  compares.
* `text_renderInto_isIn_list`, `text_renderInto_isIn_column`: the two forms of
  the condition of a membership.
* `Expr.Traced`: what holds of a node of a tree over declared fields.
* `traced_of_parse`: it holds of every node that a text is parsed as.
-/
import Mathlib.Data.List.Induction
import RowFilter.Proofs.Grammar.Typed
import RowFilter.Proofs.Nesting
import RowFilter.Proofs.Sql.Shelter

namespace RowFilter

/-! ### Declarations -/

/-- The last of the declarations that declare a name is the one for `type`. -/
def LastDeclares (decls : List (String × ValueType)) (name : String) (type : ValueType) :
    Prop :=
  ∃ before after, decls = before ++ (name, type) :: after ∧ ∀ d ∈ after, d.1 ≠ name

namespace Fields

/-- Fields are found as in the declarations from the last one on. -/
lemma find?_ofList (decls : List (String × ValueType)) (name : String) :
    (ofList decls).find? name = decls.reverse.lookup name := by
  induction decls using List.reverseRecOn with
  | nil => rfl
  | append_singleton decls d ih =>
      have last : ofList (decls ++ [d]) = (ofList decls).insert d.1 d.2 :=
        List.foldl_concat ..
      rw [last, find?_insert, ih, List.reverse_concat, ← lookup_cons_eq_ite]

/-- A field has the type of the last declaration of its name. -/
lemma find?_ofList_eq_some_iff {decls : List (String × ValueType)} {name : String}
    {type : ValueType} :
    (ofList decls).find? name = some type ↔ LastDeclares decls name type := by
  rw [find?_ofList, List.lookup_eq_some_iff]
  constructor
  · rintro ⟨after, before, split, others⟩
    refine ⟨before.reverse, after.reverse, ?_, fun d hd => ?_⟩
    · rw [← List.reverse_reverse decls, split]
      simp
    · exact (bne_iff_ne.mp (others d (List.mem_reverse.mp hd))).symm
  · rintro ⟨before, after, rfl, others⟩
    refine ⟨after.reverse, before.reverse, by simp, fun d hd => ?_⟩
    exact bne_iff_ne.mpr (others d (List.mem_reverse.mp hd)).symm

end Fields

/-- A schema has the table and the fields that it was declared with. -/
lemma Schema.of_eq_ok {table : String} {decls : List (String × ValueType)}
    {readDate : DateReader} {s : Schema} (h : Schema.of table decls readDate = .ok s) :
    s.table = table ∧ s.fields = Fields.ofList decls := by
  unfold Schema.of at h
  split at h
  · cases h
  · split at h
    · cases h
    · cases h
      exact ⟨rfl, rfl⟩

/-! ### Types -/

/-- A number, a text, a date, a truth value, or an array of one of these. -/
def ValueType.IsFlat (type : ValueType) : Prop :=
  type.isArray = false ∨ ∃ item, type = .array item ∧ item.isArray = false

lemma ValueType.IsFlat.of_isDeclarable {type : ValueType} (h : type.isDeclarable = true) :
    type.IsFlat := by
  cases type with
  | array item =>
      refine .inr ⟨item, rfl, ?_⟩
      simp only [isDeclarable, Bool.and_eq_true, Bool.not_eq_true'] at h
      exact h.1
  | _ => exact .inl rfl

namespace Expr

variable {s : Schema} {e node left right : Expr} {span : Span}

namespace Typed

/-- The operands of a well-typed expression are well typed. -/
lemma operand (h : Typed s e) (hnode : node ∈ e.operands) : Typed s node := by
  cases h with
  | list _ _ hitems => exact hitems node hnode
  | junction _ _ _ hargs => exact hargs node hnode
  | not _ harg =>
      obtain rfl := List.mem_singleton.mp hnode
      exact harg
  | compare _ _ hl hr | isIn _ hl hr =>
      simp only [operands, List.mem_cons, List.not_mem_nil, or_false] at hnode
      rcases hnode with rfl | rfl
      · exact hl
      · exact hr
  | _ => cases hnode

/-- Every node of a well-typed expression is well typed. -/
lemma descends (h : Typed s e) {n : Nat} (way : Descends n e node) : Typed s node := by
  induction way with
  | here => exact h
  | down hoperand _ ih => exact ih (h.operand hoperand)

/-- A well-typed expression has a flat type. -/
lemma isFlat (h : Typed s e) : e.type.IsFlat := by
  cases h with
  | literal v => exact .inl (by cases v <;> rfl)
  | list _ _ _ _ hty => exact .inr ⟨_, rfl, hty⟩
  | column _ declared => exact .of_isDeclarable declared.isDeclarable
  | _ => exact .inl rfl

/-- The left operand of a membership is no array, and the right one is a list with
items or an array column. -/
lemma membership (h : Typed s (.isIn left right span)) :
    left.type.isArray = false ∧
      ((∃ items opened, right = .list left.type items opened ∧ items ≠ []) ∨
        ∃ c place, right = .column c place ∧ c.type = .array left.type) := by
  cases h with
  | isIn _ _ hright hty =>
      rcases eq_list_or_column hty with ⟨items, opened, rfl⟩ | ⟨c, place, rfl, hc⟩
      · cases hright with
        | list _ nonempty _ _ flat => exact ⟨flat, .inl ⟨items, opened, rfl, nonempty⟩⟩
      · refine ⟨?_, .inr ⟨c, place, rfl, hc⟩⟩
        rcases hright.isFlat with scalar | ⟨item, hitem, flat⟩
        · rw [hty] at scalar
          cases scalar
        · rw [hty] at hitem
          cases hitem
          exact flat

end Typed

/-! ### The condition of a membership -/

/-- A membership is written as its left operand and the right side behind it. -/
lemma text_renderInto_isIn (left right : Expr) (span : Span) (st : Statement) :
    ((isIn left right span).renderInto st).text =
      (left.renderInto st).text ++
        SqlPart.textsAfter (left.renderInto st).params.size
          (memberParts right right.parts) := by
  have behind : (isIn left right span).renderInto st =
      (left.renderInto st).writeAll (memberParts right right.parts) :=
    st.writeAll_append left.parts _
  rw [behind, Statement.text_writeAll]

/-- Behind the left operand of a membership in a list stand the items, in
parentheses. -/
lemma text_renderInto_isIn_list (left : Expr) (type : ValueType) (items : List Expr)
    (opened span : Span) (st : Statement) :
    ((isIn left (.list type items opened) span).renderInto st).text =
      (left.renderInto st).text ++ " IN (" ++
        SqlPart.textsAfter (left.renderInto st).params.size
          (SqlPart.sepBy ", " (items.map parts)) ++ ")" := by
  have behind : memberParts (.list type items opened) (Expr.list type items opened).parts =
      .raw " IN " :: .raw "(" :: (SqlPart.sepBy ", " (items.map parts) ++ [.raw ")"]) := by
    rw [← partsOfAll_eq_map]
    rfl
  have opening : " IN (" = " IN " ++ "(" := rfl
  rw [text_renderInto_isIn, behind, opening]
  simp [SqlPart.textsAfter, SqlPart.textAfter, SqlPart.value?, SqlPart.textsAfter_append,
    String.append_assoc, -String.reduceAppend]

/-- Behind the left operand of a membership in a column stands the column. -/
lemma text_renderInto_isIn_column (left : Expr) (c : Column) (place span : Span)
    (st : Statement) :
    ((isIn left (.column c place) span).renderInto st).text =
      (left.renderInto st).text ++ " = ANY(" ++
        (quoteName c.table ++ "." ++ quoteName c.name) ++ ")" := by
  rw [text_renderInto_isIn, memberParts]
  simp [Column.parts, SqlPart.qualified, SqlPart.textsAfter, SqlPart.textAfter,
    String.append_assoc]

/-! ### Nodes -/

/-- The column that a node refers to, if it does. -/
def columnOf? : Expr → Option Column
  | .column c _ | .like c _ _ | .anyLike c _ _ => some c
  | _ => none

/-- A node refers to a column that its schema declares. -/
lemma Typed.declares (h : Typed s e) {c : Column} (hc : e.columnOf? = some c) :
    s.Declares c := by
  cases h with
  | column _ declared | like _ _ declared | anyLike _ _ declared =>
      cases hc
      exact declared
  | _ => cases hc

/-- What holds of a node of a tree over a table with declared fields: its type is
flat; the column that it refers to is declared last with the type that it has there;
a list has items, of one type; and a membership is one in a list or in an array
column, and is written so. -/
structure Traced (table : String) (decls : List (String × ValueType)) (node : Expr) :
    Prop where
  flat : node.type.IsFlat
  column : ∀ c, node.columnOf? = some c →
    c.table = table ∧ LastDeclares decls c.name c.type ∧
      c.type ≠ .bool ∧ c.type ≠ .array .bool
  list : ∀ type items opened, node = .list type items opened →
    items ≠ [] ∧ ∀ i ∈ items, i.type = type
  membership : ∀ left right span, node = .isIn left right span →
    left.type.isArray = false ∧
      ((∃ items opened, right = .list left.type items opened ∧ items ≠ [] ∧
        ∀ st : Statement, (node.renderInto st).text =
          (left.renderInto st).text ++ " IN (" ++
            SqlPart.textsAfter (left.renderInto st).params.size
              (SqlPart.sepBy ", " (items.map parts)) ++ ")") ∨
        ∃ c place, right = .column c place ∧ c.type = .array left.type ∧
          ∀ st : Statement, (node.renderInto st).text =
            (left.renderInto st).text ++ " = ANY(" ++
              (quoteName c.table ++ "." ++ quoteName c.name) ++ ")")

/-- A well-typed expression over a declared schema is traced to the
declarations. -/
lemma Typed.traced {table : String} {decls : List (String × ValueType)}
    {readDate : DateReader} (declared : Schema.of table decls readDate = .ok s)
    (h : Typed s e) : Traced table decls e := by
  obtain ⟨rfl, fields⟩ := Schema.of_eq_ok declared
  refine ⟨h.isFlat, fun c hc => ?_, ?_, ?_⟩
  · have known := h.declares hc
    have found : s.fields.find? c.name = some c.type := known.2
    rw [fields, Fields.find?_ofList_eq_some_iff] at found
    exact ⟨known.1, found, known.type_ne⟩
  · rintro type items opened rfl
    cases h with
    | list _ nonempty _ same _ => exact ⟨nonempty, same⟩
  · rintro left right span rfl
    obtain ⟨scalar, ⟨items, opened, rfl, nonempty⟩ | ⟨c, place, rfl, hc⟩⟩ := h.membership
    · exact ⟨scalar, .inl ⟨items, opened, rfl, nonempty,
        text_renderInto_isIn_list _ _ _ _ _⟩⟩
    · exact ⟨scalar, .inr ⟨c, place, rfl, hc, text_renderInto_isIn_column _ _ _ _⟩⟩

end Expr

namespace Compiler

open RowFilter.Expr (Descends Traced)

/-- **Compiled trees are traced to their declarations.** Over any declarations that
make a schema, every node of the tree that a text is parsed as has a flat type, refers
to a column by its last declaration only, and is a list or a membership only in the
forms that `Traced` allows; the tree as a whole is a condition. -/
theorem traced_of_parse {table : String} {decls : List (String × ValueType)}
    {readDate : DateReader} {c : Compiler}
    (declared : Schema.of table decls readDate = .ok c.schema) {text : String} {e : Expr}
    (h : c.parse text = .ok e) :
    e.type = .bool ∧ ∀ n node, Descends n e node → Traced table decls node :=
  ⟨parse_type h, fun _ _ way => ((typed_of_parse h).descends way).traced declared⟩

/-- Declarations of which one name stands twice. -/
def songDecls : List (String × ValueType) :=
  [("tags", .number), ("tags", .array .string), ("name", .string)]

/-- A compiler for a table with these declarations. -/
def songs : Compiler where
  schema := {
    table := "song"
    fields := .ofList songDecls
    readDate := DatePattern.reader "%Y-%m-%d"
    named := by decide
    declarable := fun f hf => by
      have listed := Fields.mem_entries_ofList hf
      revert f
      decide }

/-- The membership of a name in a field of texts. -/
def nameInTags : Expr :=
  .isIn (.column ⟨"song", "name", .string⟩ ⟨7, 11⟩)
    (.column ⟨"song", "tags", .array .string⟩ ⟨12, 16⟩) ⟨4, 6⟩

/-- A membership is traced to the last declarations, also inside a negation. -/
theorem traced_nameInTags :
    Schema.of "song" songDecls (DatePattern.reader "%Y-%m-%d") = .ok songs.schema ∧
      songs.parse "NOT(IN(name,tags))" = .ok (.not nameInTags ⟨0, 3⟩) ∧
      Traced "song" songDecls nameInTags := by
  have declared : Schema.of "song" songDecls (DatePattern.reader "%Y-%m-%d") =
      .ok songs.schema := rfl
  have parsed : songs.parse "NOT(IN(name,tags))" = .ok (.not nameInTags ⟨0, 3⟩) := by
    decide +kernel
  have below : Descends 1 (.not nameInTags ⟨0, 3⟩) nameInTags :=
    .down (List.mem_singleton.mpr rfl) (.here _)
  exact ⟨declared, parsed, (traced_of_parse declared parsed).2 1 _ below⟩

end Compiler

end RowFilter
