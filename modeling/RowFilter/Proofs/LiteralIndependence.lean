/-
Literals do not influence the text of a condition.

* `Relabelling.Carries`: schemas between which tokens and expressions can be
  mapped.
* `Derives.relabel`: what tokens derive is mapped with them.
* `Lexeme.SameForm`, `Token.SameForm`: lexemes and tokens that differ in the
  value of a literal at most.
* `Schema.lenient`: every text is read as the same date.
* `relabel_blank_eq`: filters of the same form are equal without spans and
  literals.
* `toSql_of_sameForm`: their conditions have the same text, and values of the
  same kinds.
-/
import RowFilter.Proofs.Grammar.Typed
import RowFilter.Proofs.Relabel

namespace RowFilter

/-! ### Mapping derivations -/

/-- Schemas with the same columns, of which the second one reads the mapped
text as the mapped date. -/
structure Relabelling.Carries (m : Relabelling) (s s' : Schema) : Prop where
  table : s'.table = s.table
  fields : ∀ name, s'.fieldType? name = s.fieldType? name
  dates : ∀ input d, s.readDate input = .ok d →
    s'.readDate (m.text input) = .ok (m.date d)

variable {m : Relabelling} {s s' : Schema}

/-- Commas stay where they are. -/
lemma CommaSeparated.relabel {tss : List (List Token)} {ts : List Token}
    (h : CommaSeparated tss ts) :
    CommaSeparated (tss.map (List.map m.token)) (ts.map m.token) := by
  induction h with
  | single ts => exact .single _
  | @cons ts comma tss rest hcomma _ ih =>
      rw [List.map_append, List.map_cons]
      exact .cons (m.lexeme_eq_separator_iff.mpr hcomma) ih

/-- What an operator makes of its operands is mapped with them. -/
lemma Applies.relabel (hm : m.Carries s s') {op : Operator} {args : List Expr}
    {span : Span} {e : Expr} (h : Applies s.readDate op args span e) :
    Applies s'.readDate op (args.map (·.relabel m)) (m.span span) (e.relabel m) := by
  cases h with
  | compare hop hty => exact .compare hop (by simpa using hty)
  | isIn hty => exact .isIn (by simpa using hty)
  | and hlen hty =>
      rw [Expr.relabel, Expr.relabelAll_eq_map]
      exact .and (by simpa using hlen) (by simpa using hty)
  | or hlen hty =>
      rw [Expr.relabel, Expr.relabelAll_eq_map]
      exact .or (by simpa using hlen) (by simpa using hty)
  | not hty => exact .not (by simpa using hty)
  | like => exact .like
  | anyLike hty => exact .anyLike hty
  | date hd => exact .date (hm.dates _ _ hd)

/-- Items with the tokens that they are derived from, mapped. -/
abbrev Relabelling.items (m : Relabelling) (items : List (List Token × Expr)) :
    List (List Token × Expr) :=
  items.map fun i => (i.1.map m.token, i.2.relabel m)

lemma map_fst_relabel (items : List (List Token × Expr)) :
    (m.items items).map Prod.fst = (items.map Prod.fst).map (List.map m.token) := by
  simp

lemma map_snd_relabel (items : List (List Token × Expr)) :
    (m.items items).map Prod.snd = (items.map Prod.snd).map (·.relabel m) := by
  simp

lemma forall_mem_relabel {P : List Token × Expr → Prop}
    {items : List (List Token × Expr)} :
    (∀ i ∈ m.items items, P i) ↔
      ∀ i ∈ items, P (i.1.map m.token, i.2.relabel m) :=
  List.forall_mem_map

/-- What tokens derive is mapped with them. -/
theorem Derives.relabel (hm : m.Carries s s') {ts : List Token} {e : Expr}
    (h : Derives s ts e) : Derives s' (ts.map m.token) (e.relabel m) := by
  induction h with
  | number n span => exact .number _ _
  | string text span => exact .string _ _
  | @column name type span hty =>
      have found := (hm.fields name).trans hty
      rw [Expr.relabel, ← hm.table]
      exact .column _ found
  | @list opening closing items body type ho hc _ hbody hsame hty ih =>
      rw [List.map_cons, List.map_append, Expr.relabel, Expr.relabelAll_eq_map,
        ← map_snd_relabel]
      refine .list (m.lexeme_eq_separator_iff.mpr ho)
        (m.lexeme_eq_separator_iff.mpr hc) ?_ ?_ ?_ hty
      · exact forall_mem_relabel.mpr ih
      · rw [map_fst_relabel]
        exact hbody.relabel
      · exact forall_mem_relabel.mpr fun i hi => by simpa using hsame i hi
  | @call index op span opening closing items body e hop ho hc _ hbody happ ih =>
      rw [List.map_cons, List.map_cons, List.map_append]
      refine .call hop (m.lexeme_eq_separator_iff.mpr ho)
        (m.lexeme_eq_separator_iff.mpr hc) (forall_mem_relabel.mpr ih) ?_ ?_
      · rw [map_fst_relabel]
        exact hbody.relabel
      · rw [map_snd_relabel]
        exact happ.relabel hm

/-! ### Filters of the same form -/

/-- Lexemes that differ in the value of a literal at most. -/
def Lexeme.SameForm : Lexeme → Lexeme → Prop
  | .number _, .number _ => True
  | .string _, .string _ => True
  | l, l' => l = l'

instance : DecidableRel Lexeme.SameForm := fun l l' => by
  unfold Lexeme.SameForm
  split <;> infer_instance

/-- Tokens that differ in the value of a literal, and in their spans, at
most. -/
def Token.SameForm (t u : Token) : Prop := t.lexeme.SameForm u.lexeme

instance : DecidableRel Token.SameForm :=
  fun t u => inferInstanceAs (Decidable (t.lexeme.SameForm u.lexeme))

/-- The schema that reads every text as the same date. -/
def Schema.lenient (s : Schema) : Schema :=
  { s with readDate := fun _ => .ok Relabelling.epoch }

lemma Relabelling.blank_carries (s : Schema) : blank.Carries s s.lenient :=
  ⟨rfl, fun _ => rfl, fun _ _ _ => rfl⟩

lemma Lexeme.SameForm.blank {l l' : Lexeme} (h : l.SameForm l') :
    Relabelling.blank.lexeme l = Relabelling.blank.lexeme l' := by
  unfold SameForm at h
  split at h
  · rfl
  · rfl
  · rw [h]

/-- Tokens of the same form are equal without spans and literals. -/
lemma map_blank_eq {ts us : List Token} (h : List.Forall₂ Token.SameForm ts us) :
    ts.map Relabelling.blank.token = us.map Relabelling.blank.token := by
  induction h with
  | nil => rfl
  | cons same _ ih =>
      rw [List.map_cons, List.map_cons, ih, Relabelling.token, same.blank]
      rfl

/-- Filters of the same form are equal without spans and literals. -/
lemma relabel_blank_eq {ts us : List Token} {e f : Expr}
    (h : List.Forall₂ Token.SameForm ts us) (he : Derives s ts e)
    (hf : Derives s us f) : e.relabel .blank = f.relabel .blank := by
  have first := he.relabel (Relabelling.blank_carries s)
  have second := hf.relabel (Relabelling.blank_carries s)
  -- the blank tokens are the same, and derive one expression only
  rw [← map_blank_eq h, ← List.append_nil (ts.map _)] at second
  exact (derives_prefix_unique first second).2.symm

/-- **Literals do not influence the text of a condition.** Two filters whose
tokens differ in the values of numbers and texts at most have conditions with
the same text, and with values of the same kinds at the same places. -/
theorem Compiler.toSql_of_sameForm {c : Compiler} {text text' : String}
    {e f : Expr} (he : c.parse text = .ok e) (hf : c.parse text' = .ok f)
    (same : List.Forall₂ Token.SameForm (filterLexicon.tokenize text).tokens
      (filterLexicon.tokenize text').tokens) :
    e.toSql.text = f.toSql.text ∧
      e.toSql.params.map SqlValue.kind = f.toSql.params.map SqlValue.kind := by
  have blank : e.relabel .blank = f.relabel .blank :=
    relabel_blank_eq same (derives_of_parse he) (derives_of_parse hf)
  constructor
  · calc e.toSql.text
        = (e.relabel .blank).toSql.text := (e.toSql_text_relabel .blank).symm
      _ = (f.relabel .blank).toSql.text := by rw [blank]
      _ = f.toSql.text := f.toSql_text_relabel .blank
  · calc e.toSql.params.map SqlValue.kind
        = (e.relabel .blank).toSql.params.map SqlValue.kind :=
          (e.toSql_kinds_relabel .blank).symm
      _ = (f.relabel .blank).toSql.params.map SqlValue.kind := by rw [blank]
      _ = f.toSql.params.map SqlValue.kind := f.toSql_kinds_relabel .blank

/-! ### Two filters of the same form -/

/-- A compiler for a table with a text field and a date field. -/
def Compiler.people : Compiler where
  schema := {
    table := "people"
    fields := .ofList [("name", .string), ("born", .date)]
    readDate := DatePattern.reader "%Y-%m-%d"
    named := by decide
    declarable := fun f hf => by
      have listed := Fields.mem_entries_ofList hf
      revert f
      decide }

/-- The filter for people whose name matches a pattern and who were born after
a date. The pattern shifts what comes after it. -/
def Expr.bornAfter (pattern : String) (day : Date) (shift : Nat) : Expr :=
  .junction .and
    [.like ⟨"people", "name", .string⟩ pattern ⟨4, 8⟩,
      .compare .greater
        (.column ⟨"people", "born", .date⟩ ⟨shift + 23, shift + 27⟩)
        (.literal (.date day) ⟨shift + 28, shift + 32⟩) ⟨shift + 20, shift + 22⟩]
    ⟨0, 3⟩

lemma parse_bornAfter :
    Compiler.people.parse "AND(LIKE(name,\"A%\"),GT(born,DATE(\"1990-01-31\")))" =
      .ok (.bornAfter "A%" ⟨1990, 1, 31, by decide⟩ 0) := by
  decide +kernel

lemma parse_bornAfter_drop :
    Compiler.people.parse
        "AND(LIKE(name,\"$1); DROP x\"),GT(born,DATE(\"2020-02-29\")))" =
      .ok (.bornAfter "$1); DROP x" ⟨2020, 2, 29, by decide⟩ 9) := by
  decide +kernel

/-- A pattern that looks like SQL changes a value and nothing else. -/
theorem toSql_bornAfter :
    Compiler.people.parse "AND(LIKE(name,\"A%\"),GT(born,DATE(\"1990-01-31\")))" =
        .ok (.bornAfter "A%" ⟨1990, 1, 31, by decide⟩ 0) ∧
      Compiler.people.parse
          "AND(LIKE(name,\"$1); DROP x\"),GT(born,DATE(\"2020-02-29\")))" =
        .ok (.bornAfter "$1); DROP x" ⟨2020, 2, 29, by decide⟩ 9) ∧
      (Expr.bornAfter "A%" ⟨1990, 1, 31, by decide⟩ 0).toSql.text =
        (Expr.bornAfter "$1); DROP x" ⟨2020, 2, 29, by decide⟩ 9).toSql.text ∧
      (Expr.bornAfter "A%" ⟨1990, 1, 31, by decide⟩ 0).toSql.params.map
          SqlValue.kind =
        (Expr.bornAfter "$1); DROP x" ⟨2020, 2, 29, by decide⟩ 9).toSql.params.map
          SqlValue.kind :=
  ⟨parse_bornAfter, parse_bornAfter_drop,
    Compiler.toSql_of_sameForm parse_bornAfter parse_bornAfter_drop
      (by decide +kernel)⟩

end RowFilter
