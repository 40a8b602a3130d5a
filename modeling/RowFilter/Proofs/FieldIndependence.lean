/-
Fields that a filter does not name do not matter to it.

* `Schema.Alike`: schemas that differ in their fields at most.
* `Schema.AgreeAt`, `Schema.Extends`: schemas that agree at a name, and a schema with
  all the fields of another one.
* `step_congr`: names are looked up where an expression has to come, and for symbols
  only.
* `run_congr`: a stream has the same effect under schemas that agree at its symbols.
* `step_eq_or_unknown`, `run_eq_or_unknown`: with more fields, a token and a stream
  have the same effect, unless a symbol was unknown.
* `parse_withSchema`: a text has the same result under schemas that agree at its
  symbols, and with more fields, unless a symbol was unknown.
-/
import RowFilter.Proofs.Limits
import RowFilter.Proofs.LiteralIndependence

namespace RowFilter

/-! ### Schemas that differ in their fields -/

namespace Schema

/-- Schemas of one table that read dates in the same way. -/
structure Alike (s s' : Schema) : Prop where
  table : s'.table = s.table
  readDate : s'.readDate = s.readDate

/-- A name has the same type in both schemas, or is a field of neither. -/
def AgreeAt (s s' : Schema) (name : String) : Prop :=
  s'.fieldType? name = s.fieldType? name

/-- Every field of the one schema is a field of the other, of the same type. -/
def Extends (s' s : Schema) : Prop :=
  ∀ name type, s.fieldType? name = some type → s'.fieldType? name = some type

variable {s s' : Schema} {name : String}

/-- With more fields, schemas agree at a name that was known before. -/
lemma Extends.agreeAt (h : s'.Extends s) (known : s.fieldType? name ≠ none) :
    s.AgreeAt s' name := by
  obtain ⟨type, found⟩ := Option.ne_none_iff_exists'.mp known
  exact (h name type found).trans found.symm

/-- A schema with one more field. -/
def withField (s : Schema) (name : String) (type : ValueType)
    (h : type.isDeclarable = true) : Schema :=
  { s with
    fields := s.fields.insert name type
    declarable := fun f hf => (mem_insertField hf).elim (fun new => new ▸ h) (s.declarable f) }

/-- A field with a new name is one more field. -/
lemma extends_withField {type : ValueType} (h : type.isDeclarable = true)
    (new : s.fieldType? name = none) : (s.withField name type h).Extends s := by
  intro other otherType known
  have different : other ≠ name := by
    rintro rfl
    cases new.symm.trans known
  rw [fieldType?, withField, Fields.find?_insert, if_neg different]
  exact known

end Schema

/-! ### Reading under two schemas -/

namespace Reading

/-- The rejection of a symbol that is no field. -/
def unknownAt (t : Token) (name : String) : Rejection :=
  .locate (.unknownSymbol name) t.span.start

variable {rd rd' : Reading} {u : Unfinished} {t : Token}

/-- A token has the same effect under two schemas, if they agree at the symbol that it
may be where an expression has to come. -/
lemma step_congr (alike : rd.schema.Alike rd'.schema) (depth : rd'.maxDepth = rd.maxDepth)
    (agree : ∀ stack name, u = .operand stack → t.lexeme = .symbol name →
      rd.schema.AgreeAt rd'.schema name) : rd'.step u t = rd.step u t := by
  have enter : ∀ call opened stack,
      rd'.enter call opened stack = rd.enter call opened stack := by
    intro call opened stack
    rw [Reading.enter, Reading.enter, depth]
  cases u with
  | operand stack =>
      rw [step, step, operandStep, operandStep]
      cases ht : t.lexeme with
      | symbol name =>
          have same : rd'.schema.fieldType? name = rd.schema.fieldType? name :=
            agree stack name rfl ht
          simp only [same, alike.table]
      | separator c => simp only [enter]
      | _ => rfl
  | parenthesis op span stack => simp only [step, enter]
  | item inner stack => simp only [step, alike.readDate]
  | complete root => rfl

/-- A stream has the same effect under two schemas that agree at its symbols. -/
theorem run_congr (alike : rd.schema.Alike rd'.schema) (depth : rd'.maxDepth = rd.maxDepth)
    {s : TokenStream}
    (agree : ∀ t ∈ s.tokens, ∀ name, t.lexeme = .symbol name →
      rd.schema.AgreeAt rd'.schema name) : rd'.run u s = rd.run u s := by
  induction s generalizing u with
  | done => rfl
  | fault f => rfl
  | token t rest ih =>
      obtain ⟨first, later⟩ := List.forall_mem_cons.mp agree
      have same : rd'.step u t = rd.step u t :=
        step_congr alike depth fun _ name _ => first name
      rw [run, run, same]
      cases rd.step u t with
      | error r => rfl
      | ok v => exact ih later

/-- With more fields, a token has the same effect, unless it is an unknown symbol. -/
lemma step_eq_or_unknown (alike : rd.schema.Alike rd'.schema)
    (depth : rd'.maxDepth = rd.maxDepth) (more : rd'.schema.Extends rd.schema)
    (u : Unfinished) (t : Token) :
    rd'.step u t = rd.step u t ∨ ∃ name, rd.step u t = .error (unknownAt t name) := by
  by_cases unknown : ∃ stack name, u = .operand stack ∧ t.lexeme = .symbol name ∧
      rd.schema.fieldType? name = none
  · obtain ⟨stack, name, rfl, symbol, missing⟩ := unknown
    exact .inr ⟨name, by simp only [step, operandStep, symbol, missing, unknownAt]⟩
  · refine .inl (step_congr alike depth fun stack name operand symbol => ?_)
    exact more.agreeAt fun missing => unknown ⟨stack, name, operand, symbol, missing⟩

/-- With more fields, a stream has the same effect, unless a symbol of it was
unknown. -/
theorem run_eq_or_unknown (alike : rd.schema.Alike rd'.schema)
    (depth : rd'.maxDepth = rd.maxDepth) (more : rd'.schema.Extends rd.schema)
    (u : Unfinished) (s : TokenStream) :
    rd'.run u s = rd.run u s ∨
      ∃ t ∈ s.tokens, ∃ name, rd.run u s = .error (unknownAt t name) := by
  induction s generalizing u with
  | done => exact .inl rfl
  | fault f => exact .inl rfl
  | token t rest ih =>
      rw [run, run]
      rcases step_eq_or_unknown alike depth more u t with same | ⟨name, unknown⟩
      · rw [same]
        cases rd.step u t with
        | error r => exact .inl rfl
        | ok v =>
            refine (ih v).imp_right ?_
            rintro ⟨t', ht', unknown⟩
            exact ⟨t', List.mem_cons_of_mem t ht', unknown⟩
      · exact .inr ⟨t, List.mem_cons_self, name, by rw [unknown]⟩

end Reading

/-! ### Parsing under two schemas -/

namespace Compiler

/-- A text is rejected because a symbol of it is no field. -/
def IsUnknown (result : Except Rejection Expr) : Prop :=
  ∃ name position, result = .error ⟨.unknownSymbol name, position⟩

/-- The same limits with another schema. -/
abbrev withSchema (c : Compiler) (s : Schema) : Compiler := { c with schema := s }

variable {c : Compiler} {s : Schema} {text : String}

/-- With more fields, a text has the same result without a limit on its length, unless
a symbol of it was unknown. -/
lemma parseAnyLength_eq_or_unknown (alike : c.schema.Alike s) (more : s.Extends c.schema) :
    (c.withSchema s).parseAnyLength text = c.parseAnyLength text ∨
      IsUnknown (c.parseAnyLength text) := by
  have read := @Reading.run_eq_or_unknown c.reading (c.withSchema s).reading alike rfl more
    (.operand []) (filterLexicon.tokenize text)
  rcases read with same | ⟨t, -, name, unknown⟩
  · left
    rw [parseAnyLength, parseAnyLength, same]
  · exact .inr ⟨name, some t.span.start, parseAnyLength_of_run_error unknown⟩

/-- **Fields that a text does not name do not matter to it**, whatever the limits are.
Under schemas that differ in their fields at most, a text has the same result if they
agree at all its symbols. If the second schema only adds fields, a text has the same
result unless one of its symbols was unknown. -/
theorem parse_withSchema (alike : c.schema.Alike s) (text : String) :
    ((∀ t ∈ (filterLexicon.tokenize text).tokens, ∀ name, t.lexeme = .symbol name →
        c.schema.AgreeAt s name) →
      (c.withSchema s).parse text = c.parse text) ∧
    (s.Extends c.schema → ¬IsUnknown (c.parse text) →
      (c.withSchema s).parse text = c.parse text) := by
  constructor
  · intro agree
    have same := @Reading.run_congr c.reading (c.withSchema s).reading (.operand []) alike rfl
      _ agree
    refine parse_eq_of_parseAnyLength (P := fun _ => False) rfl (.inl ?_) not_false
    rw [parseAnyLength, parseAnyLength, same]
  · intro more known
    exact parse_eq_of_parseAnyLength rfl (parseAnyLength_eq_or_unknown alike more) known

end Compiler

/-! ### A field with the name of a keyword -/

/-- The schema for people with one more field, which has the name of a keyword. -/
def Schema.conjoined : Schema := Compiler.people.schema.withField "AND" .string rfl

/-- A filter goes on to mean the same when a field gets the name of its operator. -/
theorem parse_withSchema_conjoined :
    Compiler.people.schema.Alike .conjoined ∧
      Schema.conjoined.Extends Compiler.people.schema ∧
      Compiler.people.parse "AND(LIKE(name,\"A%\"),GT(born,DATE(\"1990-01-31\")))" =
        .ok (.bornAfter "A%" ⟨1990, 1, 31, by decide⟩ 0) ∧
      (Compiler.people.withSchema .conjoined).parse
          "AND(LIKE(name,\"A%\"),GT(born,DATE(\"1990-01-31\")))" =
        .ok (.bornAfter "A%" ⟨1990, 1, 31, by decide⟩ 0) ∧
      (Compiler.people.withSchema .conjoined).parse "GT(born,DATE(\"1990\"))" =
        Compiler.people.parse "GT(born,DATE(\"1990\"))" := by
  have alike : Compiler.people.schema.Alike .conjoined := ⟨rfl, rfl⟩
  have more : Schema.conjoined.Extends Compiler.people.schema :=
    Schema.extends_withField rfl (by decide)
  have known : ¬Compiler.IsUnknown (Compiler.people.parse
      "AND(LIKE(name,\"A%\"),GT(born,DATE(\"1990-01-31\")))") := by
    rintro ⟨name, position, unknown⟩
    cases parse_bornAfter.symm.trans unknown
  have agree : ∀ t ∈ (filterLexicon.tokenize "GT(born,DATE(\"1990\"))").tokens, ∀ name,
      t.lexeme = .symbol name → Compiler.people.schema.AgreeAt .conjoined name := by
    have lexemes : (filterLexicon.tokenize "GT(born,DATE(\"1990\"))").tokens.map
        Token.lexeme = [.operator 2, .separator '(', .symbol "born", .separator ',',
          .operator 11, .separator '(', .string "1990", .separator ')', .separator ')'] := by
      decide +kernel
    intro t ht name symbol
    have among := List.mem_map_of_mem (f := Token.lexeme) ht
    rw [lexemes, symbol] at among
    obtain rfl : name = "born" := by simpa using among
    exact more.agreeAt (by decide)
  refine ⟨alike, more, parse_bornAfter, ?_, ?_⟩
  · exact ((Compiler.parse_withSchema alike _).2 more known).trans parse_bornAfter
  · exact (Compiler.parse_withSchema alike _).1 agree

end RowFilter
