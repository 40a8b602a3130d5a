/-
What more text behind a blank changes.

* `Cause.IsFinal`: the causes that no further text takes back.
* `run_error_of_continues`, `run_of_continues`: a stream that goes on where
  another one ends is rejected as that one, or is read on from where that one was
  read to.
* `IsWhole`, `exists_complete`: results of texts that are read as a whole
  expression.
* `parseAnyLength_append_of_isFinal`, `parseAnyLength_append_of_isWhole`: parsing a
  text and what is written behind it.
* `lexemes_eq_of_prefix`: the lexemes of an accepted text are no proper beginning
  of those of another one.
* `parse_append`: a rejection is final, and what is accepted is complete.
-/
import RowFilter.Proofs.Lexing.Continued
import RowFilter.Proofs.Rejections

namespace RowFilter

/-- Causes that more text does not take back. What is missing at the end may still
come, a quote may still be closed, and what stands behind a whole expression is
looked at before the type of that expression. -/
def Cause.IsFinal : Cause → Prop
  | .unexpectedEnd | .lexical (.unclosed _) | .expectedPredicate _ => False
  | _ => True

/-! ### Streams that go on -/

namespace Reading

variable {rd : Reading} {u v : Unfinished} {next s s' : TokenStream} {r : Rejection}

/-- A stream that goes on is rejected where it was rejected before. -/
lemma run_error_of_continues (h : next.Continues s s') (hr : rd.run u s = .error r)
    (final : r.cause.IsFinal) : rd.run u s' = .error r := by
  induction h generalizing u with
  | done => cases hr
  | numeral => exact hr
  | unclosed =>
      cases hr
      exact final.elim
  | token t _ ih =>
      rw [run] at hr ⊢
      cases hstep : rd.step u t with
      | error e => rwa [hstep] at hr
      | ok u' =>
          rw [hstep] at hr
          exact ih hr

/-- A stream that goes on is read on from where it was read to before. -/
lemma run_of_continues (h : next.Continues s s') (hv : rd.run u s = .ok v) :
    rd.run u s' = rd.run v next := by
  induction h generalizing u with
  | done =>
      cases hv
      rfl
  | numeral => cases hv
  | unclosed => cases hv
  | token t _ ih =>
      rw [run] at hv ⊢
      cases hstep : rd.step u t with
      | error e =>
          rw [hstep] at hv
          cases hv
      | ok u' =>
          rw [hstep] at hv
          exact ih hv

/-- Reading fails at a token or with a lexical fault, and never because of the type
of a whole expression. -/
lemma cause_ne_expectedPredicate (h : rd.run (.operand []) s = .error r)
    (type : ValueType) : r.cause ≠ .expectedPredicate type := by
  intro hcause
  rcases pointsAt_run h with ⟨t, -, -, about⟩ | ⟨f, -, rfl⟩
  · rw [hcause] at about
    exact about
  · cases hcause

end Reading

/-! ### Texts that go on -/

/-- Behind a blank, the stream of a text goes on with the stream of the rest. -/
lemma tokenize_continues (text more : String) :
    ((filterLexicon.tokenize more).shift (text.length + 1)).Continues
      (filterLexicon.tokenize text) (filterLexicon.tokenize (text ++ " " ++ more)) := by
  have blank : isBlank ' ' = true := by decide
  have whole : (text ++ " " ++ more).toList = text.toList ++ ' ' :: more.toList := by
    simp
  have goes := filterVocabulary.continues_read blank more.toList 0 text.toList
  rw [Nat.add_assoc, Vocabulary.read_shift, String.length_toList] at goes
  rwa [filterLexicon_tokenize, filterLexicon_tokenize, filterLexicon_tokenize, whole]

namespace Compiler

variable {c : Compiler} {text : String} {r : Rejection}

/-- A text that is read as a whole expression, be it a condition or not. -/
def IsWhole (result : Except Rejection Expr) : Prop :=
  (∃ e, result = .ok e) ∨
    ∃ type position, result = .error ⟨.expectedPredicate type, position⟩

/-- What is concluded may change when more text follows. -/
lemma not_isFinal_of_conclude {length : Nat} {u : Unfinished}
    (h : conclude length u = .error r) : ¬r.cause.IsFinal := by
  cases u with
  | complete root =>
      rw [conclude] at h
      split at h
      · cases h
      · cases h
        exact id
  | _ =>
      cases h
      exact id

/-- What is final was found while reading. -/
lemma run_of_isFinal (h : c.parseAnyLength text = .error r) (final : r.cause.IsFinal) :
    c.reading.run (.operand []) (filterLexicon.tokenize text) = .error r := by
  cases hrun : c.reading.run (.operand []) (filterLexicon.tokenize text) with
  | error r' =>
      rw [parseAnyLength_of_run_error hrun] at h
      cases h
      rfl
  | ok u =>
      rw [parseAnyLength_of_run hrun] at h
      exact absurd final (not_isFinal_of_conclude h)

/-- A text with a whole expression is read to its end. -/
lemma exists_complete (h : IsWhole (c.parseAnyLength text)) :
    ∃ root, c.reading.run (.operand []) (filterLexicon.tokenize text) =
      .ok (.complete root) := by
  cases hrun : c.reading.run (.operand []) (filterLexicon.tokenize text) with
  | error r =>
      rw [parseAnyLength_of_run_error hrun] at h
      obtain ⟨e, he⟩ | ⟨type, position, he⟩ := h
      · cases he
      · cases he
        exact absurd rfl (Reading.cause_ne_expectedPredicate hrun type)
  | ok u =>
      rw [parseAnyLength_of_run hrun] at h
      cases u with
      | complete root => exact ⟨root, rfl⟩
      | _ =>
          obtain ⟨e, he⟩ | ⟨type, position, he⟩ := h
          · cases he
          · cases he

/-- A rejection for a final cause stays when more text follows. -/
lemma parseAnyLength_append_of_isFinal (h : c.parseAnyLength text = .error r)
    (final : r.cause.IsFinal) (more : String) :
    c.parseAnyLength (text ++ " " ++ more) = .error r :=
  parseAnyLength_of_run_error
    (Reading.run_error_of_continues (tokenize_continues text more)
      (run_of_isFinal h final) final)

/-- Behind a whole expression nothing may come: what comes first is rejected. -/
lemma parseAnyLength_append_of_isWhole (h : IsWhole (c.parseAnyLength text))
    (more : String) :
    c.parseAnyLength (text ++ " " ++ more) =
      match filterLexicon.tokenize more with
      | .done => c.parseAnyLength text
      | .fault f => .error (.ofLexFault (f.shift (text.length + 1)))
      | .token t _ =>
        .error (.locate (.unexpectedToken t.lexeme) (t.span.start + (text.length + 1))) := by
  obtain ⟨root, hrun⟩ := exists_complete h
  have goes := tokenize_continues text more
  rw [parseAnyLength, Reading.run_of_continues goes hrun]
  cases filterLexicon.tokenize more with
  | done =>
      rw [parseAnyLength_of_run hrun]
      rfl
  | fault f => rfl
  | token t rest => rfl

/-! ### Accepted texts -/

/-- The lexemes of a text, up to its end or its fault. -/
def lexemes (text : String) : List Lexeme :=
  (filterLexicon.tokenize text).tokens.map Token.lexeme

/-- Tokens without their spans are known by their lexemes. -/
lemma map_spanless_token (ts : List Token) :
    ts.map Relabelling.spanless.token =
      (ts.map Token.lexeme).map fun l => ⟨Relabelling.spanless.lexeme l, ⟨0, 0⟩⟩ := by
  rw [List.map_map]
  rfl

/-- The lexemes of an accepted text are no proper beginning of those of another
one. -/
lemma lexemes_eq_of_prefix {longer : String} {e f : Expr} (he : c.parse text = .ok e)
    (hf : c.parse longer = .ok f)
    (h : lexemes text <+: lexemes longer) : lexemes text = lexemes longer := by
  have carries : Relabelling.spanless.Carries c.schema c.schema :=
    ⟨rfl, fun _ => rfl, fun _ _ known => known⟩
  have first := (derives_of_parse he).relabel carries
  have second := (derives_of_parse hf).relabel carries
  obtain ⟨rest, whole⟩ := h
  rw [map_spanless_token] at first second
  rw [← lexemes, ← whole, List.map_append] at second
  have none := List.map_eq_nil_iff.mp (derives_prefix_unique first second).1
  rw [← whole, none, List.append_nil]

/-- **A rejection is final, and what is accepted is complete.** Without a limit on
the length, a text that is rejected for a final cause is rejected in the same way
whatever follows it behind a blank. Behind a whole expression, blanks change
nothing, and anything else is rejected with its lexical fault or at its first token.
So no accepted text is a proper beginning of another one, lexeme by lexeme. -/
theorem parse_append (unlimited : c.maxLength = none) (text more : String) :
    (∀ r, c.parse text = .error r → r.cause.IsFinal →
      c.parse (text ++ " " ++ more) = .error r) ∧
    (IsWhole (c.parse text) →
      c.parse (text ++ " " ++ more) =
        match filterLexicon.tokenize more with
        | .done => c.parse text
        | .fault f => .error (.ofLexFault (f.shift (text.length + 1)))
        | .token t _ =>
          .error (.locate (.unexpectedToken t.lexeme)
            (t.span.start + (text.length + 1)))) ∧
    (filterLexicon.tokenize more = .done ↔ ∀ b ∈ more.toList, isBlank b = true) ∧
    ∀ longer e f, c.parse text = .ok e → c.parse longer = .ok f →
      lexemes text <+: lexemes longer → lexemes text = lexemes longer := by
  have any : ∀ text, c.parse text = c.parseAnyLength text := fun text =>
    parse_eq_parseAnyLength (by simp [unlimited])
  refine ⟨?_, ?_, ?_, fun longer e f he hf => lexemes_eq_of_prefix he hf⟩
  · intro r h final
    rw [any] at h ⊢
    exact parseAnyLength_append_of_isFinal h final more
  · intro whole
    rw [any] at whole
    rw [any, any]
    exact parseAnyLength_append_of_isWhole whole more
  · rw [filterLexicon_tokenize]
    exact Vocabulary.read_eq_done_iff

/-- A parenthesis too many is rejected before the numeral behind it is looked at. -/
theorem parse_overclosed :
    people.maxLength = none ∧ IsWhole (people.parse "LIKE(name,\"A%\")") ∧
      people.parse ("LIKE(name,\"A%\")" ++ " " ++ "  ) 0") =
        .error ⟨.unexpectedToken (.separator ')'), some 18⟩ := by
  have whole : IsWhole (people.parse "LIKE(name,\"A%\")") :=
    .inl ⟨.like ⟨"people", "name", .string⟩ "A%" ⟨0, 4⟩, by decide +kernel⟩
  have rejected := (parse_append (c := people) rfl "LIKE(name,\"A%\")" "  ) 0").2.1 whole
  exact ⟨rfl, whole, rejected.trans (by decide +kernel)⟩

end Compiler

end RowFilter
