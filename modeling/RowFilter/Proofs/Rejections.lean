/-
Every rejection points at the token that it is about.

* `FailsOnly`: computations that fail with certain faults only.
* `Cause.ArisesAt`, `failsOnly_ofCall`: what is wrong with an operator's
  operands is reported at that operator.
* `Cause.IsAbout`: the token that a cause is about, and `Rejection.PointsAt`:
  a rejection at such a token.
* `pointsAt_step`, `pointsAt_steps`, `pointsAt_run`: a token that does not fit is
  rejected at itself, or at a token before it that opened what it closes; and what
  else ends a stream is its fault.
* `Rejection.Explains`: how the position of a rejection belongs to a text, by
  its cause.
* `parse_rejection`: every rejection explains its text so, and a text with a
  lexical fault is rejected.
-/
import RowFilter.Proofs.Grammar.Typed
import RowFilter.Proofs.Limits
import RowFilter.Proofs.LiteralIndependence

namespace RowFilter

/-! ### Computations that may fail -/

section Computations

variable {ε ε' α β : Type} {P : ε → Prop}

/-- A computation fails with certain faults only. -/
def FailsOnly (P : ε → Prop) (x : Except ε α) : Prop := ∀ e, x = .error e → P e

lemma failsOnly_ok (a : α) : FailsOnly P (.ok a : Except ε α) := fun _ h => nomatch h

lemma failsOnly_error {e : ε} (h : P e) : FailsOnly P (.error e : Except ε α) := by
  rintro _ ⟨⟩
  exact h

/-- A computation in two steps fails as one of them does. -/
lemma FailsOnly.bind {x : Except ε α} {f : α → Except ε β} (hx : FailsOnly P x)
    (hf : ∀ a, FailsOnly P (f a)) : FailsOnly P (x >>= f) := by
  cases x with
  | error e => exact failsOnly_error (hx e rfl)
  | ok a => exact hf a

/-- A check that throws fails with what it throws. -/
lemma FailsOnly.check {p : Prop} [Decidable p] {err : ε} {k : PUnit → Except ε β}
    {x : Except ε β} (herr : P err) (hx : FailsOnly P x) :
    FailsOnly P (if p then (throw err >>= k) else x) := by
  split
  · exact failsOnly_error herr
  · exact hx

end Computations

/-! ### Operands -/

/-- The causes that are reported at an operator. -/
def Cause.ArisesAt (op : Operator) : Cause → Prop
  | .arity named _ _ => named = op
  | .typeMismatch site _ => site = .operator op
  | .invalidDate _ _ => op = .date
  | _ => False

namespace Expr

variable (op : Operator) (args : List Expr) (span : Span) (e : Expr)

lemma failsOnly_twoOperands : FailsOnly (Cause.ArisesAt op) (twoOperands op args) := by
  match args with
  | [_, _] => exact failsOnly_ok _
  | [] | [_] | _ :: _ :: _ :: _ => exact failsOnly_error rfl

lemma failsOnly_onlyOperand : FailsOnly (Cause.ArisesAt op) (onlyOperand op args) := by
  match args with
  | [_] => exact failsOnly_ok _
  | [] | _ :: _ :: _ => exact failsOnly_error rfl

lemma failsOnly_asField : FailsOnly (Cause.ArisesAt op) (asField op e) := by
  cases e with
  | column => exact failsOnly_ok _
  | _ => exact failsOnly_error rfl

lemma failsOnly_asText : FailsOnly (Cause.ArisesAt op) (asText op e) := by
  rw [asText.eq_def]
  split
  · exact failsOnly_ok _
  · exact failsOnly_error rfl

lemma failsOnly_requirePredicates :
    FailsOnly (Cause.ArisesAt op) (requirePredicates op args) := by
  rw [requirePredicates]
  split
  · exact failsOnly_error rfl
  · exact failsOnly_ok _

/-- What is wrong with the operands of an operator is reported at it. -/
lemma failsOnly_ofCall (readDate : DateReader) :
    FailsOnly (Cause.ArisesAt op) (ofCall readDate op args span) := by
  have two := failsOnly_twoOperands op args
  have only := failsOnly_onlyOperand op args
  cases op with
  | equal | greater | less | greaterOrEqual | lessOrEqual =>
      exact two.bind fun _ => .check rfl (failsOnly_ok _)
  | isIn => exact two.bind fun _ => .check rfl (failsOnly_ok _)
  | and | or =>
      exact .check rfl ((failsOnly_requirePredicates _ args).bind fun _ => failsOnly_ok _)
  | not =>
      exact only.bind fun arg =>
        (failsOnly_requirePredicates _ [arg]).bind fun _ => failsOnly_ok _
  | like =>
      exact two.bind fun p => (failsOnly_asField _ p.1).bind fun _ =>
        (failsOnly_asText _ p.2).bind fun _ => failsOnly_ok _
  | anyLike =>
      exact two.bind fun p => (failsOnly_asField _ p.1).bind fun _ =>
        .check rfl ((failsOnly_asText _ p.2).bind fun _ => failsOnly_ok _)
  | date =>
      refine only.bind fun arg => (failsOnly_asText _ arg).bind fun input => ?_
      cases readDate input with
      | ok d => exact failsOnly_ok _
      | error reason => exact failsOnly_error rfl

/-- Items that make no list are reported as a fault of the list. -/
lemma failsOnly_ofList (h : args ≠ []) :
    FailsOnly (fun cause => ∃ fault, cause = .typeMismatch .list fault)
      (ofList args span) := by
  cases args with
  | nil => exact absurd rfl h
  | cons first rest =>
      rw [ofList]
      split
      · exact failsOnly_error ⟨_, rfl⟩
      · split
        · exact failsOnly_error ⟨_, rfl⟩
        · exact failsOnly_ok _

end Expr

/-! ### Tokens -/

/-- A lexeme is the keyword of an operator. -/
def Lexeme.Names (l : Lexeme) (op : Operator) : Prop :=
  ∃ index, l = .operator index ∧ Operator.ofIndex? index = some op

/-- Whether a cause is about a token of its own, with a certain lexeme. -/
def Cause.IsAbout : Cause → Lexeme → Prop
  | .tooDeep _, l => l = .separator '('
  | .typeMismatch .list _, l => l = .separator '('
  | .typeMismatch (.operator op) _, l => l.Names op
  | .arity op _ _, l => l.Names op
  | .invalidDate _ _, l => l.Names .date
  | .emptyList, l => l = .separator ')'
  | .unknownSymbol name, l => l = .symbol name
  | .unexpectedToken found, l => l = found
  | .unexpectedEnd, _ | .lexical _, _ | .expectedPredicate _, _ | .tooLong _ _, _ => False

/-- What arises at an operator is about its keyword. -/
lemma Cause.ArisesAt.isAbout {op : Operator} {cause : Cause} (h : cause.ArisesAt op)
    {l : Lexeme} (hl : l.Names op) : cause.IsAbout l := by
  cases cause with
  | arity => rwa [← (h : _ = op)] at hl
  | typeMismatch site fault =>
      obtain rfl : site = .operator op := h
      exact hl
  | invalidDate => rwa [(h : op = .date)] at hl
  | _ => exact h.elim

/-- A rejection stands at a token that its cause is about. -/
def Rejection.PointsAt (r : Rejection) (ts : List Token) : Prop :=
  ∃ t ∈ ts, r.position = some t.span.start ∧ r.cause.IsAbout t.lexeme

lemma Rejection.PointsAt.mono {r : Rejection} {ts us : List Token} (h : r.PointsAt ts)
    (sub : ts ⊆ us) : r.PointsAt us := by
  obtain ⟨t, ht, about⟩ := h
  exact ⟨t, sub ht, about⟩

/-- A cause at a token that it is about. -/
lemma Rejection.pointsAt_locate {cause : Cause} {t : Token} {ts : List Token} (ht : t ∈ ts)
    (about : cause.IsAbout t.lexeme) : (Rejection.locate cause t.span.start).PointsAt ts :=
  ⟨t, ht, rfl, about⟩

/-! ### Reading -/

namespace Reading

variable {rd : Reading} {u : Unfinished} {t : Token} {ts us : List Token} {r : Rejection}

open Rejection (pointsAt_locate)

/-- A list that cannot be closed is rejected at its operator, or at its
parenthesis. -/
lemma pointsAt_close {s : Schema} {l : OpenList} (h : l.Holds s ts)
    (hclose : l.close s.readDate = .error r) : r.PointsAt ts := by
  obtain ⟨opening, items, body, hopen, -, hmap, hbody, rfl⟩ := h
  obtain ⟨call, opened, rev⟩ := l
  simp only [OpenList.close] at hclose
  cases hopen with
  | @list paren ho =>
      have nonempty : rev.reverse ≠ [] := by
        rw [← hmap]
        intro none
        rw [List.map_eq_nil_iff.mp none] at hbody
        cases hbody
      obtain ⟨cause, hcause, rfl⟩ := except_mapError_eq_error_iff.mp hclose
      obtain ⟨fault, rfl⟩ := Expr.failsOnly_ofList _ _ nonempty _ hcause
      exact pointsAt_locate (by simp) ho
  | @call index op span paren hop ho =>
      obtain ⟨cause, hcause, rfl⟩ := except_mapError_eq_error_iff.mp hclose
      have arises := Expr.failsOnly_ofCall _ _ _ _ _ hcause
      exact @pointsAt_locate cause ⟨.operator index, span⟩ _ (by simp)
        (arises.isAbout ⟨index, rfl, hop⟩)

/-- A token that opens a list is rejected at itself. -/
lemma pointsAt_enter {call : Option (Operator × Span)} {stack : List OpenList}
    (ht : t.lexeme = .separator '(') (h : rd.enter call t.span stack = .error r) :
    r.PointsAt [t] := by
  rw [enter] at h
  split at h
  · cases h
    exact pointsAt_locate (by simp) ht
  · cases h

/-- A token that does not fit is rejected at itself. -/
lemma pointsAt_unexpected (h : unexpected t = .error r) : r.PointsAt [t] := by
  cases h
  exact pointsAt_locate (by simp) rfl

/-- Where an expression has to come, a token is rejected at itself. -/
lemma pointsAt_operandStep {stack : List OpenList} (h : rd.operandStep stack t = .error r) :
    r.PointsAt [t] := by
  rw [operandStep] at h
  split at h
  · cases h
  · cases h
  · next name hl =>
    split at h
    · cases h
    · cases h
      exact pointsAt_locate (by simp) hl
  · split at h
    · cases h
    · exact pointsAt_unexpected h
  · next c hl =>
    split at h
    · next hc => exact pointsAt_enter (by rw [hl, hc]) h
    · split at h
      · next hc =>
        cases h
        exact pointsAt_locate (by simp) (hl.trans (congrArg _ hc.1))
      · exact pointsAt_unexpected h

/-- A token is rejected at itself, or where the list was opened that it
closes. -/
lemma pointsAt_step (hu : u.Reads rd.schema ts) (h : rd.step u t = .error r) :
    r.PointsAt (ts ++ [t]) := by
  have itself : r.PointsAt [t] → r.PointsAt (ts ++ [t]) := fun hr =>
    hr.mono (List.subset_append_right ..)
  cases u with
  | operand stack => exact itself (pointsAt_operandStep h)
  | parenthesis op span stack =>
      simp only [step] at h
      split at h
      · next ht => exact itself (pointsAt_enter ht h)
      · exact itself (pointsAt_unexpected h)
  | item inner stack =>
      obtain ⟨us, vs, -, hinner, rfl⟩ := hu
      simp only [step] at h
      split at h
      · have opened := pointsAt_close hinner (except_map_eq_error_iff.mp h)
        exact opened.mono fun x hx => by simp [hx]
      · split at h
        · cases h
        · exact itself (pointsAt_unexpected h)
  | complete root => exact itself (pointsAt_unexpected h)

/-- Tokens are rejected at one of them, or of those before them. -/
theorem pointsAt_steps (hu : u.Reads rd.schema ts) (h : rd.steps u us = .error r) :
    r.PointsAt (ts ++ us) := by
  induction us generalizing u ts with
  | nil => cases h
  | cons t us ih =>
      rw [steps] at h
      split at h
      · next hstep =>
        cases h
        exact (pointsAt_step hu hstep).mono fun x hx => by
          simp only [List.mem_append, List.mem_singleton] at hx
          simp only [List.mem_append, List.mem_cons]
          tauto
      · next u' hstep =>
        have later := ih (reads_step hu hstep) h
        rwa [List.append_assoc, List.singleton_append] at later

/-- A stream is rejected at one of its tokens, or with its fault. -/
theorem pointsAt_run {s : TokenStream} (h : rd.run (.operand []) s = .error r) :
    r.PointsAt s.tokens ∨ ∃ f, s.fault? = some f ∧ r = .ofLexFault f := by
  have start : (Unfinished.operand []).Reads rd.schema [] := .nil
  rw [run_eq] at h
  cases hsteps : rd.steps (.operand []) s.tokens with
  | error r' =>
      rw [hsteps] at h
      cases h
      exact .inl (pointsAt_steps start hsteps)
  | ok u =>
      rw [hsteps] at h
      cases hfault : s.fault? with
      | none =>
          rw [hfault] at h
          cases h
      | some f =>
          rw [hfault] at h
          cases h
          exact .inr ⟨f, rfl, rfl⟩

end Reading

/-! ### Whole texts -/

/-- The application of an operator has the span of the operator. -/
lemma Applies.span_eq {readDate : DateReader} {op : Operator} {args : List Expr}
    {span : Span} {e : Expr} (h : Applies readDate op args span e) : e.span = span := by
  cases h <;> rfl

/-- An expression has the span of the first token that it is derived from. -/
lemma Derives.head?_span {s : Schema} {ts : List Token} {e : Expr} (h : Derives s ts e) :
    ∃ t, ts.head? = some t ∧ t.span = e.span := by
  cases h with
  | number | string | column => exact ⟨_, rfl, rfl⟩
  | list => exact ⟨_, rfl, rfl⟩
  | call _ _ _ _ _ happ => exact ⟨_, rfl, happ.span_eq.symm⟩

/-- How the position of a rejection belongs to a text, by its cause: only a text
that is too long has no position; a text that ends too early ends there, and has no
lexical fault; a lexical fault is the one of the text; a whole expression that is no
condition begins with the first token; and all other causes are about a token of the
text. -/
def Rejection.Explains (r : Rejection) (text : String) : Prop :=
  let stream := filterLexicon.tokenize text
  match r.cause with
  | .tooLong _ _ => r.position = none
  | .unexpectedEnd => r.position = some text.length ∧ ∃ ts, stream.toExcept = .ok ts
  | .lexical f => r.position = some f.position ∧ stream.toExcept = .error f
  | .expectedPredicate _ =>
    ∃ t, stream.tokens.head? = some t ∧ r.position = some t.span.start
  | _ => r.PointsAt stream.tokens

/-- A rejection at a token of a text explains the text. -/
lemma Rejection.PointsAt.explains {r : Rejection} {text : String}
    (h : r.PointsAt (filterLexicon.tokenize text).tokens) : r.Explains text := by
  obtain ⟨t, ht, position, about⟩ := h
  obtain ⟨cause, place⟩ := r
  cases cause with
  | unexpectedEnd | lexical | expectedPredicate | tooLong => exact about.elim
  | _ => exact ⟨t, ht, position, about⟩

/-- Only a text that is too long is rejected at no position. -/
lemma Rejection.Explains.position_eq_none_iff {r : Rejection} {text : String}
    (h : r.Explains text) :
    r.position = none ↔ ∃ length max, r.cause = .tooLong length max := by
  have placed : (∀ length max, r.cause ≠ .tooLong length max) →
      ∃ p, r.position = some p := by
    intro short
    obtain ⟨cause, position⟩ := r
    cases cause with
    | tooLong length max => exact absurd rfl (short length max)
    | unexpectedEnd | lexical => exact ⟨_, h.1⟩
    | expectedPredicate =>
        obtain ⟨t, -, place⟩ := h
        exact ⟨_, place⟩
    | _ =>
        obtain ⟨t, -, place, -⟩ := h
        exact ⟨_, place⟩
  constructor
  · intro none
    by_contra short
    obtain ⟨p, hp⟩ := placed (by simpa using short)
    rw [none] at hp
    cases hp
  · rintro ⟨length, max, long⟩
    simpa [Explains, long] using h

namespace Compiler

variable {c : Compiler} {text : String} {r : Rejection}

/-- What is read and is no condition is rejected at the end of the text, or at the
first token. -/
lemma explains_of_conclude {u : Unfinished}
    (whole : (filterLexicon.tokenize text).fault? = none)
    (hu : u.Reads c.schema (filterLexicon.tokenize text).tokens)
    (h : conclude text.length u = .error r) : r.Explains text := by
  have ended : conclude text.length u = .error (.locate .unexpectedEnd text.length) →
      r.Explains text := by
    intro same
    rw [same] at h
    cases h
    exact ⟨rfl, _, TokenStream.toExcept_eq_ok_iff.mpr ⟨whole, rfl⟩⟩
  cases u with
  | complete root =>
      obtain ⟨t, first, span⟩ := Derives.head?_span hu
      simp only [conclude] at h
      split at h
      · cases h
      · cases h
        exact ⟨t, first, by rw [span]; rfl⟩
  | _ => exact ended rfl

/-- A text of any length that is rejected is explained by the rejection. -/
lemma explains_of_parseAnyLength (h : c.parseAnyLength text = .error r) :
    r.Explains text := by
  cases hrun : c.reading.run (.operand []) (filterLexicon.tokenize text) with
  | error r' =>
      rw [parseAnyLength_of_run_error hrun] at h
      cases h
      rcases Reading.pointsAt_run hrun with points | ⟨f, hfault, rfl⟩
      · exact points.explains
      · exact ⟨rfl, TokenStream.toExcept_eq_error_iff.mpr hfault⟩
  | ok u =>
      obtain ⟨whole, hsteps⟩ := Reading.run_eq_ok_iff.mp hrun
      have start : (Unfinished.operand []).Reads c.reading.schema [] := .nil
      rw [parseAnyLength_of_run hrun] at h
      exact explains_of_conclude whole (Reading.reads_steps start hsteps) h

/-- **Every rejection points at the token that it is about.** A text that is
rejected is explained by the rejection, which has no position only if the text is
too long; and a text with a lexical fault is rejected. -/
theorem parse_rejection (c : Compiler) (text : String) :
    (∀ r, c.parse text = .error r →
      r.Explains text ∧
        (r.position = none ↔ ∃ length max, r.cause = .tooLong length max)) ∧
    ∀ f, (filterLexicon.tokenize text).toExcept = .error f →
      ∀ e, c.parse text ≠ .ok e := by
  constructor
  · intro r h
    have explains : r.Explains text := by
      by_cases short : ∀ max ∈ c.maxLength, text.length ≤ max
      · rw [parse_eq_parseAnyLength short] at h
        exact explains_of_parseAnyLength h
      · simp only [not_forall] at short
        obtain ⟨max, hmax, notLe⟩ := short
        rw [parse_tooLong hmax (Nat.lt_of_not_le notLe)] at h
        cases h
        rfl
    exact ⟨explains, explains.position_eq_none_iff⟩
  · intro f hf e accepted
    obtain ⟨ts, hts, -⟩ := parseAnyLength_eq_ok_iff.mp (parseAnyLength_of_parse accepted)
    rw [hts] at hf
    cases hf

/-- A list of a text and a number shows when it is closed, and is rejected where it
was opened. -/
theorem parse_mixedList :
    people.parse "IN(name,(\"a\",1))" =
        .error ⟨.typeMismatch .list (.expected .string .number), some 8⟩ ∧
      ∃ t ∈ (filterLexicon.tokenize "IN(name,(\"a\",1))").tokens,
        some 8 = some t.span.start ∧ t.lexeme = .separator '(' := by
  have rejected : people.parse "IN(name,(\"a\",1))" =
      .error ⟨.typeMismatch .list (.expected .string .number), some 8⟩ := by
    decide +kernel
  exact ⟨rejected, ((parse_rejection people _).1 _ rejected).1⟩

end Compiler

end RowFilter
