/-
What the limits of a compiler do to a text.

* `firstBeyond`: the first parenthesis that is opened where a given number of
  parentheses is open.
* `step_eq_or_tooDeep`, `run_eq_or_tooDeep`: with a lower bound on the nesting,
  a token and a token stream have the same effect, or are too deep.
* `firstBeyond_eq_none_iff`, `nestsWithin_of_count_le`: tokens that nest within
  the bound have no such parenthesis, and texts with few parentheses nest
  within it.
* `parse_limits`: a text beyond the longest is rejected; otherwise a limit on
  the nesting shows at the first parenthesis beyond it, and nowhere else.
-/
import RowFilter.Proofs.Grammar.Typed
import RowFilter.Proofs.Lexing.Scan
import RowFilter.Proofs.LiteralIndependence
import RowFilter.Proofs.Nesting

namespace RowFilter

/-! ### The first parenthesis beyond a bound -/

/-- The first parenthesis that is opened where `max` parentheses are open.
Before the first token there are `depth`. -/
def firstBeyond (max depth : Nat) : List Token → Option Token
  | [] => none
  | t :: ts =>
    if t.lexeme = .separator '(' ∧ depth = max then some t
    else firstBeyond max (t.nest depth) ts

/-- A token that opens no parenthesis leaves no more of them open. -/
lemma Token.nest_le_self {t : Token} (ho : t.lexeme ≠ .separator '(') (depth : Nat) :
    t.nest depth ≤ depth := by
  rw [Token.nest, if_neg ho]
  split_ifs <;> omega

/-- Tokens nest within a bound when no parenthesis is opened at the bound. -/
lemma firstBeyond_eq_none_iff {max depth : Nat} (room : depth ≤ max) {ts : List Token} :
    firstBeyond max depth ts = none ↔ NestsWithin max depth ts := by
  induction ts generalizing depth with
  | nil => simp [firstBeyond, nestsWithin_nil]
  | cons t ts ih =>
      rw [firstBeyond, nestsWithin_cons]
      by_cases ho : t.lexeme = .separator '('
      · by_cases full : depth = max
        · simp [ho, full]
        · have below : depth + 1 ≤ max := by omega
          simp [ho, full, Token.nest_opening ho, ih below, Nat.lt_of_succ_le below]
      · have stay := Nat.le_trans (Token.nest_le_self ho depth) room
        simp [ho, ih stay]

/-- Tokens open one parenthesis for each opening one at most. -/
lemma unclosed_le_countP (depth : Nat) (ts : List Token) :
    unclosed depth ts ≤ depth + ts.countP (·.lexeme = .separator '(') := by
  induction ts generalizing depth with
  | nil => simp
  | cons t ts ih =>
      have rest := ih (t.nest depth)
      rw [unclosed_cons, List.countP_cons]
      by_cases ho : t.lexeme = .separator '('
      · rw [Token.nest_opening ho] at rest ⊢
        simp only [ho, decide_true, if_true]
        omega
      · have stay := Token.nest_le_self ho depth
        simp only [ho, decide_false, Bool.false_eq_true, if_false]
        omega

/-- A text opens no parenthesis where as many are open as it has. -/
lemma nestsWithin_of_count_le {text : String} {max : Nat}
    (h : text.toList.count '(' ≤ max) :
    NestsWithin max 0 (filterLexicon.tokenize text).tokens := by
  intro before t after split ht
  have few : (filterLexicon.tokenize text).tokens.countP
      (·.lexeme = .separator '(') ≤ text.toList.count '(' := by
    rw [filterLexicon_tokenize]
    exact Vocabulary.countP_separator_read_le '(' 0 text.toList
  have inner := unclosed_le_countP 0 before
  rw [split, List.countP_append, List.countP_cons_of_pos (by simpa using ht)] at few
  omega

/-! ### Reading with two bounds -/

namespace Reading

/-- The rejection of a parenthesis. -/
def tooDeepAt (rd : Reading) (t : Token) : Rejection :=
  .locate (.tooDeep rd.maxDepth) t.span.start

variable {rd rd' : Reading}

/-- With a lower bound on the nesting, a parenthesis has the same effect, or
is too deep. -/
lemma enter_eq_or_tooDeep (le : rd.maxDepth ≤ rd'.maxDepth)
    (call : Option (Operator × Span)) (t : Token) (stack : List OpenList) :
    rd.enter call t.span stack = rd'.enter call t.span stack ∨
      rd.maxDepth ≤ stack.length ∧
        rd.enter call t.span stack = .error (rd.tooDeepAt t) := by
  by_cases full : rd.maxDepth ≤ stack.length
  · exact .inr ⟨full, if_pos full⟩
  · have room : ¬rd'.maxDepth ≤ stack.length := by omega
    exact .inl (by rw [enter, enter, if_neg full, if_neg room])

/-- With a lower bound on the nesting, a token has the same effect, or is a
parenthesis that is too deep. -/
lemma step_eq_or_tooDeep (same : rd.schema = rd'.schema)
    (le : rd.maxDepth ≤ rd'.maxDepth) (u : Unfinished) (t : Token) :
    rd.step u t = rd'.step u t ∨
      t.lexeme = .separator '(' ∧ rd.maxDepth ≤ u.depth ∧
        rd.step u t = .error (rd.tooDeepAt t) := by
  cases u with
  | operand stack =>
      by_cases ht : t.lexeme = .separator '('
      · have entered : ∀ r : Reading, r.step (.operand stack) t =
            r.enter none t.span stack := by
          intro r
          simp [step, operandStep, ht]
        rw [entered, entered]
        exact (enter_eq_or_tooDeep le none t stack).imp_right fun h => ⟨ht, h⟩
      · left
        simp only [step, operandStep, same]
        cases ht' : t.lexeme with
        | separator c =>
            have other : c ≠ '(' := by rintro rfl; exact ht ht'
            simp [other]
        | _ => rfl
  | parenthesis op span stack =>
      by_cases ht : t.lexeme = .separator '('
      · simp only [step, if_pos ht]
        exact (enter_eq_or_tooDeep le _ t stack).imp_right fun h => ⟨ht, h⟩
      · left
        simp only [step, if_neg ht]
  | item inner stack =>
      left
      simp only [step, same]
  | complete root => exact .inl rfl

/-- With a lower bound on the nesting, a stream has the same effect, or is too
deep at the first parenthesis beyond that bound. -/
theorem run_eq_or_tooDeep (same : rd.schema = rd'.schema)
    (le : rd.maxDepth ≤ rd'.maxDepth) {u : Unfinished} (room : u.depth ≤ rd.maxDepth)
    (s : TokenStream) :
    rd.run u s = rd'.run u s ∨
      ∃ t, firstBeyond rd.maxDepth u.depth s.tokens = some t ∧
        rd.run u s = .error (rd.tooDeepAt t) := by
  induction s generalizing u with
  | done => exact .inl rfl
  | fault f => exact .inl rfl
  | token t rest ih =>
      rcases step_eq_or_tooDeep same le u t with hstep | ⟨ht, full, hstep⟩
      · -- both readers take the token, which is not beyond the lower bound
        cases next : rd.step u t with
        | error r =>
            left
            rw [run, run, ← hstep, next]
        | ok v =>
            obtain ⟨hdepth, hopen⟩ := depth_step next
            have inside : v.depth ≤ rd.maxDepth := by
              rw [hdepth]
              by_cases ho : t.lexeme = .separator '('
              · rw [Token.nest_opening ho]
                exact hopen ho
              · exact Nat.le_trans (Token.nest_le_self ho u.depth) room
            have later : firstBeyond rd.maxDepth u.depth (t :: rest.tokens) =
                firstBeyond rd.maxDepth v.depth rest.tokens := by
              rw [firstBeyond, if_neg fun h => Nat.ne_of_lt (hopen h.1) h.2, hdepth]
            simp only [run, TokenStream.tokens, ← hstep, next, later]
            exact ih inside
      · -- at most as many lists were open as the bound allows, so it is met here
        have first : firstBeyond rd.maxDepth u.depth (t :: rest.tokens) = some t := by
          rw [firstBeyond, if_pos ⟨ht, Nat.le_antisymm room full⟩]
        exact .inr ⟨t, first, by rw [run, hstep]⟩

end Reading

/-! ### Parsing with limits -/

namespace Compiler

variable {c : Compiler} {text : String}

/-- With a lower bound on the nesting, a text has the same result, or is too
deep at the first parenthesis beyond that bound. -/
lemma parseAnyLength_eq_or_tooDeep {deeper : Nat} (le : c.maxDepth ≤ deeper) :
    c.parseAnyLength text = { c with maxDepth := deeper }.parseAnyLength text ∨
      ∃ t, firstBeyond c.maxDepth 0 (filterLexicon.tokenize text).tokens = some t ∧
        c.parseAnyLength text =
          .error (.locate (.tooDeep c.maxDepth) t.span.start) := by
  have start : (Unfinished.operand []).depth ≤ c.reading.maxDepth := Nat.zero_le _
  have cut := @Reading.run_eq_or_tooDeep c.reading ⟨c.schema, deeper⟩ rfl le
    (.operand []) start (filterLexicon.tokenize text)
  rcases cut with same | ⟨t, ht, deep⟩
  · left
    rw [parseAnyLength, same]
    rfl
  · right
    refine ⟨t, ht, ?_⟩
    rw [parseAnyLength, deep]
    rfl

/-- Without a limit on its length, a text whose tokens nest within a bound has
the same result for all bounds from there on. -/
lemma parseAnyLength_eq_of_le {deeper : Nat} (le : c.maxDepth ≤ deeper)
    (h : NestsWithin c.maxDepth 0 (filterLexicon.tokenize text).tokens) :
    c.parseAnyLength text = { c with maxDepth := deeper }.parseAnyLength text := by
  rcases @parseAnyLength_eq_or_tooDeep c text deeper le with same | ⟨t, ht, -⟩
  · exact same
  · rw [(firstBeyond_eq_none_iff (Nat.zero_le _)).mpr h] at ht
    cases ht

/-- A text that is not too long is parsed as if there were no limit on its
length. -/
lemma parse_eq_parseAnyLength (h : ∀ max ∈ c.maxLength, text.length ≤ max) :
    c.parse text = c.parseAnyLength text := by
  rw [parse]
  split
  · next max hmax =>
    rw [if_neg (Nat.not_lt.mpr (h max hmax))]
  · rfl

/-- A bound beyond the number of opening parentheses is no limit: with a lower
one, a text has the same result, or is too deep. -/
lemma parseAnyLength_eq_unlimited_or_tooDeep {enough : Nat}
    (h : text.toList.count '(' < enough) :
    c.parseAnyLength text = { c with maxDepth := enough }.parseAnyLength text ∨
      ∃ t, firstBeyond c.maxDepth 0 (filterLexicon.tokenize text).tokens = some t ∧
        c.parseAnyLength text =
          .error (.locate (.tooDeep c.maxDepth) t.span.start) := by
  rcases Nat.le_total c.maxDepth enough with le | le
  · exact parseAnyLength_eq_or_tooDeep le
  · have nests := nestsWithin_of_count_le (Nat.le_of_lt h)
    exact .inl (parseAnyLength_eq_of_le (c := { c with maxDepth := enough }) le nests).symm

/-- What is accepted nests within the bound. -/
lemma nestsWithin_of_parse {e : Expr} (h : c.parse text = .ok e) :
    NestsWithin c.maxDepth 0 (filterLexicon.tokenize text).tokens := by
  obtain ⟨ts, hts, hread, -⟩ :=
    parseAnyLength_eq_ok_iff.mp (parseAnyLength_of_parse h)
  obtain ⟨-, rfl⟩ := TokenStream.toExcept_eq_ok_iff.mp hts
  exact (steps_eq_complete_iff.mp hread).2

/-- A text is rejected because its parentheses are nested too deeply. -/
def IsTooDeep (result : Except Rejection Expr) : Prop :=
  ∃ max position, result = .error ⟨.tooDeep max, position⟩

/-- Under one limit on the length, a text has the same result if it has it without the
limit, unless what it has then is a result that it does not have under the limit. -/
lemma parse_eq_of_parseAnyLength {c' : Compiler} (limit : c'.maxLength = c.maxLength)
    {P : Except Rejection Expr → Prop}
    (same : c'.parseAnyLength text = c.parseAnyLength text ∨ P (c.parseAnyLength text))
    (hP : ¬P (c.parse text)) : c'.parse text = c.parse text := by
  by_cases short : ∀ max ∈ c.maxLength, text.length ≤ max
  · rw [parse_eq_parseAnyLength short] at hP ⊢
    rw [parse_eq_parseAnyLength (limit ▸ short)]
    exact same.resolve_right hP
  · simp only [not_forall] at short
    obtain ⟨max, hmax, notLe⟩ := short
    have long := Nat.lt_of_not_le notLe
    rw [parse_tooLong hmax long, parse_tooLong (limit.trans hmax) long]

/-- Raising the bound on the nesting keeps all results but those that are too
deep. -/
lemma parse_deeper {deeper : Nat} (le : c.maxDepth ≤ deeper)
    (fits : ¬IsTooDeep (c.parse text)) :
    { c with maxDepth := deeper }.parse text = c.parse text := by
  refine parse_eq_of_parseAnyLength rfl ?_ fits
  rcases parseAnyLength_eq_or_tooDeep le with same | ⟨t, -, deep⟩
  · exact .inl same.symm
  · exact .inr ⟨_, _, deep⟩

/-- **Limits cut exactly, and change nothing else.** A text beyond the longest
is rejected as a whole. Any other text has the same result as without limits,
or is too deep at the first parenthesis that is opened where `maxDepth` others
are open; what would be accepted is too deep exactly when there is such a
parenthesis. Raising the bound on the nesting keeps all results but those that
are too deep, and no way down an accepted expression is longer than the
bound. -/
theorem parse_limits (c : Compiler) (text : String) :
    (∀ max, c.maxLength = some max → max < text.length →
      c.parse text = .error ⟨.tooLong text.length max, none⟩) ∧
    ((∀ max, c.maxLength = some max → text.length ≤ max) →
      ∀ enough, text.toList.count '(' < enough →
        let unlimited : Compiler := { c with maxLength := none, maxDepth := enough }
        let beyond := firstBeyond c.maxDepth 0 (filterLexicon.tokenize text).tokens
        (c.parse text = unlimited.parse text ∨
          ∃ t, beyond = some t ∧
            c.parse text = .error ⟨.tooDeep c.maxDepth, some t.span.start⟩) ∧
        ∀ e, unlimited.parse text = .ok e →
          (IsTooDeep (c.parse text) ↔ ∃ t, beyond = some t)) ∧
    (∀ deeper, c.maxDepth ≤ deeper → ¬IsTooDeep (c.parse text) →
      { c with maxDepth := deeper }.parse text = c.parse text) ∧
    ∀ e, c.parse text = .ok e →
      ∀ n leaf, Expr.Descends n e leaf → n ≤ c.maxDepth := by
  refine ⟨fun max => parse_tooLong, ?_, ?_, ?_⟩
  · intro short enough many unlimited beyond
    have cut : c.parse text = unlimited.parse text ∨
        ∃ t, beyond = some t ∧
          c.parse text = .error ⟨.tooDeep c.maxDepth, some t.span.start⟩ := by
      rw [parse_eq_parseAnyLength short]
      exact parseAnyLength_eq_unlimited_or_tooDeep many
    refine ⟨cut, fun e accepted => ⟨?_, ?_⟩⟩
    · rintro ⟨max, position, deep⟩
      rcases cut with same | ⟨t, ht, -⟩
      · rw [deep, accepted] at same
        cases same
      · exact ⟨t, ht⟩
    · rintro ⟨t, ht⟩
      rcases cut with same | ⟨u, -, deep⟩
      · have nests := nestsWithin_of_parse (same.trans accepted)
        rw [← firstBeyond_eq_none_iff (Nat.zero_le _)] at nests
        cases nests.symm.trans ht
      · exact ⟨_, _, deep⟩
  · intro deeper le fits
    exact parse_deeper le fits
  · intro e accepted n leaf way
    have within := ((derives_of_parse accepted).nestsWithin_iff (Nat.zero_le _)).mp
      (nestsWithin_of_parse accepted)
    have steps := way.le_nesting
    omega

/-- A date in a comparison in a conjunction has the third parenthesis that is open at
once: with room for two the filter is too deep there, and with room for three it is
accepted. -/
theorem parse_limits_bornAfter :
    let text := "AND(LIKE(name,\"A%\"),GT(born,DATE(\"1990-01-31\")))"
    people.parse text = .ok (.bornAfter "A%" ⟨1990, 1, 31, by decide⟩ 0) ∧
      { people with maxDepth := 2 }.parse text = .error ⟨.tooDeep 2, some 32⟩ ∧
      { people with maxDepth := 3 }.parse text = people.parse text ∧
      { people with maxLength := some 40 }.parse text =
        .error ⟨.tooLong text.length 40, none⟩ := by
  intro text
  refine ⟨parse_bornAfter, ?_, ?_, ?_⟩
  · obtain ⟨cut, deep⟩ := (parse_limits { people with maxDepth := 2 } text).2.1 nofun
      people.maxDepth (by decide +kernel)
    have third : firstBeyond 2 0 (filterLexicon.tokenize text).tokens =
        some ⟨.separator '(', ⟨32, 33⟩⟩ := by decide +kernel
    obtain ⟨max, position, rejected⟩ := (deep _ parse_bornAfter).mpr ⟨_, third⟩
    rcases cut with same | ⟨t, first, rejected⟩
    · cases (rejected.symm.trans same).trans parse_bornAfter
    · obtain rfl := Option.some.inj (third.symm.trans first)
      exact rejected
  · have fits : ¬IsTooDeep ({ people with maxDepth := 3 }.parse text) := by
      have accepted : { people with maxDepth := 3 }.parse text =
          .ok (.bornAfter "A%" ⟨1990, 1, 31, by decide⟩ 0) := by decide +kernel
      rintro ⟨max, position, rejected⟩
      cases accepted.symm.trans rejected
    exact ((parse_limits { people with maxDepth := 3 } text).2.2.1 people.maxDepth (by decide)
      fits).symm
  · exact (parse_limits { people with maxLength := some 40 } text).1 40 rfl (by decide)

end Compiler

end RowFilter
