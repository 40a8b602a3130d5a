/-
Reading never gets stuck.

* `Impasse`: where reading would get stuck if the tokenizer, the operators and the
  lists did not fit together.
* `Expr.takeOperands`, `Expr.ofCallGuarded`, `Expr.ofListGuarded`,
  `OpenList.closeGuarded`: operands taken apart, and the first item of a list looked at,
  with nothing to fall back on.
* `Reading.stepGuarded`, `Reading.runGuarded`, `Compiler.parseGuarded`: reading with
  these, and with nothing to fall back on for unknown operators and separators.
* `Token.Known`, `Unfinished.Filled`: tokens and states at which reading goes on.
* `stepGuarded_eq`, `filled_step`, `runGuarded_eq`: it goes on with each token, and so to
  the end.
* `parseGuarded_eq`: no text gets reading stuck.
-/
import RowFilter.Compiler
import RowFilter.Proofs.Grammar.Operands
import RowFilter.Proofs.Lexing.Source

namespace RowFilter

/-- Where reading would get stuck. -/
inductive Impasse where
  /-- At a separator that is neither a parenthesis nor a comma. -/
  | separator (c : Char)
  /-- At the index of no operator. -/
  | operator (index : Nat)
  /-- At the first item of a list that has none. -/
  | firstItem
  /-- At operands that are not as many as were counted. -/
  | operands (op : Operator) (found : Nat)

/-! ### Operands and items -/

/-- Operands that have been taken apart. -/
inductive Operands where
  | one (arg : Expr)
  | two (left right : Expr)
  | many (args : List Expr)

namespace Operands

/-- Takes as many operands apart as have been counted. -/
def take (op : Operator) : Arity → List Expr → Except Impasse Operands
  | .exactly 1, [arg] => .ok (.one arg)
  | .exactly 2, [left, right] => .ok (.two left right)
  | .atLeast _, args => .ok (.many args)
  | _, args => .error (.operands op args.length)

/-- The operands, one after the other. -/
def toList : Operands → List Expr
  | .one arg => [arg]
  | .two left right => [left, right]
  | .many args => args

end Operands

/-- Every operator takes one operand, two operands, or two operands and more. -/
lemma Operator.arity_cases (op : Operator) :
    op.arity = .exactly 1 ∨ op.arity = .exactly 2 ∨ op.arity = .atLeast 2 := by
  cases op <;> simp [Operator.arity]

namespace Expr

/-- Counts operands, and takes them apart. -/
def takeOperands (op : Operator) (args : List Expr) : Except Impasse (Except Cause Operands) :=
  if op.arity.accepts args.length then (Operands.take op op.arity args).map .ok
  else .ok (.error (wrongArity op args))

/-- The application of an operator to operands that have been taken apart. -/
def ofCallGuarded (readDate : DateReader) (op : Operator) (args : List Expr) (span : Span) :
    Except Impasse (Except Cause Expr) :=
  (takeOperands op args).map fun taken =>
    taken.bind fun operands => ofCall readDate op operands.toList span

/-- A list whose first item tells the type. -/
def ofListGuarded (items : List Expr) (span : Span) : Except Impasse (Except Cause Expr) :=
  match items with
  | [] => .error .firstItem
  | first :: rest => .ok (ofList (first :: rest) span)

/-- Operands whose number is exact are that many. -/
lemma exists_of_accepts {op : Operator} {args : List Expr}
    (h : op.arity.accepts args.length = true) :
    (op.arity = .exactly 1 → ∃ arg, args = [arg]) ∧
      (op.arity = .exactly 2 → ∃ left right, args = [left, right]) := by
  constructor
  · intro one
    rw [one] at h
    exact List.length_eq_one_iff.mp (eq_of_beq h)
  · intro two
    rw [two] at h
    exact List.length_eq_two.mp (eq_of_beq h)

/-- Operands of the right number can be taken apart. -/
lemma take_of_accepts {op : Operator} {args : List Expr}
    (h : op.arity.accepts args.length = true) :
    ∃ operands, Operands.take op op.arity args = .ok operands ∧ operands.toList = args := by
  obtain ⟨one, two⟩ := exists_of_accepts h
  rcases op.arity_cases with arity | arity | arity
  · obtain ⟨arg, rfl⟩ := one arity
    exact ⟨.one arg, by rw [arity, Operands.take], rfl⟩
  · obtain ⟨left, right, rfl⟩ := two arity
    exact ⟨.two left right, by rw [arity, Operands.take], rfl⟩
  · exact ⟨.many args, by rw [arity, Operands.take], rfl⟩

/-- An operator does not get stuck at its operands. -/
lemma ofCallGuarded_eq (readDate : DateReader) (op : Operator) (args : List Expr)
    (span : Span) :
    ofCallGuarded readDate op args span = .ok (ofCall readDate op args span) := by
  cases h : op.arity.accepts args.length with
  | true =>
      obtain ⟨operands, taken, rfl⟩ := take_of_accepts h
      rw [ofCallGuarded, takeOperands, if_pos h, taken]
      rfl
  | false =>
      rw [ofCallGuarded, takeOperands, if_neg (by simp [h]), ofCall_arity h]
      rfl

/-- A list does not get stuck at its first item when it has one. -/
lemma ofListGuarded_eq {items : List Expr} (h : items ≠ []) (span : Span) :
    ofListGuarded items span = .ok (ofList items span) := by
  cases items with
  | nil => exact absurd rfl h
  | cons first rest => rfl

end Expr

namespace OpenList

/-- The expression that a list makes when it is closed. -/
def closeGuarded (l : OpenList) (readDate : DateReader) :
    Except Impasse (Except Rejection Expr) :=
  match l.call with
  | some (op, span) =>
    (Expr.ofCallGuarded readDate op l.items.reverse span).map
      (·.mapError (Rejection.locate · span.start))
  | none =>
    (Expr.ofListGuarded l.items.reverse l.opened).map
      (·.mapError (Rejection.locate · l.opened.start))

/-- A list with items does not get stuck when it is closed. -/
lemma closeGuarded_eq {l : OpenList} (h : l.items ≠ []) (readDate : DateReader) :
    l.closeGuarded readDate = .ok (l.close readDate) := by
  obtain ⟨call, opened, items⟩ := l
  cases call with
  | some c =>
      obtain ⟨op, span⟩ := c
      simp only [closeGuarded, close, Expr.ofCallGuarded_eq]
      rfl
  | none =>
      have filled : items.reverse ≠ [] := by simpa using h
      simp only [closeGuarded, close, Expr.ofListGuarded_eq filled]
      rfl

end OpenList

/-! ### Tokens -/

/-- A token that is no operator or separator that nobody knows. -/
structure Token.Known (t : Token) : Prop where
  operator : ∀ i, t.lexeme = .operator i → ∃ op, Operator.ofIndex? i = some op
  separator : ∀ c, t.lexeme = .separator c → c = '(' ∨ c = ')' ∨ c = ','

/-- What has been read of a list that may be closed is not empty. -/
def Unfinished.Filled : Unfinished → Prop
  | .item inner _ => inner.items ≠ []
  | _ => True

namespace Reading

variable (rd : Reading)

/-- A token where an expression has to come. -/
def operandStepGuarded (stack : List OpenList) (t : Token) :
    Except Impasse (Except Rejection Unfinished) :=
  match t.lexeme with
  | .operator i =>
    match Operator.ofIndex? i with
    | some op => .ok (.ok (.parenthesis op t.span stack))
    | none => .error (.operator i)
  | .separator c =>
    if c = '(' ∨ c = ')' ∨ c = ',' then .ok (rd.operandStep stack t)
    else .error (.separator c)
  | _ => .ok (rd.operandStep stack t)

/-- The effect of one token. -/
def stepGuarded (u : Unfinished) (t : Token) : Except Impasse (Except Rejection Unfinished) :=
  match u with
  | .operand stack => rd.operandStepGuarded stack t
  | .item inner stack =>
    if t.lexeme = .separator ')' then
      (inner.closeGuarded rd.schema.readDate).map (·.map (Unfinished.place · stack))
    else .ok (rd.step u t)
  | _ => .ok (rd.step u t)

/-- Reads a token stream. -/
def runGuarded : Unfinished → TokenStream → Except Impasse (Except Rejection Unfinished)
  | u, .done => .ok (.ok u)
  | _, .fault f => .ok (.error (.ofLexFault f))
  | u, .token t rest =>
    match rd.stepGuarded u t with
    | .error i => .error i
    | .ok (.error r) => .ok (.error r)
    | .ok (.ok u') => runGuarded u' rest

lemma operandStepGuarded_eq {t : Token} (known : t.Known) (stack : List OpenList) :
    rd.operandStepGuarded stack t = .ok (rd.operandStep stack t) := by
  cases ht : t.lexeme with
  | operator i =>
      obtain ⟨op, hop⟩ := known.operator i ht
      simp only [operandStepGuarded, operandStep, ht, hop]
  | separator c =>
      simp only [operandStepGuarded, ht]
      exact if_pos (known.separator c ht)
  | _ => simp only [operandStepGuarded, ht]

/-- Reading goes on with a known token, unless it would close an empty list. -/
lemma stepGuarded_eq {u : Unfinished} {t : Token} (filled : u.Filled) (known : t.Known) :
    rd.stepGuarded u t = .ok (rd.step u t) := by
  cases u with
  | operand stack => exact rd.operandStepGuarded_eq known stack
  | item inner stack =>
      rw [stepGuarded]
      split
      · next ht =>
        rw [OpenList.closeGuarded_eq filled, step, if_pos ht]
        rfl
      · rfl
  | _ => rfl

/-- A separator that the tokenizer does not know would get reading stuck. -/
example : rd.stepGuarded (.operand []) ⟨.separator ';', ⟨0, 1⟩⟩ = .error (.separator ';') :=
  rfl

/-- An expression fills the list in which it is placed. -/
lemma filled_place (e : Expr) (stack : List OpenList) :
    (Unfinished.place e stack).Filled := by
  cases stack with
  | nil => trivial
  | cons l stack => exact List.cons_ne_nil e l.items

lemma filled_enter {call : Option (Operator × Span)} {opened : Span} {stack : List OpenList}
    {v : Unfinished} (h : rd.enter call opened stack = .ok v) : v.Filled := by
  rw [enter] at h
  split at h
  · cases h
  · obtain rfl := Except.ok.inj h
    trivial

lemma filled_operandStep {stack : List OpenList} {v : Unfinished} {t : Token}
    (h : rd.operandStep stack t = .ok v) : v.Filled := by
  obtain ⟨lexeme, span⟩ := t
  cases lexeme with
  | number | string =>
      obtain rfl := Except.ok.inj h
      exact filled_place ..
  | symbol name =>
      simp only [operandStep] at h
      split at h
      · obtain rfl := Except.ok.inj h
        exact filled_place ..
      · cases h
  | operator index =>
      simp only [operandStep] at h
      split at h
      · obtain rfl := Except.ok.inj h
        trivial
      · cases h
  | separator c =>
      simp only [operandStep] at h
      split at h
      · exact rd.filled_enter h
      · split at h <;> cases h

/-- No token leads to an empty list that may be closed. -/
lemma filled_step {u v : Unfinished} {t : Token} (h : rd.step u t = .ok v) : v.Filled := by
  cases u with
  | operand stack => exact rd.filled_operandStep h
  | parenthesis op span stack =>
      simp only [step] at h
      split at h
      · exact rd.filled_enter h
      · cases h
  | item inner stack =>
      simp only [step] at h
      split at h
      · obtain ⟨e, -, rfl⟩ := except_map_eq_ok_iff.mp h
        exact filled_place e stack
      · split at h
        · obtain rfl := Except.ok.inj h
          trivial
        · cases h
  | complete root => cases h

/-- No list of tokens leads to an empty list that may be closed. -/
lemma filled_steps {u v : Unfinished} {ts : List Token} (filled : u.Filled)
    (h : rd.steps u ts = .ok v) : v.Filled := by
  induction ts generalizing u with
  | nil =>
      obtain rfl := Except.ok.inj h
      exact filled
  | cons t ts ih =>
      rw [steps] at h
      split at h
      · cases h
      · next next => exact ih (rd.filled_step next) h

/-- Reading known tokens goes on to the end. -/
theorem runGuarded_eq {u : Unfinished} {s : TokenStream} (filled : u.Filled)
    (known : ∀ t ∈ s.tokens, t.Known) : rd.runGuarded u s = .ok (rd.run u s) := by
  induction s generalizing u with
  | done => rfl
  | fault f => rfl
  | token t rest ih =>
      have first := rd.stepGuarded_eq filled (known t List.mem_cons_self)
      rw [runGuarded, first, run]
      cases next : rd.step u t with
      | error r => rfl
      | ok v => exact ih (rd.filled_step next) fun t ht => known t (List.mem_cons_of_mem _ ht)

end Reading

/-! ### Filters -/

namespace Compiler

variable (c : Compiler)

/-- The condition that a text stands for, whatever its length. -/
def parseAnyLengthGuarded (text : String) : Except Impasse (Except Rejection Expr) :=
  (c.reading.runGuarded (.operand []) (filterLexicon.tokenize text)).map
    fun read => read.bind (conclude text.length)

/-- The condition that a text stands for. -/
def parseGuarded (text : String) : Except Impasse (Except Rejection Expr) :=
  match c.maxLength with
  | some max =>
    if max < text.length then .ok (.error ⟨.tooLong text.length max, none⟩)
    else c.parseAnyLengthGuarded text
  | none => c.parseAnyLengthGuarded text

/-- The tokens of a filter are known. -/
lemma known_of_mem_tokens {text : String} :
    ∀ t ∈ (filterLexicon.tokenize text).tokens, t.Known := fun _ h =>
  { operator := fun _ ht => (keyword_slice h ht).imp fun _ => And.left
    separator := fun _ => separator_cases h }

lemma parseAnyLengthGuarded_eq (text : String) :
    c.parseAnyLengthGuarded text = .ok (c.parseAnyLength text) := by
  have read : c.reading.runGuarded (.operand []) (filterLexicon.tokenize text) =
      .ok (c.reading.run (.operand []) (filterLexicon.tokenize text)) :=
    c.reading.runGuarded_eq trivial known_of_mem_tokens
  rw [parseAnyLengthGuarded, read]
  rfl

/-- **No text gets parsing stuck.** Parsing without anything to fall back on, where an
operator or a separator is unknown, a list has no first item, or operands are not as
many as were counted, has the result of parsing for every compiler and every text. For
the index of every operator token is that of an operator whose keyword stands in the
text, every separator token is a parenthesis or a comma, whatever tokens are read a list
that may be closed has items, and operands whose number is exactly one or two are one
or two. -/
theorem parseGuarded_eq (text : String) :
    c.parseGuarded text = .ok (c.parse text) ∧
    (∀ t ∈ (filterLexicon.tokenize text).tokens,
      (∀ i, t.lexeme = .operator i →
        ∃ op, Operator.ofIndex? i = some op ∧ t.span.slice text = op.keyword) ∧
      ∀ ch, t.lexeme = .separator ch → ch = '(' ∨ ch = ')' ∨ ch = ',') ∧
    (∀ ts inner stack, c.reading.steps (.operand []) ts = .ok (.item inner stack) →
      inner.items ≠ []) ∧
    ∀ (op : Operator) (args : List Expr), op.arity.accepts args.length = true →
      (op.arity = .exactly 1 → ∃ arg, args = [arg]) ∧
      (op.arity = .exactly 2 → ∃ left right, args = [left, right]) := by
  refine ⟨?_, fun t ht => ⟨fun i => keyword_slice ht, fun ch => separator_cases ht⟩,
    fun ts inner stack read => ?_, fun op args => Expr.exists_of_accepts⟩
  · rw [parseGuarded, parse]
    cases c.maxLength with
    | none => exact c.parseAnyLengthGuarded_eq text
    | some max =>
        by_cases long : max < text.length
        · simp only [if_pos long]
        · simp only [if_neg long, c.parseAnyLengthGuarded_eq text]
  · exact c.reading.filled_steps (u := .operand []) trivial read

end Compiler

end RowFilter
