/-
Blanks between tokens move spans, and change nothing else.

* `Relabelling.OnlyMoves`: relabellings that keep literals.
* `Rejection.moved`, `OpenList.relabel`, `Unfinished.relabel`: rejections and
  states of the reader with their places moved.
* `ofCall_relabel`, `ofList_relabel`: what operands and items make is moved with
  them, and what is wrong with them stays.
* `step_relabel`, `steps_relabel`: a token, and a list of tokens, that have moved
  have the same effect, moved.
* `Insertion.result`: the result of parsing, moved.
* `parse_insert`: with blanks put in between its tokens, a text has the same result,
  moved where it stands behind the blanks.
-/
import RowFilter.Proofs.Lexing.Scan
import RowFilter.Proofs.Lexing.Spacing
import RowFilter.Proofs.Limits
import RowFilter.Proofs.LiteralIndependence

namespace RowFilter

/-! ### Moving -/

/-- Relabellings that keep literals. Where something starts tells where it starts
afterwards. -/
structure Relabelling.OnlyMoves (m : Relabelling) (start : Nat → Nat) : Prop where
  value : ∀ v, m.value v = v
  start : ∀ s, (m.span s).start = start s.start

/-- A rejection at another place. -/
def Rejection.moved (start : Nat → Nat) (r : Rejection) : Rejection :=
  { r with position := r.position.map start }

/-- A list with its places moved. -/
def OpenList.relabel (m : Relabelling) (l : OpenList) : OpenList where
  call := l.call.map fun c => (c.1, m.span c.2)
  opened := m.span l.opened
  items := l.items.map (·.relabel m)

/-- What has been read, with its places moved. -/
def Unfinished.relabel (m : Relabelling) : Unfinished → Unfinished
  | .operand stack => .operand (stack.map (·.relabel m))
  | .parenthesis op span stack => .parenthesis op (m.span span) (stack.map (·.relabel m))
  | .item inner stack => .item (inner.relabel m) (stack.map (·.relabel m))
  | .complete root => .complete (root.relabel m)

/-- A result with its places moved. -/
def Rejection.movedResult {α β : Type} (start : Nat → Nat) (f : α → β) :
    Except Rejection α → Except Rejection β
  | .ok a => .ok (f a)
  | .error r => .error (r.moved start)

variable {m : Relabelling} {start : Nat → Nat}

namespace Relabelling.OnlyMoves

lemma text (hm : m.OnlyMoves start) (s : String) : m.text s = s :=
  SqlValue.text.inj (hm.value (.text s))

lemma lexeme (hm : m.OnlyMoves start) (l : Lexeme) : m.lexeme l = l := by
  cases l with
  | number n => exact congrArg Lexeme.number (SqlValue.int.inj (hm.value (.int n)))
  | string s => exact congrArg Lexeme.string (hm.text s)
  | _ => rfl

end Relabelling.OnlyMoves

/-! ### Operands and items -/

namespace Expr

variable (op : Operator) (args : List Expr) (span : Span) (e : Expr)

lemma wrongArity_map (f : Expr → Expr) : wrongArity op (args.map f) = wrongArity op args := by
  rw [wrongArity, List.length_map]
  rfl

lemma twoOperands_map (f : Expr → Expr) :
    twoOperands op (args.map f) = (twoOperands op args).map (Prod.map f f) := by
  match args with
  | [_, _] => rfl
  | [] | [_] => rfl
  | _ :: _ :: _ :: rest => exact congrArg Except.error (wrongArity_map op (_ :: _ :: _ :: rest) f)

lemma onlyOperand_map (f : Expr → Expr) :
    onlyOperand op (args.map f) = (onlyOperand op args).map f := by
  match args with
  | [_] => rfl
  | [] => rfl
  | _ :: _ :: rest => exact congrArg Except.error (wrongArity_map op (_ :: _ :: rest) f)

lemma asField_relabel : asField op (e.relabel m) = asField op e := by
  cases e with
  | literal v s => simp [relabel, asField, type]
  | _ => rfl

lemma asText_relabel (hm : m.OnlyMoves start) : asText op (e.relabel m) = asText op e := by
  cases e with
  | literal v s => rw [relabel, hm.value]; cases v <;> rfl
  | _ => rfl

lemma requirePredicates_map :
    requirePredicates op (args.map (·.relabel m)) = requirePredicates op args := by
  have same : (fun e => !e.isPredicate) ∘ (relabel m) = fun e => !e.isPredicate := by
    funext e
    simp [isPredicate]
  rw [requirePredicates, requirePredicates, List.find?_map, same]
  cases args.find? fun e => !e.isPredicate with
  | none => rfl
  | some arg => simp

/-- What an operator makes of its operands is moved with them, and what is wrong with
them stays. -/
lemma ofCall_relabel (hm : m.OnlyMoves start) (readDate : DateReader) :
    ofCall readDate op (args.map (·.relabel m)) (m.span span) =
      (ofCall readDate op args span).map (·.relabel m) := by
  have two := twoOperands_map op args (·.relabel m)
  have only := onlyOperand_map op args (·.relabel m)
  cases op with
  | equal | greater | less | greaterOrEqual | lessOrEqual =>
      simp only [ofCall, ofComparison, two]
      refine except_map_bind fun p => ?_
      simp only [Prod.map, type_relabel]
      split <;> rfl
  | isIn =>
      simp only [ofCall, ofMembership, two]
      refine except_map_bind fun p => ?_
      simp only [Prod.map, type_relabel]
      split <;> rfl
  | and | or =>
      simp only [ofCall, ofJunction, List.length_map, wrongArity_map, requirePredicates_map]
      split
      · rfl
      · refine except_bind_map fun _ => congrArg Except.ok ?_
        simp only [relabel, relabelAll_eq_map]
  | not =>
      simp only [ofCall, ofNegation, only]
      refine except_map_bind fun arg => ?_
      rw [show [arg.relabel m] = [arg].map (·.relabel m) from rfl, requirePredicates_map]
      exact except_bind_map fun _ => rfl
  | like =>
      simp only [ofCall, ofLike, two]
      refine except_map_bind fun p => ?_
      simp only [Prod.map, asField_relabel, asText_relabel _ _ hm]
      refine except_bind_map fun column => except_bind_map fun pattern => congrArg Except.ok ?_
      simp only [relabel, hm.text]
  | anyLike =>
      simp only [ofCall, ofAnyLike, two]
      refine except_map_bind fun p => ?_
      simp only [Prod.map, asField_relabel, asText_relabel _ _ hm]
      refine except_bind_map fun column => ?_
      split
      · rfl
      · refine except_bind_map fun pattern => congrArg Except.ok ?_
        simp only [relabel, hm.text]
  | date =>
      simp only [ofCall, ofDate, only]
      refine except_map_bind fun arg => ?_
      simp only [asText_relabel _ _ hm]
      refine except_bind_map fun input => ?_
      cases readDate input with
      | error => rfl
      | ok d => exact congrArg (fun v => Except.ok (Expr.literal v _)) (hm.value (.date d)).symm

/-- What a list makes of its items is moved with them, and what is wrong with them
stays. -/
lemma ofList_relabel :
    ofList (args.map (·.relabel m)) (m.span span) =
      (ofList args span).map (·.relabel m) := by
  cases args with
  | nil => rfl
  | cons first rest =>
      have same : (fun e => decide (e.type ≠ first.type)) ∘ relabel m =
          fun e => decide (e.type ≠ first.type) := by
        funext e
        simp
      have found : (relabel m first :: rest.map (relabel m)).find?
          (fun e => decide (e.type ≠ first.type)) =
          ((first :: rest).find? fun e => decide (e.type ≠ first.type)).map (relabel m) := by
        rw [← List.map_cons, List.find?_map, same]
      simp only [ofList, List.map_cons, type_relabel]
      rw [found]
      split
      · rfl
      · cases (first :: rest).find? fun e => decide (e.type ≠ first.type) with
        | none => rw [Except.map, relabel, relabelAll_eq_map]; rfl
        | some other => simp [Except.map]

end Expr

/-! ### Reading moved tokens -/

/-- What is found at a place is found where the place has moved. -/
lemma mapError_locate_map (start : Nat → Nat) {α β : Type} (f : α → β) (x : Except Cause α)
    (p : Nat) :
    (x.map f).mapError (Rejection.locate · (start p)) =
      Rejection.movedResult start f (x.mapError (Rejection.locate · p)) := by
  cases x <;> rfl

lemma OpenList.close_relabel (hm : m.OnlyMoves start) (l : OpenList) (readDate : DateReader) :
    (l.relabel m).close readDate =
      Rejection.movedResult start (·.relabel m) (l.close readDate) := by
  obtain ⟨call, opened, items⟩ := l
  cases call with
  | none =>
      simp only [close, relabel, Option.map_none]
      rw [← List.map_reverse, Expr.ofList_relabel, hm.start, mapError_locate_map]
  | some c =>
      obtain ⟨op, span⟩ := c
      simp only [close, relabel, Option.map_some]
      rw [← List.map_reverse, Expr.ofCall_relabel op _ span hm, hm.start, mapError_locate_map]

namespace Reading

variable (rd : Reading)

/-- What is wrong with a span is found where the span has moved. -/
lemma error_locate_span {α β : Type} (hm : m.OnlyMoves start) (f : α → β) (cause : Cause)
    (s : Span) :
    .error (.locate cause (m.span s).start) =
      Rejection.movedResult start f (.error (.locate cause s.start)) := by
  rw [hm.start]
  rfl

lemma unexpected_token (hm : m.OnlyMoves start) (t : Token) :
    unexpected (m.token t) =
      Rejection.movedResult start (·.relabel m) (unexpected t) := by
  rw [unexpected, Relabelling.token, hm.lexeme]
  exact error_locate_span hm _ _ t.span

lemma place_relabel (e : Expr) (stack : List OpenList) :
    Unfinished.place (e.relabel m) (stack.map (·.relabel m)) =
      (Unfinished.place e stack).relabel m := by
  cases stack <;> rfl

lemma enter_relabel (hm : m.OnlyMoves start) (call : Option (Operator × Span)) (opened : Span)
    (stack : List OpenList) :
    rd.enter (call.map fun c => (c.1, m.span c.2)) (m.span opened)
        (stack.map (·.relabel m)) =
      Rejection.movedResult start (·.relabel m) (rd.enter call opened stack) := by
  rw [enter, enter, List.length_map]
  split
  · exact error_locate_span hm _ _ opened
  · rfl

lemma operandStep_relabel (hm : m.OnlyMoves start) (stack : List OpenList) (t : Token) :
    rd.operandStep (stack.map (·.relabel m)) (m.token t) =
      Rejection.movedResult start (·.relabel m) (rd.operandStep stack t) := by
  have here := unexpected_token hm t
  have empty : (stack.map (·.relabel m)).head?.any (·.items.isEmpty) =
      stack.head?.any (·.items.isEmpty) := by
    cases stack <;> simp [OpenList.relabel]
  obtain ⟨lexeme, span⟩ := t
  rw [Relabelling.token, hm.lexeme] at here ⊢
  cases lexeme with
  | number n =>
      have placed := place_relabel (m := m) (.literal (.int n) span) stack
      rw [Expr.relabel, hm.value] at placed
      exact congrArg Except.ok placed
  | string s =>
      have placed := place_relabel (m := m) (.literal (.text s) span) stack
      rw [Expr.relabel, hm.value] at placed
      exact congrArg Except.ok placed
  | symbol name =>
      simp only [operandStep]
      cases rd.schema.fieldType? name with
      | some type => exact congrArg Except.ok (place_relabel (.column _ span) stack)
      | none => exact error_locate_span hm _ _ span
  | operator i =>
      simp only [operandStep]
      cases Operator.ofIndex? i with
      | some op => rfl
      | none => exact here
  | separator c =>
      simp only [operandStep, empty]
      split
      · exact rd.enter_relabel hm none span stack
      · split
        · exact error_locate_span hm _ _ span
        · exact here

/-- A token that has moved has the same effect, moved. -/
lemma step_relabel (hm : m.OnlyMoves start) (u : Unfinished) (t : Token) :
    rd.step (u.relabel m) (m.token t) =
      Rejection.movedResult start (·.relabel m) (rd.step u t) := by
  have here := unexpected_token hm t
  have lexeme : (m.token t).lexeme = t.lexeme := hm.lexeme _
  cases u with
  | operand stack => exact rd.operandStep_relabel hm stack t
  | parenthesis op span stack =>
      simp only [Unfinished.relabel, step, lexeme]
      split
      · exact rd.enter_relabel hm (some (op, span)) t.span stack
      · exact here
  | item inner stack =>
      simp only [Unfinished.relabel, step, lexeme]
      split
      · rw [inner.close_relabel hm]
        cases inner.close rd.schema.readDate with
        | error r => rfl
        | ok e => exact congrArg Except.ok (place_relabel e stack)
      · split
        · rfl
        · exact here
  | complete root => exact here

/-- Tokens that have moved have the same effect, moved. -/
theorem steps_relabel (hm : m.OnlyMoves start) (u : Unfinished) (ts : List Token) :
    rd.steps (u.relabel m) (ts.map m.token) =
      Rejection.movedResult start (·.relabel m) (rd.steps u ts) := by
  induction ts generalizing u with
  | nil => rfl
  | cons t ts ih =>
      rw [List.map_cons, steps, steps, rd.step_relabel hm]
      cases rd.step u t with
      | error r => rfl
      | ok v => exact ih v

/-- A stream without a fault is read as its tokens are. -/
lemma run_of_fault?_eq_none {u : Unfinished} {s : TokenStream} (whole : s.fault? = none) :
    rd.run u s = rd.steps u s.tokens := by
  rw [run_eq, whole]
  cases rd.steps u s.tokens <;> rfl

end Reading

/-! ### Parsing with blanks put in -/

namespace Insertion

variable (ins : Insertion)

lemma onlyMoves : ins.relabelling.OnlyMoves ins.start where
  value v := by cases v <;> rfl
  start _ := rfl

/-- What has moved is the same up to spans. -/
lemma spanless_relabel (e : Expr) : (e.relabel ins.relabelling).spanless = e.spanless :=
  Expr.relabel_relabel ins.relabelling .spanless e

/-- What has moved is the same condition. -/
lemma toSql_relabel (e : Expr) : (e.relabel ins.relabelling).toSql = e.toSql := by
  rw [Expr.toSql, Expr.renderInto, Expr.parts_relabel_of_value ins.onlyMoves.value]
  rfl

/-- A result of parsing behind the insertion. -/
def result : Except Rejection Expr → Except Rejection Expr :=
  Rejection.movedResult ins.start (·.relabel ins.relabelling)

end Insertion

namespace Compiler

/-- What is concluded in the end moves with what has been read. -/
lemma conclude_relabel (hm : m.OnlyMoves start) (length : Nat) (u : Unfinished) :
    conclude (start length) (u.relabel m) =
      Rejection.movedResult start (·.relabel m) (conclude length u) := by
  cases u with
  | complete root =>
      simp only [Unfinished.relabel, conclude, Expr.isPredicate, Expr.type_relabel,
        Expr.span_relabel]
      by_cases condition : root.type = .bool
      · simp only [condition, decide_true, if_true]
        rfl
      · simp only [condition, decide_false, Bool.false_eq_true, if_false]
        exact Reading.error_locate_span hm _ _ root.span
  | _ => rfl

/-- A text whose tokens are those of another one, moved, has the result of that one,
moved. -/
lemma parseAnyLength_shifts (c : Compiler) {ins : Insertion} {text text' : String}
    (whole : (filterLexicon.tokenize text).fault? = none)
    (shifts : ins.Shifts (filterLexicon.tokenize text) (filterLexicon.tokenize text'))
    (length : text'.length = ins.start text.length) :
    c.parseAnyLength text' = ins.result (c.parseAnyLength text) := by
  have read : c.reading.run (.operand []) (filterLexicon.tokenize text') =
      Rejection.movedResult ins.start (·.relabel ins.relabelling)
        (c.reading.run (.operand []) (filterLexicon.tokenize text)) := by
    rw [c.reading.run_of_fault?_eq_none whole, c.reading.run_of_fault?_eq_none shifts.whole,
      shifts.tokens]
    exact c.reading.steps_relabel ins.onlyMoves (.operand []) _
  rw [parseAnyLength, parseAnyLength, read, length]
  cases c.reading.run (.operand []) (filterLexicon.tokenize text) with
  | error r => rfl
  | ok u => exact conclude_relabel ins.onlyMoves text.length u

/-- With blanks put in between its tokens, a filter has the same tokens, moved. -/
lemma shifts_tokenize {front blanks back : String}
    (hblanks : ∀ b ∈ blanks.toList, isBlank b = true)
    (whole : (filterLexicon.tokenize (front ++ back)).fault? = none)
    (between : Insertion.Between ⟨front.length, blanks.length⟩
      (filterLexicon.tokenize (front ++ back)).tokens) :
    Insertion.Shifts ⟨front.length, blanks.length⟩ (filterLexicon.tokenize (front ++ back))
      (filterLexicon.tokenize (front ++ blanks ++ back)) := by
  have place : front.length = 0 + front.toList.length := by
    rw [String.length_toList, Nat.zero_add]
  rw [filterLexicon_tokenize, String.toList_append] at whole between
  rw [filterLexicon_tokenize, filterLexicon_tokenize, String.toList_append,
    String.toList_append, String.toList_append, List.append_assoc]
  exact Vocabulary.shifts_read_insert hblanks place String.length_toList.symm whole between

/-- **Layout matters to places only.** Blanks that are put into a text without a
lexical fault, not strictly inside of a token, leave the result of parsing as it is,
up to its places: starts and positions move with the character that stands there, and
ends with the character in front of them. So acceptance, the expression up to spans
and the condition stay, and so does what is wrong with the text. -/
theorem parse_insert {c : Compiler} (unlimited : c.maxLength = none)
    {front blanks back : String} (hblanks : ∀ b ∈ blanks.toList, isBlank b = true)
    (whole : (filterLexicon.tokenize (front ++ back)).fault? = none)
    (between : Insertion.Between ⟨front.length, blanks.length⟩
      (filterLexicon.tokenize (front ++ back)).tokens) :
    let ins : Insertion := ⟨front.length, blanks.length⟩
    c.parse (front ++ blanks ++ back) = ins.result (c.parse (front ++ back)) ∧
    (∀ e, c.parse (front ++ back) = .ok e →
      ∃ e', c.parse (front ++ blanks ++ back) = .ok e' ∧
        e'.spanless = e.spanless ∧ e'.toSql = e.toSql) ∧
    ∀ r, c.parse (front ++ back) = .error r →
      ∃ r', c.parse (front ++ blanks ++ back) = .error r' ∧ r'.cause = r.cause := by
  intro ins
  have any : ∀ text, c.parse text = c.parseAnyLength text := fun text =>
    parse_eq_parseAnyLength (by simp [unlimited])
  have length : (front ++ blanks ++ back).length = ins.start (front ++ back).length := by
    have behind : ins.place ≤ (front ++ back).length := by simp [ins]
    rw [Insertion.start_of_le behind]
    simp only [String.length_append, ins]
    omega
  have moved : c.parse (front ++ blanks ++ back) = ins.result (c.parse (front ++ back)) := by
    rw [any, any]
    exact c.parseAnyLength_shifts whole (shifts_tokenize hblanks whole between) length
  refine ⟨moved, fun e accepted => ?_, fun r rejected => ?_⟩
  · rw [accepted] at moved
    exact ⟨_, moved, ins.spanless_relabel e, ins.toSql_relabel e⟩
  · rw [rejected] at moved
    exact ⟨_, moved, rfl⟩

/-- With a line break between its operands, a filter has the same condition, of which
the second operand stands further back. -/
theorem parse_bornAfter_lines :
    people.parse "AND(LIKE(name,\"A%\"),\n\tGT(born,DATE(\"1990-01-31\")))" =
      .ok (.bornAfter "A%" ⟨1990, 1, 31, by decide⟩ 2) := by
  have blanks : ∀ b ∈ "\n\t".toList, isBlank b = true :=
    List.all_eq_true.mp (by decide +kernel)
  have whole : (filterLexicon.tokenize
      ("AND(LIKE(name,\"A%\")," ++ "GT(born,DATE(\"1990-01-31\")))")).fault? = none := by
    decide +kernel
  have unlimited : people.maxLength = none := rfl
  have parsed := (parse_insert unlimited blanks whole (by decide +kernel)).1
  exact parsed.trans (congrArg _ parse_bornAfter)

end Compiler

end RowFilter
