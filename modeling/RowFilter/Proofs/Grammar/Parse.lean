/-
A text is accepted exactly when its tokens derive a condition.

* `steps_of_derives`: what is derived is read, wherever an expression has to
  come and parentheses nest within the bound.
* `derives_prefix_unique`: tokens that derive an expression derive no other
  one, and are no proper beginning of tokens that derive one.
* `parse_eq_ok_iff_derives`: parsing a text succeeds with an expression
  exactly when the text has no lexical fault and its tokens derive that
  expression, which is a condition, with nesting within the bound.
-/
import RowFilter.Compiler
import RowFilter.Proofs.Grammar.Soundness

namespace RowFilter

namespace Reading

variable {rd : Reading} {u v : Unfinished} {t : Token} {ts us : List Token}

/-! ### Reading what is derived -/

lemma steps_cons_of_step (h : rd.step u t = .ok v) :
    rd.steps u (t :: ts) = rd.steps v ts := by
  rw [steps, h]

lemma steps_append_of_steps (h : rd.steps u ts = .ok v) :
    rd.steps u (ts ++ us) = rd.steps v us := by
  rw [steps_append, h]
  rfl

/-- Items that are read one by one are read together, with the commas between
them. -/
lemma steps_items {items : List (List Token × Expr)} {body : List Token}
    {stack : List OpenList} (l : OpenList)
    (hbody : CommaSeparated (items.map Prod.fst) body)
    (hitems : ∀ i ∈ items, ∀ stack : List OpenList,
      NestsWithin rd.maxDepth stack.length i.1 →
        rd.steps (.operand stack) i.1 = .ok (.place i.2 stack))
    (hbal : ∀ i ∈ items, ∀ depth, unclosed depth i.1 = depth)
    (hnest : NestsWithin rd.maxDepth (stack.length + 1) body) :
    rd.steps (.operand (l :: stack)) body =
      .ok (.item { l with items := (items.map Prod.snd).reverse ++ l.items }
        stack) := by
  induction items generalizing l body with
  | nil => cases hbody
  | cons i items ih =>
      have first := hitems i (by simp) (l :: stack)
      generalize hmap : List.map Prod.fst (i :: items) = tss at hbody
      cases hbody with
      | single =>
          obtain ⟨rfl, hnil⟩ := List.cons.inj hmap
          obtain rfl := List.map_eq_nil_iff.mp hnil
          simpa [Unfinished.place] using first hnest
      | @cons us comma tss rest hcomma hrest =>
          obtain ⟨rfl, rfl⟩ := List.cons.inj hmap
          obtain ⟨hnest₁, hnest₂⟩ := nestsWithin_append.mp hnest
          have htail := (nestsWithin_cons.mp hnest₂).2
          rw [hbal i (by simp), Token.nest_other (by simp [hcomma]) (by simp [hcomma])]
            at htail
          have hstep : rd.step
              (.item { l with items := i.2 :: l.items } stack) comma =
              .ok (.operand ({ l with items := i.2 :: l.items } :: stack)) := by
            simp [step, hcomma]
          rw [steps_append_of_steps (first hnest₁), Unfinished.place,
            steps_cons_of_step hstep,
            ih { l with items := i.2 :: l.items } hrest
              (fun j hj => hitems j (by simp [hj]))
              (fun j hj => hbal j (by simp [hj])) htail]
          simp

/-- Behind its items, a closing parenthesis makes a list an expression. -/
lemma steps_closing {l : OpenList} {stack : List OpenList} {closing : Token}
    {e : Expr} (hclosing : closing.lexeme = .separator ')')
    (h : l.close rd.schema.readDate = .ok e) :
    rd.steps (.item l stack) [closing] = .ok (.place e stack) := by
  have hstep : rd.step (.item l stack) closing = .ok (.place e stack) := by
    simp [step, hclosing, h, Except.map]
  rw [steps_cons_of_step hstep, steps]

/-- What is derived is read where an expression has to come. -/
lemma steps_of_derives {e : Expr} (h : Derives rd.schema ts e) :
    ∀ stack : List OpenList, NestsWithin rd.maxDepth stack.length ts →
      rd.steps (.operand stack) ts = .ok (.place e stack) := by
  induction h with
  | number | string => exact fun stack _ => rfl
  | column span hty =>
      intro stack _
      refine @steps_cons_of_step rd _ _ _ [] ?_
      simp [step, operandStep, hty]
  | @list opening closing items body type ho hc hitems hbody hsame hty ih =>
      intro stack hnest
      obtain ⟨hlt, hrest⟩ := nestsWithin_cons.mp hnest
      rw [Token.nest_opening ho] at hrest
      have hstep : rd.step (.operand stack) opening =
          .ok (.operand (⟨none, opening.span, []⟩ :: stack)) := by
        simp [step, operandStep, ho, enter, Nat.not_le.mpr (hlt ho)]
      have hbal : ∀ i ∈ items, ∀ depth, unclosed depth i.1 = depth :=
        fun i hi => (hitems i hi).balanced
      have hclose : OpenList.close
          ⟨none, opening.span, (items.map Prod.snd).reverse ++ []⟩
          rd.schema.readDate =
          .ok (.list type (items.map Prod.snd) opening.span) := by
        refine except_mapError_eq_ok_iff.mpr (Expr.ofList_eq_ok_iff.mpr ?_)
        refine ⟨?_, type, ?_, hty, ?_⟩
        · intro hnil
          simp only [List.append_nil, List.reverse_reverse,
            List.map_eq_nil_iff] at hnil
          subst hnil
          cases hbody
        · intro a ha
          obtain ⟨i, hi, rfl⟩ : ∃ i ∈ items, i.2 = a := by simpa using ha
          exact hsame i hi
        · simp
      rw [steps_cons_of_step hstep,
        steps_append_of_steps (steps_items ⟨none, opening.span, []⟩ hbody ih hbal
          (nestsWithin_append.mp hrest).1)]
      exact steps_closing hc hclose
  | @call index op span opening closing items body e hop ho hc hitems hbody
      happ ih =>
      intro stack hnest
      obtain ⟨-, hnest'⟩ := nestsWithin_cons.mp hnest
      rw [Token.nest_other (by simp) (by simp)] at hnest'
      obtain ⟨hlt, hrest⟩ := nestsWithin_cons.mp hnest'
      rw [Token.nest_opening ho] at hrest
      have hstep₁ : rd.step (.operand stack) ⟨.operator index, span⟩ =
          .ok (.parenthesis op span stack) := by
        simp [step, operandStep, hop]
      have hstep₂ : rd.step (.parenthesis op span stack) opening =
          .ok (.operand (⟨some (op, span), opening.span, []⟩ :: stack)) := by
        simp [step, ho, enter, Nat.not_le.mpr (hlt ho)]
      have hbal : ∀ i ∈ items, ∀ depth, unclosed depth i.1 = depth :=
        fun i hi => (hitems i hi).balanced
      have hclose : OpenList.close
          ⟨some (op, span), opening.span, (items.map Prod.snd).reverse ++ []⟩
          rd.schema.readDate = .ok e := by
        refine except_mapError_eq_ok_iff.mpr (Expr.ofCall_eq_ok_iff.mpr ?_)
        simpa using happ
      rw [steps_cons_of_step hstep₁, steps_cons_of_step hstep₂,
        steps_append_of_steps (steps_items ⟨some (op, span), opening.span, []⟩
          hbody ih hbal (nestsWithin_append.mp hrest).1)]
      exact steps_closing hc hclose

end Reading

/-! ### Unambiguity -/

/-- Tokens that derive an expression derive no other one, and no longer
tokens that begin with them derive any. -/
lemma derives_prefix_unique {s : Schema} {ts us : List Token} {e f : Expr}
    (he : Derives s ts e) (hf : Derives s (ts ++ us) f) : us = [] ∧ f = e := by
  -- a reader with room for all parentheses reads both
  have hnest := nestsWithin_length (ts ++ us)
  let rd : Reading := ⟨s, (ts ++ us).length⟩
  have hshort : rd.steps (.operand []) ts = .ok (.complete e) :=
    Reading.steps_of_derives he [] (nestsWithin_append.mp hnest).1
  have hlong : rd.steps (.operand []) (ts ++ us) = .ok (.complete f) :=
    Reading.steps_of_derives hf [] hnest
  rw [Reading.steps_append_of_steps hshort] at hlong
  cases us with
  | nil =>
      cases hlong
      exact ⟨rfl, rfl⟩
  | cons t us => cases hlong

/-! ### Parsing -/

namespace Compiler

/-- A condition is concluded exactly from a complete expression of that
type. -/
lemma conclude_eq_ok_iff {length : Nat} {u : Unfinished} {e : Expr} :
    conclude length u = .ok e ↔ u = .complete e ∧ e.type = .bool := by
  cases u with
  | complete root =>
      by_cases h : root.type = .bool
      · simp only [conclude, Expr.isPredicate, h, decide_true, if_true]
        constructor
        · intro he
          cases he
          exact ⟨rfl, h⟩
        · rintro ⟨he, -⟩
          cases he
          rfl
      · simp only [conclude, Expr.isPredicate, h, decide_false,
          Bool.false_eq_true, if_false]
        constructor
        · intro he
          cases he
        · rintro ⟨he, hty⟩
          cases he
          exact absurd hty h
  | _ => simp [conclude]

/-- A text without a limit on its length is accepted exactly when it has no
fault and all its tokens are read as one condition. -/
lemma parseAnyLength_eq_ok_iff {c : Compiler} {text : String} {e : Expr} :
    c.parseAnyLength text = .ok e ↔
      ∃ ts, (filterLexicon.tokenize text).toExcept = .ok ts ∧
        c.reading.steps (.operand []) ts = .ok (.complete e) ∧
        e.type = .bool := by
  cases hrun : c.reading.run (.operand []) (filterLexicon.tokenize text) with
  | error r =>
      rw [parseAnyLength_of_run_error hrun]
      constructor
      · intro h
        cases h
      · rintro ⟨ts, hts, hread, -⟩
        obtain ⟨whole, rfl⟩ := TokenStream.toExcept_eq_ok_iff.mp hts
        rw [Reading.run_eq_ok_iff.mpr ⟨whole, hread⟩] at hrun
        cases hrun
  | ok u =>
      obtain ⟨whole, hsteps⟩ := Reading.run_eq_ok_iff.mp hrun
      rw [parseAnyLength_of_run hrun, conclude_eq_ok_iff]
      constructor
      · rintro ⟨rfl, hty⟩
        exact ⟨_, TokenStream.toExcept_eq_ok_iff.mpr ⟨whole, rfl⟩, hsteps, hty⟩
      · rintro ⟨ts, hts, hread, hty⟩
        obtain ⟨-, rfl⟩ := TokenStream.toExcept_eq_ok_iff.mp hts
        rw [hsteps] at hread
        exact ⟨Except.ok.inj hread, hty⟩

/-- Reading all of a token list from the start makes an expression exactly
when the tokens derive it and nest within the bound. -/
lemma steps_eq_complete_iff {rd : Reading} {ts : List Token} {e : Expr} :
    rd.steps (.operand []) ts = .ok (.complete e) ↔
      Derives rd.schema ts e ∧ NestsWithin rd.maxDepth 0 ts := by
  constructor
  · intro h
    have start : (Unfinished.operand []).Reads rd.schema [] := .nil
    exact ⟨Reading.reads_steps start h, Reading.nestsWithin_of_steps h⟩
  · rintro ⟨hderives, hnest⟩
    exact Reading.steps_of_derives hderives [] hnest

/-- **The parser accepts its typed grammar.** Without a limit on its length, a
text stands for an expression exactly when it has no lexical fault and its
tokens, all of them, derive that expression, which is a condition, with
parentheses nested within the bound. What derives an expression derives no
other one, and no longer tokens that begin with it derive any. -/
theorem parse_eq_ok_iff_derives (s : Schema) (maxDepth : Nat) (text : String)
    (e : Expr) :
    (({ schema := s, maxDepth } : Compiler).parse text = .ok e ↔
      ∃ ts, (filterLexicon.tokenize text).toExcept = .ok ts ∧ Derives s ts e ∧
        NestsWithin maxDepth 0 ts ∧ e.type = .bool) ∧
    ∀ ts us e₁ e₂, Derives s ts e₁ → Derives s (ts ++ us) e₂ →
      us = [] ∧ e₂ = e₁ := by
  refine ⟨?_, fun ts us e₁ e₂ h₁ h₂ => derives_prefix_unique h₁ h₂⟩
  change parseAnyLength { schema := s, maxDepth } text = .ok e ↔ _
  rw [parseAnyLength_eq_ok_iff]
  refine exists_congr fun ts => and_congr_right fun _ => ?_
  rw [steps_eq_complete_iff, and_assoc]
  rfl

end Compiler

end RowFilter
