/-
What has been read is derived by the grammar.

* `OpenedBy`, `OpenList.Holds`, `OpenList.Awaits`: the tokens that an open
  list stands for, from its operator or parenthesis on.
* `Unfinished.Reads`: the tokens that a state of the reader stands for. It is
  the invariant of reading.
* `reads_place`: the invariant when an expression takes its place.
* `reads_step`, `reads_steps`: one token, and a list of tokens, extend what
  the state stands for by themselves.
* `depth_step`, `nestsWithin_of_steps`: the reader has as many lists open as
  there are parentheses, and opens none beyond its bound.
-/
import RowFilter.Expr.Unfinished
import RowFilter.Proofs.Grammar.Operands

namespace RowFilter

variable {s : Schema}

/-! ### What a state stands for -/

/-- The tokens that open a list: those of its operator, if it has one, and
its parenthesis. -/
inductive OpenedBy : Option (Operator × Span) → Span → List Token → Prop where
  | list {opening : Token} :
      opening.lexeme = .separator '(' → OpenedBy none opening.span [opening]
  | call {index : Nat} {op : Operator} {span : Span} {opening : Token} :
      Operator.ofIndex? index = some op → opening.lexeme = .separator '(' →
      OpenedBy (some (op, span)) opening.span [⟨.operator index, span⟩, opening]

namespace OpenList

/-- The tokens of an open list with an item or more, behind the last item. -/
def Holds (s : Schema) (l : OpenList) (ts : List Token) : Prop :=
  ∃ (opening : List Token) (items : List (List Token × Expr))
      (body : List Token), OpenedBy l.call l.opened opening ∧
    (∀ i ∈ items, Derives s i.1 i.2) ∧ items.map Prod.snd = l.items.reverse ∧
    CommaSeparated (items.map Prod.fst) body ∧ ts = opening ++ body

/-- The tokens of an open list where an item has to come: behind its
parenthesis, or behind a comma. -/
def Awaits (s : Schema) (l : OpenList) (ts : List Token) : Prop :=
  (l.items = [] ∧ OpenedBy l.call l.opened ts) ∨
    ∃ us comma, l.Holds s us ∧ comma.lexeme = .separator ',' ∧ ts = us ++ [comma]

end OpenList

/-- The tokens of open lists, the innermost list first, all of which await an
item. -/
inductive StackReads (s : Schema) : List OpenList → List Token → Prop where
  | nil : StackReads s [] []
  | cons {l : OpenList} {stack : List OpenList} {ts us : List Token} :
      StackReads s stack ts → l.Awaits s us →
      StackReads s (l :: stack) (ts ++ us)

/-- The tokens that a state of the reader stands for. -/
def Unfinished.Reads (s : Schema) : Unfinished → List Token → Prop
  | .operand stack, ts => StackReads s stack ts
  | .parenthesis op span stack, ts =>
    ∃ us index, StackReads s stack us ∧ Operator.ofIndex? index = some op ∧
      ts = us ++ [⟨.operator index, span⟩]
  | .item inner stack, ts =>
    ∃ us vs, StackReads s stack us ∧ inner.Holds s vs ∧ ts = us ++ vs
  | .complete root, ts => Derives s ts root

/-! ### Items -/

/-- A comma and one more item extend separated items. -/
lemma CommaSeparated.concat {tss : List (List Token)} {ts us : List Token}
    {comma : Token} (h : CommaSeparated tss ts)
    (hcomma : comma.lexeme = .separator ',') :
    CommaSeparated (tss ++ [us]) (ts ++ comma :: us) := by
  induction h with
  | single vs => exact .cons hcomma (.single us)
  | @cons vs comma' tss rest hcomma' _ ih =>
      rw [List.cons_append, List.append_assoc, List.cons_append]
      exact .cons hcomma' ih

namespace OpenList

/-- An item that comes where one is awaited is held. -/
lemma Awaits.push {l : OpenList} {ts us : List Token} {e : Expr}
    (h : l.Awaits s ts) (he : Derives s us e) :
    Holds s { l with items := e :: l.items } (ts ++ us) := by
  rcases h with ⟨none, hopen⟩ | ⟨vs, comma, ⟨opening, items, body, hopen, hitems,
    hmap, hbody, rfl⟩, hcomma, rfl⟩
  · refine ⟨ts, [(us, e)], us, hopen, ?_, ?_, .single us, rfl⟩
    · simpa using he
    · simp [none]
  · refine ⟨opening, items ++ [(us, e)], body ++ comma :: us, hopen, ?_, ?_, ?_, ?_⟩
    · intro i hi
      rcases List.mem_append.mp hi with hi | hi
      · exact hitems i hi
      · obtain rfl := List.mem_singleton.mp hi
        exact he
    · simp [hmap]
    · simpa using hbody.concat hcomma
    · simp

/-- Closing a list derives the expression that it makes. -/
lemma Holds.close {l : OpenList} {ts : List Token} {closing : Token} {e : Expr}
    (h : l.Holds s ts) (hclosing : closing.lexeme = .separator ')')
    (hclose : l.close s.readDate = .ok e) : Derives s (ts ++ [closing]) e := by
  obtain ⟨opening, items, body, hopen, hitems, hmap, hbody, rfl⟩ := h
  obtain ⟨call, opened, rev⟩ := l
  simp only [OpenList.close] at hclose
  cases hopen with
  | list ho =>
      obtain ⟨-, type, same, hty, rfl⟩ :=
        Expr.ofList_eq_ok_iff.mp (except_mapError_eq_ok_iff.mp hclose)
      rw [← hmap] at same ⊢
      exact .list ho hclosing hitems hbody
        (fun i hi => same i.2 (List.mem_map_of_mem hi)) hty
  | call hop ho =>
      have applies := Expr.ofCall_eq_ok_iff.mp (except_mapError_eq_ok_iff.mp hclose)
      rw [← hmap] at applies
      exact .call hop ho hclosing hitems hbody applies

end OpenList

/-! ### Reading -/

/-- An expression takes its place behind the tokens that await it. -/
lemma reads_place {stack : List OpenList} {ts us : List Token} {e : Expr}
    (h : StackReads s stack ts) (he : Derives s us e) :
    (Unfinished.place e stack).Reads s (ts ++ us) := by
  cases h with
  | nil => exact he
  | @cons l stack ts vs hstack hawaits =>
      exact ⟨ts, vs ++ us, hstack, hawaits.push he, List.append_assoc ..⟩

namespace Reading

variable {rd : Reading} {u v : Unfinished} {t : Token} {ts us : List Token}

/-- A list is entered behind the tokens that open it. -/
lemma reads_enter {call : Option (Operator × Span)} {opened : Span}
    {stack : List OpenList} {opening : List Token}
    (hstack : StackReads rd.schema stack ts) (hopen : OpenedBy call opened opening)
    (h : rd.enter call opened stack = .ok v) :
    v.Reads rd.schema (ts ++ opening) := by
  rw [enter] at h
  split at h
  · cases h
  · obtain rfl := Except.ok.inj h
    exact .cons hstack (.inl ⟨rfl, hopen⟩)

/-- A token where an expression has to come extends what was read. -/
lemma reads_operandStep {stack : List OpenList}
    (hstack : StackReads rd.schema stack ts)
    (h : rd.operandStep stack t = .ok v) : v.Reads rd.schema (ts ++ [t]) := by
  obtain ⟨lexeme, span⟩ := t
  cases lexeme with
  | number n =>
      obtain rfl := Except.ok.inj h
      exact reads_place hstack (.number n span)
  | string text =>
      obtain rfl := Except.ok.inj h
      exact reads_place hstack (.string text span)
  | symbol name =>
      simp only [operandStep] at h
      split at h
      · next type hty =>
        obtain rfl := Except.ok.inj h
        exact reads_place hstack (.column span hty)
      · cases h
  | operator index =>
      simp only [operandStep] at h
      split at h
      · next op hop =>
        obtain rfl := Except.ok.inj h
        exact ⟨ts, index, hstack, hop, rfl⟩
      · cases h
  | separator c =>
      simp only [operandStep] at h
      split at h
      · next hc =>
        exact reads_enter hstack (.list (by rw [hc])) h
      · split at h <;> cases h

/-- One token extends what the state stands for by itself. -/
lemma reads_step (hu : u.Reads rd.schema ts) (h : rd.step u t = .ok v) :
    v.Reads rd.schema (ts ++ [t]) := by
  cases u with
  | operand stack => exact reads_operandStep hu h
  | parenthesis op span stack =>
      obtain ⟨us, index, hstack, hop, rfl⟩ := hu
      simp only [step] at h
      split at h
      · next ht =>
        rw [List.append_assoc]
        exact reads_enter hstack (.call hop ht) h
      · cases h
  | item inner stack =>
      obtain ⟨us, vs, hstack, hinner, rfl⟩ := hu
      simp only [step] at h
      split at h
      · next ht =>
        obtain ⟨e, he, rfl⟩ := except_map_eq_ok_iff.mp h
        rw [List.append_assoc]
        exact reads_place hstack (hinner.close ht he)
      · split at h
        · next ht =>
          obtain rfl := Except.ok.inj h
          rw [List.append_assoc]
          exact .cons hstack (.inr ⟨vs, t, hinner, ht, rfl⟩)
        · cases h
  | complete root => cases h

/-- A list of tokens extends what the state stands for by itself. -/
lemma reads_steps (hu : u.Reads rd.schema ts) (h : rd.steps u us = .ok v) :
    v.Reads rd.schema (ts ++ us) := by
  induction us generalizing u ts with
  | nil =>
      obtain rfl := Except.ok.inj h
      rwa [List.append_nil]
  | cons t us ih =>
      rw [steps] at h
      split at h
      · cases h
      · next u' hstep =>
        have next := ih (reads_step hu hstep) h
        rwa [List.append_assoc, List.singleton_append] at next

end Reading

/-! ### Nesting -/

/-- The number of lists that are open in a state of the reader. -/
def Unfinished.depth : Unfinished → Nat
  | .operand stack => stack.length
  | .parenthesis _ _ stack => stack.length
  | .item _ stack => stack.length + 1
  | .complete _ => 0

lemma Unfinished.depth_place (e : Expr) (stack : List OpenList) :
    (Unfinished.place e stack).depth = stack.length := by
  cases stack <;> rfl

namespace Reading

variable {rd : Reading} {u v : Unfinished} {t : Token} {ts : List Token}

lemma depth_enter {call : Option (Operator × Span)} {opened : Span}
    {stack : List OpenList} (h : rd.enter call opened stack = .ok v) :
    stack.length < rd.maxDepth ∧ v.depth = stack.length + 1 := by
  rw [enter] at h
  split at h
  · cases h
  · next hlt =>
    obtain rfl := Except.ok.inj h
    exact ⟨Nat.lt_of_not_le hlt, rfl⟩

/-- A token that is no parenthesis keeps the number of open lists. -/
lemma depth_of_other {d : Nat} (ho : t.lexeme ≠ .separator '(')
    (hc : t.lexeme ≠ .separator ')') (hv : v.depth = d) :
    v.depth = t.nest d ∧ (t.lexeme = .separator '(' → d < rd.maxDepth) :=
  ⟨by rw [t.nest_other ho hc, hv], fun h => absurd h ho⟩

/-- A parenthesis that is entered opens one more list, within the bound. -/
lemma depth_of_enter {call : Option (Operator × Span)} {opened : Span}
    {stack : List OpenList} (ht : t.lexeme = .separator '(')
    (h : rd.enter call opened stack = .ok v) :
    v.depth = t.nest stack.length ∧
      (t.lexeme = .separator '(' → stack.length < rd.maxDepth) := by
  obtain ⟨hlt, hv⟩ := depth_enter h
  exact ⟨by rw [Token.nest_opening ht, hv], fun _ => hlt⟩

lemma depth_operandStep {stack : List OpenList}
    (h : rd.operandStep stack t = .ok v) :
    v.depth = t.nest stack.length ∧
      (t.lexeme = .separator '(' → stack.length < rd.maxDepth) := by
  obtain ⟨lexeme, span⟩ := t
  cases lexeme with
  | number | string =>
      obtain rfl := Except.ok.inj h
      exact depth_of_other (by simp) (by simp) (Unfinished.depth_place ..)
  | symbol name =>
      simp only [operandStep] at h
      split at h
      · obtain rfl := Except.ok.inj h
        exact depth_of_other (by simp) (by simp) (Unfinished.depth_place ..)
      · cases h
  | operator index =>
      simp only [operandStep] at h
      split at h
      · obtain rfl := Except.ok.inj h
        exact depth_of_other (by simp) (by simp) rfl
      · cases h
  | separator c =>
      simp only [operandStep] at h
      split at h
      · next hc => exact depth_of_enter (by rw [hc]) h
      · split at h <;> cases h

/-- A token changes the number of open lists as it changes that of open
parentheses, and a parenthesis is opened only within the bound. -/
lemma depth_step (h : rd.step u t = .ok v) :
    v.depth = t.nest u.depth ∧
      (t.lexeme = .separator '(' → u.depth < rd.maxDepth) := by
  cases u with
  | operand stack => exact depth_operandStep h
  | parenthesis op span stack =>
      simp only [step] at h
      split at h
      · next ht => exact depth_of_enter ht h
      · cases h
  | item inner stack =>
      simp only [step] at h
      split at h
      · next ht =>
        obtain ⟨e, -, rfl⟩ := except_map_eq_ok_iff.mp h
        refine ⟨?_, fun ho => by rw [ht] at ho; cases ho⟩
        rw [Token.nest_closing ht, Unfinished.depth_place]
        rfl
      · next hc =>
        split at h
        · next ht =>
          obtain rfl := Except.ok.inj h
          exact depth_of_other (by simp [ht]) hc rfl
        · cases h
  | complete root => cases h

/-- Tokens that are read nest within the bound. -/
lemma nestsWithin_of_steps (h : rd.steps u ts = .ok v) :
    NestsWithin rd.maxDepth u.depth ts := by
  induction ts generalizing u with
  | nil => exact nestsWithin_nil rd.maxDepth u.depth
  | cons t ts ih =>
      rw [steps] at h
      split at h
      · cases h
      · next u' hstep =>
        obtain ⟨hdepth, hopen⟩ := depth_step hstep
        refine nestsWithin_cons.mpr ⟨hopen, ?_⟩
        rw [← hdepth]
        exact ih h

end Reading

end RowFilter
