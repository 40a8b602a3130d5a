/-
The nodes of a compiled tree, and the tokens at which they stand.

* `Expr.nodes`: the nodes of an expression, each in front of those below it, and
  `nodes_eq`: they are listed operand by operand.
* `Expr.token`: the token at which a node stands.
* `Outlines`: tokens from a list of tokens, in its order, with all of its operators.
* `Derives.outlines`: the tokens of the nodes of an expression outline the tokens that
  it is derived from.
* `Derives.of_descends`: every node is derived from a stretch of these tokens.
* `Expr.Placed`: how the nodes of a tree stand in a text.
* `placed_of_parse`: the nodes of the tree that a text is parsed as stand so.
-/
import Mathlib.Data.List.Nodup
import RowFilter.Proofs.Lexing.Lossless
import RowFilter.Proofs.LiteralIndependence
import RowFilter.Proofs.Written

namespace RowFilter

namespace Expr

/-! ### Nodes -/

mutual

/-- The nodes of an expression, each in front of those below it. -/
def nodes : Expr → List Expr
  | .literal v s => [.literal v s]
  | .list t items s => .list t items s :: nodesOfAll items
  | .column c s => [.column c s]
  | .not arg s => .not arg s :: arg.nodes
  | .compare op left right s =>
    .compare op left right s :: (left.nodes ++ right.nodes)
  | .isIn left right s => .isIn left right s :: (left.nodes ++ right.nodes)
  | .like c pattern s => [.like c pattern s]
  | .anyLike c pattern s => [.anyLike c pattern s]
  | .junction kind args s => .junction kind args s :: nodesOfAll args

/-- The nodes of several expressions, one expression after the other. -/
def nodesOfAll : List Expr → List Expr
  | [] => []
  | e :: es => e.nodes ++ nodesOfAll es

end

lemma nodesOfAll_eq_flatMap (es : List Expr) : nodesOfAll es = es.flatMap nodes := by
  induction es with
  | nil => rfl
  | cons e es ih => rw [nodesOfAll, ih, List.flatMap_cons]

/-- An expression comes first, and then the nodes of its operands, one operand after the
other. -/
lemma nodes_eq (e : Expr) : e.nodes = e :: e.operands.flatMap nodes := by
  cases e with
  | list | junction => rw [nodes, nodesOfAll_eq_flatMap, operands]
  | not | compare | isIn => simp [nodes, operands]
  | _ => rfl

/-- The nodes are what ways lead down to. -/
lemma exists_descends_of_mem_nodes {e node : Expr} (h : node ∈ e.nodes) :
    ∃ n, Descends n e node := by
  -- operands stand in fewer parentheses
  induction hk : e.nesting using Nat.strong_induction_on generalizing e with
  | _ k ih =>
      rw [nodes_eq] at h
      rcases List.mem_cons.mp h with rfl | h
      · exact ⟨0, .here node⟩
      · obtain ⟨operand, ho, h⟩ := List.mem_flatMap.mp h
        obtain ⟨n, way⟩ := ih operand.nesting (hk ▸ nesting_lt_of_mem_operands ho) h rfl
        exact ⟨n + 1, .down ho way⟩

/-! ### The token of a node -/

/-- What the token is at which a node stands: the literal itself, the name of the column,
the parenthesis that opens the list, or else the operator that the node applies. -/
def lexeme : Expr → Lexeme
  | .literal (.int n) _ => .number n
  | .literal (.text s) _ => .string s
  | .literal (.date _) _ => .operator Operator.date.index
  | .list .. => .separator '('
  | .column c _ => .symbol c.name
  | .not .. => .operator Operator.not.index
  | .compare op .. => .operator op.operator.index
  | .isIn .. => .operator Operator.isIn.index
  | .like .. => .operator Operator.like.index
  | .anyLike .. => .operator Operator.anyLike.index
  | .junction kind .. => .operator kind.operator.index

/-- The token at which a node stands. -/
def token (e : Expr) : Token := ⟨e.lexeme, e.span⟩

end Expr

open RowFilter.Expr (Descends nodes)

/-! ### Outlines -/

/-- Whether a token is an operator. -/
def Token.isOperator (t : Token) : Bool :=
  match t.lexeme with
  | .operator _ => true
  | _ => false

/-- The tokens `us` are from the list `ts`, in its order, and no operator is left out. -/
structure Outlines (us ts : List Token) : Prop where
  sublist : us.Sublist ts
  operators : us.filter Token.isOperator = ts.filter Token.isOperator

namespace Outlines

variable {us us' ts ts' : List Token} {t : Token}

lemma refl (ts : List Token) : Outlines ts ts := ⟨.refl ts, rfl⟩

lemma trans (h : Outlines us ts) (h' : Outlines ts ts') : Outlines us ts' :=
  ⟨h.sublist.trans h'.sublist, h.operators.trans h'.operators⟩

lemma append (h : Outlines us ts) (h' : Outlines us' ts') :
    Outlines (us ++ us') (ts ++ ts') :=
  ⟨h.sublist.append h'.sublist, by
    rw [List.filter_append, List.filter_append, h.operators, h'.operators]⟩

lemma cons (t : Token) (h : Outlines us ts) : Outlines (t :: us) (t :: ts) :=
  (refl [t]).append h

/-- What is no operator may be left out. -/
lemma skip (ht : t.isOperator = false) (h : Outlines us ts) : Outlines us (t :: ts) :=
  ⟨h.sublist.cons t, by rw [List.filter_cons_of_neg (by simp [ht]), h.operators]⟩

/-- No operator is left out. -/
lemma mem (h : Outlines us ts) (ht : t ∈ ts) (hop : t.isOperator = true) : t ∈ us := by
  have kept : t ∈ us.filter Token.isOperator := by
    rw [h.operators]
    exact List.mem_filter.mpr ⟨ht, hop⟩
  exact (List.mem_filter.mp kept).1

/-- Outlines of several lists make an outline of all. -/
lemma flatMap {α : Type} {xs : List α} {f g : α → List Token}
    (h : ∀ x ∈ xs, Outlines (f x) (g x)) : Outlines (xs.flatMap f) (xs.flatMap g) := by
  induction xs with
  | nil => exact refl []
  | cons x xs ih =>
      obtain ⟨first, others⟩ := List.forall_mem_cons.mp h
      exact first.append (ih others)

end Outlines

lemma Token.isOperator_separator {t : Token} {c : Char} (h : t.lexeme = .separator c) :
    t.isOperator = false := by
  rw [isOperator, h]

/-- Items are outlined without the commas between them. -/
lemma CommaSeparated.outlines {tss : List (List Token)} {ts : List Token}
    (h : CommaSeparated tss ts) : Outlines tss.flatten ts := by
  induction h with
  | single us => simpa using Outlines.refl us
  | cons hcomma _ ih =>
      exact (Outlines.refl _).append (ih.skip (Token.isOperator_separator hcomma))

/-! ### Derivations -/

lemma Operator.index_of_ofIndex? {i : Nat} {op : Operator} (h : ofIndex? i = some op) :
    op.index = i := by
  obtain ⟨bound, rfl⟩ := List.getElem?_eq_some_iff.mp h
  exact List.Nodup.idxOf_getElem (by decide) i bound

/-- An operator stands in front of its operands. Those that are no operands of the
expression any more are no operators. -/
lemma Applies.outlines {readDate : DateReader} {op : Operator} {args : List Expr}
    {span : Span} {e : Expr} (h : Applies readDate op args span e) :
    e.token = ⟨.operator op.index, span⟩ ∧
      Outlines ((e.operands.flatMap nodes).map Expr.token)
        ((args.flatMap nodes).map Expr.token) := by
  cases h with
  | @compare _ c left right _ hc _ =>
      have same : op = c.operator := by cases op <;> cases hc <;> rfl
      exact ⟨by rw [same]; rfl, .refl _⟩
  | isIn | and | or | not => exact ⟨rfl, .refl _⟩
  | like | anyLike | date => exact ⟨rfl, List.nil_sublist _, rfl⟩

/-- The tokens of the nodes of items outline the items with the commas between them. -/
lemma CommaSeparated.outlines_nodes {items : List (List Token × Expr)} {body : List Token}
    (hbody : CommaSeparated (items.map Prod.fst) body)
    (ih : ∀ i ∈ items, Outlines (i.2.nodes.map Expr.token) i.1) :
    Outlines (((items.map Prod.snd).flatMap nodes).map Expr.token) body := by
  have each := Outlines.flatMap ih
  rw [← List.map_flatMap, ← List.flatMap_map] at each
  exact each.trans hbody.outlines

/-- The tokens of the nodes of an expression outline the tokens that it is derived
from. -/
theorem Derives.outlines {s : Schema} {ts : List Token} {e : Expr} (h : Derives s ts e) :
    Outlines (e.nodes.map Expr.token) ts := by
  -- a parenthesis at the end is left out
  have closed : ∀ {us body : List Token} {closing : Token},
      closing.lexeme = .separator ')' → Outlines us body →
      Outlines us (body ++ [closing]) := by
    intro us body closing hc hbody
    have last : Outlines [] [closing] :=
      (Outlines.refl []).skip (Token.isOperator_separator hc)
    simpa using hbody.append last
  induction h with
  | number | string | column => exact .refl _
  | @list opening closing items body type ho hc _ hbody _ _ ih =>
      have first : Expr.token (.list type (items.map Prod.snd) opening.span) = opening :=
        congrArg (Token.mk · opening.span) ho.symm
      rw [Expr.nodes_eq, List.map_cons, first]
      exact (closed hc (hbody.outlines_nodes ih)).cons opening
  | @call index op span opening closing items body e hop ho hc _ hbody happ ih =>
      obtain ⟨first, operands⟩ := happ.outlines
      rw [Operator.index_of_ofIndex? hop] at first
      have inside := operands.trans (hbody.outlines_nodes ih)
      rw [Expr.nodes_eq, List.map_cons, first]
      exact ((closed hc inside).skip (Token.isOperator_separator ho)).cons _

/-! ### Where nodes come from -/

/-- Separated items are stretches of the whole. -/
lemma CommaSeparated.infix {tss : List (List Token)} {ts us : List Token}
    (h : CommaSeparated tss ts) (hus : us ∈ tss) : us <:+: ts := by
  induction h with
  | single vs =>
      obtain rfl := List.mem_singleton.mp hus
      exact List.infix_refl us
  | @cons vs comma tss rest _ _ ih =>
      rcases List.mem_cons.mp hus with rfl | hus
      · exact (List.prefix_append us (comma :: rest)).isInfix
      · exact (ih hus).trans ⟨vs ++ [comma], [], by simp⟩

/-- The operands of an expression are among those that its operator is applied to. -/
lemma Applies.operands_subset {readDate : DateReader} {op : Operator} {args : List Expr}
    {span : Span} {e : Expr} (h : Applies readDate op args span e) : e.operands ⊆ args := by
  cases h <;> simp [Expr.operands]

namespace Derives

variable {s : Schema} {ts : List Token} {e node : Expr}

/-- Tokens that derive an expression begin with the token at which it stands. -/
lemma exists_cons (h : Derives s ts e) : ∃ rest, ts = e.token :: rest := by
  cases h with
  | number | string | column => exact ⟨[], rfl⟩
  | @list opening closing items body type ho =>
      exact ⟨body ++ [closing], congrArg (Token.mk · opening.span :: _) ho⟩
  | call hop _ _ _ _ happ =>
      have first := happ.outlines.1
      rw [Operator.index_of_ofIndex? hop] at first
      exact ⟨_, congrArg (· :: _) first.symm⟩

/-- The operands of an expression are derived from stretches of its tokens. -/
lemma operand (h : Derives s ts e) {operand : Expr} (ho : operand ∈ e.operands) :
    ∃ us, us <:+: ts ∧ Derives s us operand := by
  cases h with
  | number | string | column => cases ho
  | @list opening closing items body _ _ _ hitems hbody =>
      obtain ⟨i, hi, rfl⟩ := List.mem_map.mp ho
      have inside := hbody.infix (List.mem_map_of_mem hi)
      exact ⟨i.1, inside.trans ⟨[opening], [closing], rfl⟩, hitems i hi⟩
  | @call index op span opening closing items body _ _ _ _ hitems hbody happ =>
      obtain ⟨i, hi, rfl⟩ := List.mem_map.mp (happ.operands_subset ho)
      have inside := hbody.infix (List.mem_map_of_mem hi)
      exact ⟨i.1, inside.trans ⟨[⟨.operator index, span⟩, opening], [closing], rfl⟩,
        hitems i hi⟩

/-- Every node of an expression is derived from a stretch of its tokens. -/
lemma of_descends {n : Nat} (way : Descends n e node) (h : Derives s ts e) :
    ∃ us, us <:+: ts ∧ Derives s us node := by
  induction way generalizing ts with
  | here e => exact ⟨ts, List.infix_refl ts, h⟩
  | down ho _ ih =>
      obtain ⟨us, inside, hus⟩ := h.operand ho
      obtain ⟨vs, deeper, hvs⟩ := ih hus
      exact ⟨vs, deeper.trans inside, hvs⟩

end Derives

/-! ### Nodes in a text -/

/-- Spans in order, of which none is empty, are different. -/
lemma nodup_of_ordered {spans : List Span} (nonempty : ∀ a ∈ spans, a.start < a.stop)
    (ordered : spans.Pairwise fun a b => a.stop ≤ b.start) : spans.Nodup := by
  refine ordered.imp_of_mem fun {a b} ha _ order => ?_
  rintro rfl
  have lt := nonempty a ha
  omega

namespace Expr

/-- How the nodes of a tree over a schema stand in a text with certain tokens. -/
structure Placed (s : Schema) (text : String) (ts : List Token) (e : Expr) : Prop where
  /-- No span is empty. -/
  nonempty : ∀ node ∈ e.nodes, node.span.start < node.span.stop
  /-- The spans are in order, and disjoint. -/
  ordered : (e.nodes.map span).Pairwise fun a b => a.stop ≤ b.start
  /-- Each node stands at its token, the first of those that it is derived from. -/
  derived : ∀ node ∈ e.nodes, ∃ rest,
    node.token :: rest <:+: ts ∧ Derives s (node.token :: rest) node
  /-- A node that stands at an operator spans its keyword. -/
  keyword : ∀ node ∈ e.nodes, ∀ op : Operator, node.lexeme = .operator op.index →
    node.span.slice text = op.keyword
  /-- Each operator is where exactly one node stands. -/
  operators : ∀ t ∈ ts, t.isOperator = true → (e.nodes.map span).count t.span = 1

end Expr

namespace Compiler

/-- **Nodes stand at their tokens.** In the tree that a text is parsed as, the spans of
the nodes, listed from the root on, increase strictly and are disjoint; each is the span
of the token that stands for its node, and each operator of the text stands for one
node. -/
theorem placed_of_parse {c : Compiler} {text : String} {e : Expr}
    (h : c.parse text = .ok e) :
    ∃ ts, (filterLexicon.tokenize text).toExcept = .ok ts ∧
      e.Placed c.schema text ts := by
  obtain ⟨ts, hts, -⟩ := parseAnyLength_eq_ok_iff.mp (parseAnyLength_of_parse h)
  obtain ⟨-, rfl⟩ := TokenStream.toExcept_eq_ok_iff.mp hts
  have derived := derives_of_parse h
  have outlines := derived.outlines
  have lossless := (filterVocabulary.accounts_tokenize text).lossless
  have tokens : ∀ node ∈ e.nodes, node.token ∈ (filterLexicon.tokenize text).tokens :=
    fun node hnode => outlines.sublist.subset (List.mem_map_of_mem hnode)
  have nonempty : ∀ a ∈ e.nodes.map Expr.span, a.start < a.stop :=
    List.forall_mem_map.mpr fun node hnode => (lossless.inside _ (tokens node hnode)).1
  have ordered : (e.nodes.map Expr.span).Pairwise fun a b => a.stop ≤ b.start := by
    rw [List.pairwise_map]
    exact List.pairwise_map.mp (lossless.ordered.sublist outlines.sublist)
  refine ⟨_, hts, List.forall_mem_map.mp nonempty, ordered, ?_, ?_, ?_⟩
  · intro node hnode
    obtain ⟨n, way⟩ := Expr.exists_descends_of_mem_nodes hnode
    obtain ⟨us, inside, hus⟩ := derived.of_descends way
    obtain ⟨rest, rfl⟩ := hus.exists_cons
    exact ⟨rest, inside, hus⟩
  · intro node hnode op here
    obtain ⟨op', same, slice⟩ := keyword_slice (tokens node hnode) here
    rw [Operator.ofIndex?_index] at same
    cases same
    exact slice
  · intro t ht hop
    obtain ⟨node, hnode, rfl⟩ := List.mem_map.mp (outlines.mem ht hop)
    exact List.count_eq_one_of_mem (nodup_of_ordered nonempty ordered)
      (List.mem_map_of_mem hnode)

/-- People whose name does not match a pattern and who were not born on a day. -/
def othersThan : String := "NOT(OR(LIKE(name,\"A%\"),IN(born,(DATE(\"1990-01-31\")))))"

/-- The tree of this filter. -/
def othersThanTree : Expr :=
  .not
    (.junction .or
      [.like ⟨"people", "name", .string⟩ "A%" ⟨7, 11⟩,
        .isIn (.column ⟨"people", "born", .date⟩ ⟨26, 30⟩)
          (.list .date [.literal (.date ⟨1990, 1, 31, by decide⟩) ⟨32, 36⟩] ⟨31, 32⟩)
          ⟨23, 25⟩]
      ⟨4, 6⟩)
    ⟨0, 3⟩

/-- The nodes are listed in the order of their tokens. The operands of `LIKE` and of
`DATE` are no nodes. -/
theorem placed_othersThan :
    people.parse othersThan = .ok othersThanTree ∧
      othersThanTree.nodes.map Expr.span =
        [⟨0, 3⟩, ⟨4, 6⟩, ⟨7, 11⟩, ⟨23, 25⟩, ⟨26, 30⟩, ⟨31, 32⟩, ⟨32, 36⟩] ∧
      ∃ ts, (filterLexicon.tokenize othersThan).toExcept = .ok ts ∧
        othersThanTree.Placed people.schema othersThan ts := by
  have parsed : people.parse othersThan = .ok othersThanTree := by
    decide +kernel
  exact ⟨parsed, rfl, placed_of_parse parsed⟩

end Compiler

end RowFilter
