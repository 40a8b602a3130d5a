/-
Written expressions are read back.

* `Yields`: lexemes whose tokens derive an expression, whatever their spans.
* `yields_list`, `yields_call`: items in parentheses, and operands behind an
  operator, when each of them yields an expression.
* `Written.yields`: what a well-typed expression is written with yields it.
* `Compiler.parse_written`: a well-typed condition can be written, and a text
  in which its lexemes are laid out is parsed as that condition, up to spans.
-/
import RowFilter.Proofs.Limits
import RowFilter.Proofs.LiteralIndependence
import RowFilter.Proofs.Written

namespace RowFilter

open RowFilter.Expr (Typed Written Expressible spanless)
open Lexeme (enclosed call)

variable {s : Schema}

/-! ### Lexemes that yield expressions -/

/-- Tokens of these lexemes derive the expression up to spans, whatever their
own spans are. -/
def Yields (s : Schema) (ls : List Lexeme) (e : Expr) : Prop :=
  ∀ ts : List Token, ts.map Token.lexeme = ls →
    ∃ f, Derives s ts f ∧ f.spanless = e.spanless

/-- Tokens of one lexeme are one token. -/
lemma exists_token {ts : List Token} {l : Lexeme} (h : ts.map Token.lexeme = [l]) :
    ∃ span, ts = [⟨l, span⟩] := by
  obtain ⟨t, rfl, rfl⟩ := List.map_eq_singleton_iff.mp h
  exact ⟨t.span, rfl⟩

lemma yields_number (n : Int64) (span : Span) :
    Yields s [.number n] (.literal (.int n) span) := by
  intro ts hts
  obtain ⟨span', rfl⟩ := exists_token hts
  exact ⟨_, .number n span', rfl⟩

lemma yields_text (t : String) (span : Span) :
    Yields s [.string t] (.literal (.text t) span) := by
  intro ts hts
  obtain ⟨span', rfl⟩ := exists_token hts
  exact ⟨_, .string t span', rfl⟩

lemma yields_column {c : Column} (h : s.Declares c) (span : Span) :
    Yields s [.symbol c.name] (.column c span) := by
  intro ts hts
  obtain ⟨span', rfl⟩ := exists_token hts
  refine ⟨_, .column span' h.2, ?_⟩
  rw [← h.1]
  rfl

/-- Tokens with commas between items are those of the items. -/
lemma exists_separated {items : List (List Lexeme)} (nonempty : items ≠ []) {ts : List Token}
    (h : ts.map Token.lexeme = [.separator ','].intercalate items) :
    ∃ tss : List (List Token), tss.map (List.map Token.lexeme) = items ∧
      CommaSeparated tss ts := by
  induction items generalizing ts with
  | nil => exact absurd rfl nonempty
  | cons ls items ih =>
      cases items with
      | nil =>
          rw [List.intercalate_singleton] at h
          exact ⟨[ts], by simp [h], .single ts⟩
      | cons ms items =>
          rw [List.intercalate_cons_cons, List.append_assoc, List.singleton_append] at h
          obtain ⟨us, vs, rfl, rfl, hvs⟩ := List.map_eq_append_iff.mp h
          obtain ⟨comma, ws, rfl, hcomma, hws⟩ := List.map_eq_cons_iff.mp hvs
          obtain ⟨tss, hmap, hsep⟩ := ih (by simp) hws
          exact ⟨us :: tss, by rw [List.map_cons, hmap], .cons hcomma hsep⟩

/-- Tokens of items, each of which yields an expression, derive these. -/
lemma exists_derived {items : List (List Lexeme × Expr)}
    (h : ∀ i ∈ items, Yields s i.1 i.2) {tss : List (List Token)}
    (htss : tss.map (List.map Token.lexeme) = items.map Prod.fst) :
    ∃ found : List (List Token × Expr), found.map Prod.fst = tss ∧
      (∀ i ∈ found, Derives s i.1 i.2) ∧
      (found.map Prod.snd).map spanless = (items.map Prod.snd).map spanless := by
  induction items generalizing tss with
  | nil =>
      obtain rfl := List.map_eq_nil_iff.mp htss
      exact ⟨[], rfl, List.forall_mem_nil _, rfl⟩
  | cons i items ih =>
      obtain ⟨first, others⟩ := List.forall_mem_cons.mp h
      obtain ⟨ts, tss, rfl, hts, htss⟩ := List.map_eq_cons_iff.mp htss
      obtain ⟨f, hf, same⟩ := first ts hts
      obtain ⟨found, rfl, hfound, hmap⟩ := ih others htss
      refine ⟨(ts, f) :: found, rfl, List.forall_mem_cons.mpr ⟨hf, hfound⟩, ?_⟩
      simp only [List.map_cons, same, hmap]

/-- Tokens of items in parentheses, each of which yields an expression. -/
lemma exists_enclosed {items : List (List Lexeme × Expr)} (nonempty : items ≠ [])
    (h : ∀ i ∈ items, Yields s i.1 i.2) {ts : List Token}
    (hts : ts.map Token.lexeme = enclosed (items.map Prod.fst)) :
    ∃ opening body closing, ∃ found : List (List Token × Expr),
      ts = opening :: (body ++ [closing]) ∧ opening.lexeme = .separator '(' ∧
      closing.lexeme = .separator ')' ∧ (∀ i ∈ found, Derives s i.1 i.2) ∧
      CommaSeparated (found.map Prod.fst) body ∧
      (found.map Prod.snd).map spanless = (items.map Prod.snd).map spanless := by
  obtain ⟨opening, us, rfl, hopening, hus⟩ := List.map_eq_cons_iff.mp hts
  obtain ⟨body, vs, rfl, hbody, hvs⟩ := List.map_eq_append_iff.mp hus
  obtain ⟨span, rfl⟩ := exists_token hvs
  obtain ⟨tss, htss, hsep⟩ := exists_separated (by simpa using nonempty) hbody
  obtain ⟨found, rfl, hfound, same⟩ := exists_derived h htss
  exact ⟨opening, body, _, found, rfl, hopening, rfl, hfound, hsep, same⟩

/-- Items of one type in parentheses yield their list. -/
lemma yields_list {items : List (List Lexeme × Expr)} {type : ValueType}
    (nonempty : items ≠ []) (h : ∀ i ∈ items, Yields s i.1 i.2)
    (same : ∀ e ∈ items.map Prod.snd, e.type = type) (hty : type.isArray = false)
    (span : Span) :
    Yields s (enclosed (items.map Prod.fst)) (.list type (items.map Prod.snd) span) := by
  intro ts hts
  obtain ⟨opening, body, closing, found, rfl, ho, hc, hfound, hsep, spans⟩ :=
    exists_enclosed nonempty h hts
  have types := Expr.forall_type_eq spans same
  refine ⟨_, .list ho hc hfound hsep ?_ hty, ?_⟩
  · exact fun i hi => types i.2 (List.mem_map_of_mem hi)
  · rw [Expr.spanless_list, spans, Expr.spanless_list]

/-- Operands behind an operator yield what the operator makes of them. -/
lemma yields_call (op : Operator) {items : List (List Lexeme × Expr)} {e : Expr}
    (nonempty : items ≠ []) (h : ∀ i ∈ items, Yields s i.1 i.2)
    (applies : ∀ args span, args.map spanless = (items.map Prod.snd).map spanless →
      ∃ f, Applies s.readDate op args span f ∧ f.spanless = e.spanless) :
    Yields s (call op (items.map Prod.fst)) e := by
  intro ts hts
  -- the first token is the operator, and the others are the enclosed operands
  obtain ⟨⟨l, span⟩, us, rfl, rfl, hus⟩ := List.map_eq_cons_iff.mp hts
  obtain ⟨opening, body, closing, found, rfl, ho, hc, hfound, hsep, spans⟩ :=
    exists_enclosed nonempty h hus
  obtain ⟨f, hf, same⟩ := applies _ span spans
  exact ⟨f, .call op.ofIndex?_index ho hc hfound hsep hf, same⟩

/-- Two operands up to spans are two operands. -/
lemma exists_pair {args : List Expr} {left right : Expr}
    (h : args.map spanless = [left, right]) :
    ∃ l r, args = [l, r] ∧ l.spanless = left ∧ r.spanless = right := by
  obtain ⟨l, rest, rfl, hl, hrest⟩ := List.map_eq_cons_iff.mp h
  obtain ⟨r, rfl, hr⟩ := List.map_eq_singleton_iff.mp hrest
  exact ⟨l, r, rfl, hl, hr⟩

/-- Two operands behind an operator yield what the operator makes of them. -/
lemma yields_call_pair (op : Operator) {ls rs : List Lexeme} {left right e : Expr}
    (hl : Yields s ls left) (hr : Yields s rs right)
    (applies : ∀ l r span, l.spanless = left.spanless → r.spanless = right.spanless →
      ∃ f, Applies s.readDate op [l, r] span f ∧ f.spanless = e.spanless) :
    Yields s (call op [ls, rs]) e := by
  have items : ∀ i ∈ [(ls, left), (rs, right)], Yields s i.1 i.2 := by
    simpa using ⟨hl, hr⟩
  refine yields_call op (List.cons_ne_nil _ _) items fun args span spans => ?_
  obtain ⟨l, r, rfl, hl, hr⟩ := exists_pair spans
  exact applies l r span hl hr

/-- An operand behind an operator yields what the operator makes of it. -/
lemma yields_call_single (op : Operator) {ls : List Lexeme} {arg e : Expr}
    (h : Yields s ls arg)
    (applies : ∀ a span, a.spanless = arg.spanless →
      ∃ f, Applies s.readDate op [a] span f ∧ f.spanless = e.spanless) :
    Yields s (call op [ls]) e := by
  have items : ∀ i ∈ [(ls, arg)], Yields s i.1 i.2 := by simpa using h
  refine yields_call op (List.cons_ne_nil _ _) items fun args span spans => ?_
  obtain ⟨a, rfl, ha⟩ := List.map_eq_singleton_iff.mp spans
  exact applies a span ha

/-! ### Written expressions -/

/-- What a well-typed expression is written with yields it. -/
theorem Expr.Written.yields {e : Expr} {ls : List Lexeme} (h : Written s e ls)
    (typed : e.Typed s) : Yields s ls e := by
  induction h with
  | number n span => exact yields_number n span
  | text text span => exact yields_text text span
  | @date input d span hd =>
      refine yields_call_single .date (yields_text input span) fun a span' ha => ?_
      obtain ⟨_, rfl⟩ := eq_text_of_spanless ha
      exact ⟨_, .date hd, rfl⟩
  | @list type items span _ ih =>
      cases typed with
      | list _ nonempty typed same hty =>
          refine yields_list (by simpa using nonempty) (fun i hi => ?_) same hty span
          exact ih i hi (typed i.2 (List.mem_map_of_mem hi))
  | column c span =>
      cases typed with
      | column _ declared => exact yields_column declared span
  | not span _ ih =>
      cases typed with
      | not _ typed hty =>
          refine yields_call_single .not (ih typed) fun a span' ha => ?_
          refine ⟨_, .not ((type_eq_of_spanless_eq ha).trans hty), ?_⟩
          exact congrArg (Expr.not · ⟨0, 0⟩) ha
  | compare op span _ _ ihl ihr =>
      cases typed with
      | compare _ _ typedl typedr hty =>
          refine yields_call_pair op.operator (ihl typedl) (ihr typedr)
            fun l r span' hl hr => ?_
          refine ⟨_, .compare op.comparison?_operator ?_, ?_⟩
          · rw [type_eq_of_spanless_eq hl, hty, type_eq_of_spanless_eq hr]
          · exact congrArg₂ (Expr.compare op · · ⟨0, 0⟩) hl hr
  | isIn span _ _ ihl ihr =>
      cases typed with
      | isIn _ typedl typedr hty =>
          refine yields_call_pair .isIn (ihl typedl) (ihr typedr) fun l r span' hl hr => ?_
          refine ⟨_, .isIn ?_, ?_⟩
          · rw [type_eq_of_spanless_eq hr, hty, type_eq_of_spanless_eq hl]
          · exact congrArg₂ (Expr.isIn · · ⟨0, 0⟩) hl hr
  | like c pattern span =>
      cases typed with
      | like _ _ declared =>
          refine yields_call_pair .like (yields_column declared span)
            (yields_text pattern span) fun l r span' hl hr => ?_
          obtain ⟨_, rfl⟩ := eq_column_of_spanless hl
          obtain ⟨_, rfl⟩ := eq_text_of_spanless hr
          exact ⟨_, .like, rfl⟩
  | anyLike c pattern span =>
      cases typed with
      | anyLike _ _ declared hty =>
          refine yields_call_pair .anyLike (yields_column declared span)
            (yields_text pattern span) fun l r span' hl hr => ?_
          obtain ⟨_, rfl⟩ := eq_column_of_spanless hl
          obtain ⟨_, rfl⟩ := eq_text_of_spanless hr
          exact ⟨_, .anyLike hty, rfl⟩
  | @junction kind items span _ ih =>
      cases typed with
      | junction _ _ two typed hty =>
          have nonempty : items ≠ [] := by
            rintro rfl
            simp at two
          refine yields_call kind.operator nonempty
            (fun i hi => ih i hi (typed i.2 (List.mem_map_of_mem hi)))
            fun args span' spans => ?_
          have types := forall_type_eq spans hty
          have long : 2 ≤ args.length := by
            have lengths := congrArg List.length spans
            simp only [List.length_map] at lengths two
            omega
          refine ⟨.junction kind args span', ?_, ?_⟩
          · cases kind with
            | and => exact .and long types
            | or => exact .or long types
          · rw [spanless_junction, spans, spanless_junction]

namespace Compiler

/-- What an expressible expression is written with, laid out with any blanks,
is tokenized as it was written. -/
lemma tokenize_written {e : Expr} {ls : List Lexeme} {text : String}
    (h : Written s e ls) (he : e.Expressible s)
    (laid : filterVocabulary.LaidOut ls text.toList) :
    (filterLexicon.tokenize text).fault? = none ∧
      (filterLexicon.tokenize text).tokens.map Token.lexeme = ls := by
  obtain ⟨legible, parted⟩ := h.readable he
  have chain := parted '(' [] (List.isChain_singleton _)
  rw [filterLexicon_tokenize]
  exact laid.read filterVocabulary_apart legible chain.left_of_append 0

/-- **What can be written is read back.** A well-typed condition with positive
numbers, names that are read as one symbol, and dates that are read from some
text can be written down. However it is written, and whatever blanks stand
before and behind each lexeme, it is parsed as itself, up to spans, by every
compiler with its schema whose limits leave room for it. -/
theorem parse_written {e : Expr} (typed : e.Typed s) (condition : e.type = .bool)
    (expressible : e.Expressible s) :
    (∃ (ls : List Lexeme) (text : String),
      Written s e ls ∧ filterVocabulary.LaidOut ls text.toList) ∧
    ∀ (ls : List Lexeme) (text : String),
      Written s e ls → filterVocabulary.LaidOut ls text.toList →
      ∀ c : Compiler, c.schema = s → e.nesting ≤ c.maxDepth →
        (∀ max, c.maxLength = some max → text.length ≤ max) →
        ∃ f, c.parse text = .ok f ∧ f.spanless = e.spanless := by
  constructor
  · obtain ⟨ls, written⟩ := Expr.exists_written expressible
    refine ⟨ls, String.ofList (ls.flatMap filterVocabulary.spell), written, ?_⟩
    rw [String.toList_ofList]
    exact Vocabulary.laidOut_flatMap ls
  · rintro ls text written laid c rfl deep short
    obtain ⟨whole, tokens⟩ := tokenize_written written expressible laid
    obtain ⟨f, derived, same⟩ := written.yields typed _ tokens
    have nests : NestsWithin c.maxDepth 0 (filterLexicon.tokenize text).tokens := by
      rw [derived.nestsWithin_iff (Nat.zero_le _), ← f.nesting_spanless, same,
        e.nesting_spanless]
      omega
    have read : c.reading.steps (.operand []) (filterLexicon.tokenize text).tokens =
        .ok (.complete f) := steps_eq_complete_iff.mpr ⟨derived, nests⟩
    refine ⟨f, ?_, same⟩
    rw [parse_eq_parseAnyLength short]
    refine parseAnyLength_eq_ok_iff.mpr
      ⟨_, TokenStream.toExcept_eq_ok_iff.mpr ⟨whole, rfl⟩, read, ?_⟩
    rw [Expr.type_eq_of_spanless_eq same, condition]

/-! ### A filter that is written and read back -/

/-- The new year of 1990. -/
def newYear : Date := ⟨1990, 1, 1, by decide⟩

/-- A condition whose pattern has a quote and a backslash in it. -/
def quotedName : Expr := .bornAfter "\"\\%" newYear 0

lemma typed_quotedName : quotedName.Typed people.schema := by
  have name : people.schema.Declares ⟨"people", "name", .string⟩ := ⟨rfl, by decide⟩
  have born : people.schema.Declares ⟨"people", "born", .date⟩ := ⟨rfl, by decide⟩
  have matched := Typed.like "\"\\%" ⟨4, 8⟩ name
  have compared := Typed.compare .greater ⟨20, 22⟩ (.column ⟨23, 27⟩ born)
    (.literal (.date newYear) ⟨28, 32⟩) rfl
  refine .junction .and ⟨0, 3⟩ (by decide) ?_ ?_
  · exact List.forall_mem_cons.mpr ⟨matched, List.forall_mem_singleton.mpr compared⟩
  · exact List.forall_mem_cons.mpr ⟨rfl, List.forall_mem_singleton.mpr rfl⟩

lemma expressible_quotedName : quotedName.Expressible people.schema := by
  have literals : quotedName.literals = [.text "\"\\%", .date newYear] := rfl
  have columns : quotedName.columns =
      [⟨"people", "name", .string⟩, ⟨"people", "born", .date⟩] := rfl
  refine ⟨?_, ?_, ?_⟩
  · simp [literals]
  · rw [columns]
    exact List.forall_mem_cons.mpr ⟨⟨⟨0, 4⟩, by decide⟩,
      List.forall_mem_singleton.mpr ⟨⟨0, 4⟩, by decide⟩⟩
  · intro d hd
    obtain rfl : d = newYear := by simpa [literals] using hd
    exact ⟨"1990-01-01", by decide +kernel⟩

/-- The lexemes of the condition. -/
def quotedNameLexemes : List Lexeme :=
  call .and
    [call .like [[.symbol "name"], [.string "\"\\%"]],
      call .greater [[.symbol "born"], call .date [[.string "1990-01-01"]]]]

lemma written_quotedName : Written people.schema quotedName quotedNameLexemes := by
  have date : people.schema.readDate "1990-01-01" = .ok newYear := by decide +kernel
  have matched := Written.like (s := people.schema) ⟨"people", "name", .string⟩
    "\"\\%" ⟨4, 8⟩
  have compared := Written.compare .greater ⟨20, 22⟩
    (.column (s := people.schema) ⟨"people", "born", .date⟩ ⟨23, 27⟩)
    (.date ⟨28, 32⟩ date)
  exact @Written.junction _ .and [(_, _), (_, _)] ⟨0, 3⟩
    (List.forall_mem_cons.mpr ⟨matched, List.forall_mem_singleton.mpr compared⟩)

/-- The condition laid out, with a blank in front. -/
def quotedNameText : String :=
  " AND(LIKE(name,\"\\\"\\\\%\"),GT(born,DATE(\"1990-01-01\")))"

lemma laidOut_quotedName :
    filterVocabulary.LaidOut quotedNameLexemes quotedNameText.toList := by
  have blank : ∀ c ∈ [' '], isBlank c = true :=
    List.forall_mem_singleton.mpr (by decide)
  have first := Vocabulary.LaidOut.cons (l := .operator 6) blank
    (filterVocabulary.laidOut_flatMap quotedNameLexemes.tail)
  have text : quotedNameText.toList = [' '] ++ (filterVocabulary.spell (.operator 6) ++
      quotedNameLexemes.tail.flatMap filterVocabulary.spell) := by
    decide +kernel
  rwa [text]

/-- A condition with a pattern that has a quote and a backslash in it is
written with escapes, and read back. -/
theorem parse_quotedName :
    quotedName.Typed people.schema ∧ quotedName.type = .bool ∧
      quotedName.Expressible people.schema ∧
      ∃ f, people.parse quotedNameText = .ok f ∧ f.spanless = quotedName.spanless :=
  ⟨typed_quotedName, rfl, expressible_quotedName,
    (parse_written typed_quotedName rfl expressible_quotedName).2
      quotedNameLexemes quotedNameText written_quotedName laidOut_quotedName people rfl
      (by decide) (by decide)⟩

end Compiler

end RowFilter
