/-
The names under which a filter reaches a field.

* `IsSymbolName`: the names that can stand in a filter as one symbol.
* `classify_eq_symbol_iff`, `spells_symbol_iff`: exactly these are read as symbols.
* `Derives.symbol_mem`: every column of an expression is named by a symbol of the tokens
  that derive it.
* `Compiler.parse_selfEqual_iff`: a field is reached exactly when its name is one of
  them.
-/
import RowFilter.Proofs.LiteralIndependence
import RowFilter.Proofs.Written

namespace RowFilter

/-! ### Names that are symbols -/

/-- The names that can stand in a filter as one symbol. -/
structure IsSymbolName (name : String) : Prop where
  nonempty : name ≠ ""
  /-- There are no blanks and no separators in it. -/
  unbroken : ∀ c ∈ name.toList, isBlank c = false ∧ c ≠ '(' ∧ c ≠ ')' ∧ c ≠ ','
  /-- It begins neither like a quoted text nor like a numeral with a leading zero. -/
  first : ∀ c ∈ name.toList.head?, c ≠ '"' ∧ c ≠ '0'
  /-- It is no numeral. -/
  notNumeral : ¬∀ c ∈ name.toList, c.isDigit = true
  notKeyword : ∀ op : Operator, name ≠ op.keyword

namespace Vocabulary

variable {v : Vocabulary}

/-- A run is a symbol when it does not begin with a zero, is no numeral, and is no word,
unless it begins with a digit. -/
lemma classify_eq_symbol_iff {name : String} :
    v.classify name.toList = .ok (.symbol name) ↔
      name.toList.head? ≠ some '0' ∧ (¬∀ c ∈ name.toList, c.isDigit = true) ∧
        (name.toList.head?.any Char.isDigit = true ∨ name ∉ v.words) := by
  unfold classify
  rw [String.ofList_toList]
  split_ifs with zero digits fits start
  · simp [zero]
  · exact iff_of_false (by simp) fun h => h.2.1 (List.all_eq_true.mp digits)
  · exact iff_of_false (by simp) fun h => h.2.1 (List.all_eq_true.mp digits)
  · simpa [zero, start] using digits
  · have listed : (v.words.idxsOf name).getLast? = none ↔ name ∉ v.words := by
      rw [List.getLast?_eq_none_iff, List.idxsOf_eq_nil_iff]
      simp only [beq_eq_false_iff_ne]
      exact ⟨fun h hmem => h name hmem rfl, fun h w hw => by rintro rfl; exact h hw⟩
    cases found : (v.words.idxsOf name).getLast? with
    | some i => simp_all
    | none => simp_all

end Vocabulary

/-- No keyword begins with a digit. -/
lemma Operator.head?_keyword (op : Operator) :
    op.keyword.toList.head?.any Char.isDigit = false := by
  cases op <;> rfl

/-- The words of the filter language are the keywords. -/
lemma mem_words_iff {name : String} :
    name ∈ filterVocabulary.words ↔ ∃ op : Operator, op.keyword = name := by
  simp [filterVocabulary, Operator.mem_all]

/-- A character of a run is neither a blank nor a separator. -/
lemma filterVocabulary_inRun_iff {c : Char} :
    filterVocabulary.inRun c = true ↔
      isBlank c = false ∧ c ≠ '(' ∧ c ≠ ')' ∧ c ≠ ',' := by
  simp [Vocabulary.inRun, filterVocabulary, filterSeparators]

/-- The names that can stand in a filter as one symbol are those that are read as a
symbol. -/
lemma spells_symbol_iff {name : String} :
    filterVocabulary.Spells name.toList (.symbol name) ↔ IsSymbolName name := by
  constructor
  · rintro ⟨known, inside, unquoted⟩
    obtain ⟨zero, notNumeral, word⟩ := Vocabulary.classify_eq_symbol_iff.mp known
    obtain ⟨c, head, hq⟩ := (Option.any_eq_true _ _).mp unquoted
    refine ⟨?_, fun d hd => filterVocabulary_inRun_iff.mp (inside d hd), ?_, notNumeral, ?_⟩
    · rintro rfl
      cases head
    · intro d hd
      obtain rfl := Option.some.inj (head.symm.trans hd)
      exact ⟨by simpa using hq, fun hz => zero (hz ▸ head)⟩
    · rintro op rfl
      rcases word with digit | unlisted
      · rw [op.head?_keyword] at digit
        cases digit
      · exact unlisted (mem_words_iff.mpr ⟨op, rfl⟩)
  · rintro ⟨nonempty, unbroken, first, notNumeral, notKeyword⟩
    have filled : name.toList ≠ [] := by simpa using nonempty
    obtain ⟨c, cs, hcs⟩ := List.exists_cons_of_ne_nil filled
    obtain ⟨hq, hz⟩ := first c (by simp [hcs])
    refine ⟨Vocabulary.classify_eq_symbol_iff.mpr ⟨?_, notNumeral, .inr ?_⟩,
      fun d hd => filterVocabulary_inRun_iff.mpr (unbroken d hd), ?_⟩
    · simpa [hcs] using hz
    · rw [mem_words_iff]
      rintro ⟨op, rfl⟩
      exact notKeyword op rfl
    · simpa [hcs] using hq

/-! ### Symbols of an expression -/

/-- Items are among the tokens with the commas between them. -/
lemma CommaSeparated.subset {tss : List (List Token)} {ts us : List Token}
    (h : CommaSeparated tss ts) (hus : us ∈ tss) : us ⊆ ts := by
  induction h with
  | single vs =>
      obtain rfl := List.mem_singleton.mp hus
      exact List.Subset.refl _
  | @cons vs comma tss rest _ _ ih =>
      rcases List.mem_cons.mp hus with rfl | later
      · exact List.subset_append_left _ _
      · exact List.subset_append_of_subset_right _ (List.subset_cons_of_subset _ (ih later))

/-- What an operator makes of its operands has no other columns than these. -/
lemma Applies.columns_subset {readDate : DateReader} {op : Operator} {args : List Expr}
    {span : Span} {e : Expr} (h : Applies readDate op args span e) :
    e.columns ⊆ Expr.columnsOfAll args := by
  cases h <;> simp [Expr.columns, Expr.columnsOfAll]

/-- The columns of an item are among those of all items. -/
lemma exists_mem_columns {es : List Expr} {c : Column} (h : c ∈ Expr.columnsOfAll es) :
    ∃ e ∈ es, c ∈ e.columns := by
  induction es with
  | nil => cases h
  | cons e es ih =>
      rcases List.mem_append.mp h with first | later
      · exact ⟨e, List.mem_cons_self, first⟩
      · obtain ⟨d, hd, hc⟩ := ih later
        exact ⟨d, List.mem_cons_of_mem e hd, hc⟩

/-- Every column of an expression is named by a symbol of the tokens that derive it. -/
theorem Derives.symbol_mem {s : Schema} {ts : List Token} {e : Expr} (h : Derives s ts e)
    {c : Column} (hc : c ∈ e.columns) : ∃ span, ⟨.symbol c.name, span⟩ ∈ ts := by
  -- the columns of items stand in the tokens of the items, which stand in the body
  have items_symbol : ∀ {items : List (List Token × Expr)} {body : List Token},
      CommaSeparated (items.map Prod.fst) body →
      (∀ i ∈ items, c ∈ i.2.columns → ∃ span, ⟨.symbol c.name, span⟩ ∈ i.1) →
      c ∈ Expr.columnsOfAll (items.map Prod.snd) →
      ∃ span, ⟨.symbol c.name, span⟩ ∈ body := by
    intro items body hbody ih among
    obtain ⟨e, he, hce⟩ := exists_mem_columns among
    obtain ⟨i, hi, rfl⟩ := List.mem_map.mp he
    obtain ⟨span, hspan⟩ := ih i hi hce
    exact ⟨span, hbody.subset (List.mem_map_of_mem hi) hspan⟩
  induction h with
  | number | string => cases hc
  | column span _ =>
      obtain rfl := List.mem_singleton.mp hc
      exact ⟨span, List.mem_singleton.mpr rfl⟩
  | list _ _ _ hbody _ _ ih =>
      obtain ⟨span, hspan⟩ := items_symbol hbody ih hc
      exact ⟨span, List.mem_cons_of_mem _ (List.mem_append_left _ hspan)⟩
  | call _ _ _ _ hbody happ ih =>
      obtain ⟨span, hspan⟩ := items_symbol hbody ih (happ.columns_subset hc)
      exact ⟨span, List.mem_cons_of_mem _
        (List.mem_cons_of_mem _ (List.mem_append_left _ hspan))⟩

/-! ### A field compared with itself -/

/-- The filter that compares a field with itself. -/
def selfEqualText (name : String) : String := "EQ(" ++ name ++ "," ++ name ++ ")"

/-- The comparison of a column with itself, with the spans that it has in the filter. -/
def Expr.selfEqual (c : Column) : Expr :=
  .compare .equal (.column c ⟨3, 3 + c.name.length⟩)
    (.column c ⟨4 + c.name.length, 4 + 2 * c.name.length⟩) ⟨0, 2⟩

/-- The tokens of that filter. -/
def selfEqualTokens (name : String) : List Token :=
  [⟨.operator 0, ⟨0, 2⟩⟩, ⟨.separator '(', ⟨2, 3⟩⟩, ⟨.symbol name, ⟨3, 3 + name.length⟩⟩,
    ⟨.separator ',', ⟨3 + name.length, 4 + name.length⟩⟩,
    ⟨.symbol name, ⟨4 + name.length, 4 + 2 * name.length⟩⟩,
    ⟨.separator ')', ⟨4 + 2 * name.length, 5 + 2 * name.length⟩⟩]

/-- A name that is a symbol is two of the tokens. -/
lemma tokenize_selfEqual {name : String} (h : IsSymbolName name) :
    (filterLexicon.tokenize (selfEqualText name)).toExcept = .ok (selfEqualTokens name) := by
  have symbol := spells_symbol_iff.mpr h
  have keyword : filterVocabulary.Spells "EQ".toList (.operator 0) :=
    Readable.legible_operator .equal
  have separator : ∀ c ∈ filterSeparators, ∀ cs : List Char,
      ∀ d ∈ (c :: cs).head?, filterVocabulary.inRun d = false := by
    rintro c hc cs d ⟨⟩
    simp [Vocabulary.inRun, filterVocabulary, hc]
  have written : (selfEqualText name).toList =
      "EQ".toList ++ '(' :: (name.toList ++ ',' :: (name.toList ++ [')'])) := by
    simp [selfEqualText]
  rw [filterLexicon_tokenize, written,
    Vocabulary.read_run keyword 0 (separator '(' (by decide) _),
    Vocabulary.read_separator filterVocabulary_apart (by decide),
    Vocabulary.read_run symbol _ (separator ',' (by decide) _),
    Vocabulary.read_separator filterVocabulary_apart (by decide),
    Vocabulary.read_run symbol _ (separator ')' (by decide) _),
    Vocabulary.read_separator filterVocabulary_apart (by decide), Vocabulary.read]
  rw [TokenStream.toExcept_eq_ok_iff]
  refine ⟨rfl, ?_⟩
  simp [TokenStream.tokens, selfEqualTokens, String.length_toList]
  omega

/-- The tokens derive the comparison. -/
lemma derives_selfEqual {s : Schema} {name : String} {type : ValueType}
    (declared : s.fieldType? name = some type) :
    Derives s (selfEqualTokens name) (.selfEqual ⟨s.table, name, type⟩) := by
  have operands : ∀ i ∈ [([⟨.symbol name, ⟨3, 3 + name.length⟩⟩],
        Expr.column ⟨s.table, name, type⟩ ⟨3, 3 + name.length⟩),
      ([⟨.symbol name, ⟨4 + name.length, 4 + 2 * name.length⟩⟩],
        Expr.column ⟨s.table, name, type⟩ ⟨4 + name.length, 4 + 2 * name.length⟩)],
      Derives s i.1 i.2 := by
    simp [Derives.column _ declared]
  have equal : Operator.ofIndex? 0 = some .equal := rfl
  exact .call equal rfl rfl operands (.cons rfl (.single _)) (.compare rfl rfl)

namespace Compiler

/-- **Which fields a filter reaches.** Without a limit on the length, and with room for
one parenthesis, a declared field can be compared with itself exactly when its name can
stand in a filter as one symbol: it is not empty, has no blank, no parenthesis and no
comma in it, does not begin with a quote or a zero, is not all digits, and is no keyword.
The comparison then has the spans of the two names and the operator. -/
theorem parse_selfEqual_iff {c : Compiler} (unlimited : c.maxLength = none)
    (deep : 1 ≤ c.maxDepth) {name : String} {type : ValueType}
    (declared : c.schema.fieldType? name = some type) :
    let column : Column := ⟨c.schema.table, name, type⟩
    ((∃ left right span, c.parse (selfEqualText name) =
        .ok (.compare .equal (.column column left) (.column column right) span)) ↔
      IsSymbolName name) ∧
    (IsSymbolName name → c.parse (selfEqualText name) = .ok (.selfEqual column)) := by
  intro column
  have reached : IsSymbolName name →
      c.parse (selfEqualText name) = .ok (.selfEqual column) := by
    intro h
    have derived := derives_selfEqual declared
    have nests : NestsWithin c.maxDepth 0 (selfEqualTokens name) :=
      (derived.nestsWithin_iff (Nat.zero_le _)).mpr deep
    have read : c.reading.steps (.operand []) (selfEqualTokens name) =
        .ok (.complete (.selfEqual column)) := steps_eq_complete_iff.mpr ⟨derived, nests⟩
    rw [parse, unlimited]
    exact parseAnyLength_eq_ok_iff.mpr ⟨_, tokenize_selfEqual h, read, rfl⟩
  refine ⟨⟨?_, fun h => ⟨_, _, _, reached h⟩⟩, reached⟩
  rintro ⟨left, right, span, parsed⟩
  have named : column ∈ (Expr.compare .equal (.column column left) (.column column right)
      span).columns := by simp [Expr.columns]
  obtain ⟨place, symbol⟩ := (derives_of_parse parsed).symbol_mem named
  rw [filterLexicon_tokenize] at symbol
  exact spells_symbol_iff.mp (Vocabulary.spells_of_mem_read symbol)

/-- The name of a person is reached. -/
theorem parse_selfEqual_name :
    IsSymbolName "name" ∧
      people.parse "EQ(name,name)" = .ok (.selfEqual ⟨"people", "name", .string⟩) := by
  have symbol : IsSymbolName "name" :=
    spells_symbol_iff.mp ⟨by decide, List.all_eq_true.mp (by decide), by decide⟩
  have declared : people.schema.fieldType? "name" = some .string := by decide +kernel
  have key := parse_selfEqual_iff (c := people) rfl (by decide) declared
  exact ⟨symbol, key.2 symbol⟩

end Compiler

end RowFilter
