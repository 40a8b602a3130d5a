/-
Expressions written as lexemes.

* `Lexeme.enclosed`, `Lexeme.call`: items in parentheses, with commas between
  them, and operands behind an operator.
* `Expr.Written`: the lexemes that an expression is written with.
* `Expr.Expressible`: expressions whose numbers, names and dates can be
  written, and `exists_written`: these can be written as a whole.
* `Readable`: lexemes that can be read, and behind which a separator fits.
* `Written.readable`: those of an expressible expression are readable.
-/
import RowFilter.Proofs.Grammar.Typed
import RowFilter.Proofs.Lexing.Layout
import RowFilter.Proofs.Lexing.Scan
import RowFilter.Proofs.Nesting
import RowFilter.Proofs.Sql.Placeholders

namespace RowFilter

/-! ### Operators -/

/-- The keyword index of an operator. -/
def Operator.index (op : Operator) : Nat := all.idxOf op

lemma Operator.ofIndex?_index (op : Operator) : ofIndex? op.index = some op := by
  cases op <;> rfl

/-- The operator of a comparison. -/
def Comparison.operator : Comparison → Operator
  | .equal => .equal
  | .greater => .greater
  | .less => .less
  | .greaterOrEqual => .greaterOrEqual
  | .lessOrEqual => .lessOrEqual

lemma Comparison.comparison?_operator (c : Comparison) :
    c.operator.comparison? = some c := by
  cases c <;> rfl

/-- The operator of a conjunction or a disjunction. -/
def Junction.operator : Junction → Operator
  | .and => .and
  | .or => .or

/-! ### Lexemes -/

namespace Lexeme

/-- Items in parentheses, with commas between them. -/
def enclosed (items : List (List Lexeme)) : List Lexeme :=
  .separator '(' :: ([.separator ','].intercalate items ++ [.separator ')'])

/-- An operator with its operands in parentheses. -/
def call (op : Operator) (args : List (List Lexeme)) : List Lexeme :=
  .operator op.index :: enclosed args

end Lexeme

namespace Expr

open Lexeme (enclosed call)

/-- The lexemes that an expression is written with. The items of a list and
the conditions of a junction are given with the lexemes that they are written
with, and a date is written as any text that is read as it. -/
inductive Written (s : Schema) : Expr → List Lexeme → Prop where
  | number (n : Int64) (span : Span) :
      Written s (.literal (.int n) span) [.number n]
  | text (text : String) (span : Span) :
      Written s (.literal (.text text) span) [.string text]
  | date {input : String} {d : Date} (span : Span) :
      s.readDate input = .ok d →
      Written s (.literal (.date d) span) (call .date [[.string input]])
  | list {type : ValueType} {items : List (List Lexeme × Expr)} (span : Span) :
      (∀ i ∈ items, Written s i.2 i.1) →
      Written s (.list type (items.map Prod.snd) span) (enclosed (items.map Prod.fst))
  | column (c : Column) (span : Span) : Written s (.column c span) [.symbol c.name]
  | not {arg : Expr} {ls : List Lexeme} (span : Span) :
      Written s arg ls → Written s (.not arg span) (call .not [ls])
  | compare (op : Comparison) {left right : Expr} {ls rs : List Lexeme} (span : Span) :
      Written s left ls → Written s right rs →
      Written s (.compare op left right span) (call op.operator [ls, rs])
  | isIn {left right : Expr} {ls rs : List Lexeme} (span : Span) :
      Written s left ls → Written s right rs →
      Written s (.isIn left right span) (call .isIn [ls, rs])
  | like (c : Column) (pattern : String) (span : Span) :
      Written s (.like c pattern span)
        (call .like [[.symbol c.name], [.string pattern]])
  | anyLike (c : Column) (pattern : String) (span : Span) :
      Written s (.anyLike c pattern span)
        (call .anyLike [[.symbol c.name], [.string pattern]])
  | junction (kind : Junction) {items : List (List Lexeme × Expr)} (span : Span) :
      (∀ i ∈ items, Written s i.2 i.1) →
      Written s (.junction kind (items.map Prod.snd) span)
        (call kind.operator (items.map Prod.fst))

/-! ### What can be written -/

/-- Expressions together have the columns and the literals of each. -/
lemma subset_of_mem {e : Expr} {es : List Expr} (h : e ∈ es) :
    e.columns ⊆ columnsOfAll es ∧ e.literals ⊆ literalsOfAll es := by
  induction es with
  | nil => cases h
  | cons d es ih =>
      rw [columnsOfAll, literalsOfAll]
      cases h with
      | head => exact ⟨List.subset_append_left _ _, List.subset_append_left _ _⟩
      | tail _ h =>
          obtain ⟨columns, literals⟩ := ih h
          exact ⟨List.subset_append_of_subset_right _ columns,
            List.subset_append_of_subset_right _ literals⟩

/-- An expression has the columns and the literals of its operands. -/
lemma subset_of_mem_operands {e operand : Expr} (h : operand ∈ e.operands) :
    operand.columns ⊆ e.columns ∧ operand.literals ⊆ e.literals := by
  cases e with
  | list | junction => exact subset_of_mem h
  | not =>
      obtain rfl := List.mem_singleton.mp h
      exact ⟨List.Subset.refl _, List.Subset.refl _⟩
  | compare | isIn =>
      simp only [operands, List.mem_cons, List.not_mem_nil, or_false] at h
      rcases h with rfl | rfl <;> simp [columns, literals]
  | _ => cases h

/-- Expressions whose numbers are positive, whose columns have names that are
read as one symbol, and whose dates are read from some text. -/
structure Expressible (s : Schema) (e : Expr) : Prop where
  numbers : ∀ n, .int n ∈ e.literals → 0 < n.toInt
  names : ∀ c ∈ e.columns, ∃ span,
    filterLexicon.tokenize c.name = .token ⟨.symbol c.name, span⟩ .done
  dates : ∀ d, .date d ∈ e.literals → ∃ input, s.readDate input = .ok d

variable {s : Schema} {e : Expr}

/-- The operands of an expression can be written as the expression can. -/
lemma Expressible.operand (h : e.Expressible s) {operand : Expr}
    (ho : operand ∈ e.operands) : operand.Expressible s := by
  obtain ⟨columns, literals⟩ := subset_of_mem_operands ho
  exact ⟨fun n hn => h.numbers n (literals hn), fun c hc => h.names c (columns hc),
    fun d hd => h.dates d (literals hd)⟩

/-- Expressions that can be written one by one, with their lexemes. -/
lemma exists_items {es : List Expr} (h : ∀ e ∈ es, ∃ ls, Written s e ls) :
    ∃ items : List (List Lexeme × Expr), items.map Prod.snd = es ∧
      ∀ i ∈ items, Written s i.2 i.1 := by
  induction es with
  | nil => exact ⟨[], rfl, List.forall_mem_nil _⟩
  | cons e es ih =>
      obtain ⟨ls, hls⟩ := h e (by simp)
      obtain ⟨items, rfl, hitems⟩ := ih fun d hd => h d (by simp [hd])
      exact ⟨(ls, e) :: items, rfl, List.forall_mem_cons.mpr ⟨hls, hitems⟩⟩

/-- What can be written in its parts can be written as a whole. -/
theorem exists_written (h : e.Expressible s) : ∃ ls, Written s e ls := by
  induction e using Expr.ind with
  | literal v span =>
      cases v with
      | int n => exact ⟨_, .number n span⟩
      | text t => exact ⟨_, .text t span⟩
      | date d =>
          obtain ⟨input, hinput⟩ := h.dates d (by simp [literals])
          exact ⟨_, .date span hinput⟩
  | list type items span ih =>
      obtain ⟨items, rfl, hitems⟩ := exists_items fun i hi => ih i hi (h.operand hi)
      exact ⟨_, .list span hitems⟩
  | column c span => exact ⟨_, .column c span⟩
  | not arg span ih =>
      obtain ⟨ls, hls⟩ := ih (h.operand (by simp [operands]))
      exact ⟨_, .not span hls⟩
  | compare op left right span ihl ihr =>
      obtain ⟨ls, hls⟩ := ihl (h.operand (by simp [operands]))
      obtain ⟨rs, hrs⟩ := ihr (h.operand (by simp [operands]))
      exact ⟨_, .compare op span hls hrs⟩
  | isIn left right span ihl ihr =>
      obtain ⟨ls, hls⟩ := ihl (h.operand (by simp [operands]))
      obtain ⟨rs, hrs⟩ := ihr (h.operand (by simp [operands]))
      exact ⟨_, .isIn span hls hrs⟩
  | like c pattern span => exact ⟨_, .like c pattern span⟩
  | anyLike c pattern span => exact ⟨_, .anyLike c pattern span⟩
  | junction kind args span ih =>
      obtain ⟨items, rfl, hitems⟩ := exists_items fun i hi => ih i hi (h.operand hi)
      exact ⟨_, .junction kind span hitems⟩

end Expr

/-! ### Readable lexemes -/

open Lexeme (Parted)

/-- Lexemes that can be read, each of whose runs has a separator behind it, the
last one when a separator follows. -/
structure Readable (ls : List Lexeme) : Prop where
  legible : ∀ l ∈ ls, filterVocabulary.Legible l
  parted : ∀ c rest, (.separator c :: rest).IsChain Parted →
    (ls ++ .separator c :: rest).IsChain Parted

namespace Readable

variable {ls ms : List Lexeme}

lemma nil : Readable [] := ⟨List.forall_mem_nil _, fun _ _ h => h⟩

lemma single {l : Lexeme} (h : filterVocabulary.Legible l) : Readable [l] where
  legible := List.forall_mem_singleton.mpr h
  parted c rest hrest := by
    refine hrest.cons fun m hm => ?_
    obtain rfl := Option.some.inj hm
    cases l with
    | separator | string => trivial
    | _ => exact ⟨c, rfl⟩

/-- Readable lexemes can be put together with a separator between them. -/
lemma append {c : Char} (hls : Readable ls) (hc : c ∈ filterSeparators)
    (hms : Readable ms) : Readable (ls ++ .separator c :: ms) where
  legible := by
    intro l hl
    rcases List.mem_append.mp hl with hl | hl
    · exact hls.legible l hl
    · cases hl with
      | head => exact hc
      | tail _ hl => exact hms.legible l hl
  parted d rest hrest := by
    rw [List.append_assoc, List.cons_append]
    exact hls.parted c _ ((hms.parted d rest hrest).cons fun _ _ => trivial)

lemma intercalate {items : List (List Lexeme)} (h : ∀ ls ∈ items, Readable ls) :
    Readable ([.separator ','].intercalate items) := by
  induction items with
  | nil => exact nil
  | cons ls items ih =>
      obtain ⟨first, others⟩ := List.forall_mem_cons.mp h
      cases items with
      | nil => rwa [List.intercalate_singleton]
      | cons ms items =>
          rw [List.intercalate_cons_cons, List.append_assoc, List.singleton_append]
          exact first.append (by decide) (ih others)

lemma enclosed {items : List (List Lexeme)} (h : ∀ ls ∈ items, Readable ls) :
    Readable (Lexeme.enclosed items) :=
  nil.append (by decide) ((intercalate h).append (by decide) nil)

/-- The keyword of an operator is read as the operator. -/
lemma legible_operator (op : Operator) :
    filterVocabulary.Legible (.operator op.index) := by
  cases op <;> exact ⟨by decide, List.all_eq_true.mp (by decide), by decide⟩

lemma call (op : Operator) {items : List (List Lexeme)} (h : ∀ ls ∈ items, Readable ls) :
    Readable (Lexeme.call op items) :=
  (single (legible_operator op)).append (by decide)
    ((intercalate h).append (by decide) nil)

lemma string (text : String) : Readable [.string text] := by
  have listed : '"' ∉ filterSeparators := by decide
  exact single listed

end Readable

namespace Expr

variable {s : Schema} {e : Expr}

/-- The name of a column is readable. -/
lemma Expressible.readable_name (h : e.Expressible s) {c : Column} (hc : c ∈ e.columns) :
    Readable [.symbol c.name] := by
  obtain ⟨span, hspan⟩ := h.names c hc
  rw [filterLexicon_tokenize] at hspan
  exact .single (Vocabulary.spells_of_read hspan)

/-- What an expression is written with is readable. -/
theorem Written.readable {ls : List Lexeme} (h : Written s e ls) (he : e.Expressible s) :
    Readable ls := by
  induction h with
  | number n span =>
      exact .single (Vocabulary.spells_number filterVocabulary_apart
        (he.numbers n (by simp [literals])))
  | text text span => exact .string text
  | date span _ => exact .call .date (by simpa using .string _)
  | list span _ ih =>
      refine .enclosed (List.forall_mem_map.mpr fun i hi => ?_)
      exact ih i hi (he.operand (List.mem_map_of_mem hi))
  | column c span => exact he.readable_name (by simp [columns])
  | not span _ ih =>
      exact .call .not (by simpa using ih (he.operand (by simp [operands])))
  | compare op span _ _ ihl ihr =>
      have left := ihl (he.operand (by simp [operands]))
      have right := ihr (he.operand (by simp [operands]))
      exact .call op.operator (by simpa using ⟨left, right⟩)
  | isIn span _ _ ihl ihr =>
      have left := ihl (he.operand (by simp [operands]))
      have right := ihr (he.operand (by simp [operands]))
      exact .call .isIn (by simpa using ⟨left, right⟩)
  | like c pattern span =>
      have name := he.readable_name (c := c) (by simp [columns])
      exact .call .like (by simpa using ⟨name, .string pattern⟩)
  | anyLike c pattern span =>
      have name := he.readable_name (c := c) (by simp [columns])
      exact .call .anyLike (by simpa using ⟨name, .string pattern⟩)
  | junction kind span _ ih =>
      refine .call kind.operator (List.forall_mem_map.mpr fun i hi => ?_)
      exact ih i hi (he.operand (List.mem_map_of_mem hi))

end Expr

end RowFilter
