/-
Compilers: a schema with limits, by which filter texts become conditions.

* `Compiler`: a schema, the longest text and the deepest nesting.
* `Compiler.parse`: the condition that a text stands for.
* `parse_tooLong`: a text beyond the longest is rejected, whatever it holds.
* `parse_type`: what is parsed is a condition.
-/
import RowFilter.Expr.Unfinished

namespace RowFilter

/-- How deeply lists and operands may nest unless said otherwise. -/
def defaultMaxDepth : Nat := 64

/-- A schema with limits. -/
structure Compiler where
  schema : Schema
  /-- The largest number of characters of a text, if there is one. -/
  maxLength : Option Nat := none
  /-- The largest number of parentheses that are open at once. -/
  maxDepth : Nat := defaultMaxDepth

namespace Compiler

variable (c : Compiler)

/-- What reading depends on. -/
def reading : Reading := ⟨c.schema, c.maxDepth⟩

/-- Once all tokens are read, a whole condition has to be there. -/
def conclude (length : Nat) : Unfinished → Except Rejection Expr
  | .complete root =>
    if root.isPredicate then .ok root
    else .error (.locate (.expectedPredicate root.type) root.span.start)
  | _ => .error (.locate .unexpectedEnd length)

/-- The condition that a text stands for, whatever its length. -/
def parseAnyLength (text : String) : Except Rejection Expr :=
  (c.reading.run (.operand []) (filterLexicon.tokenize text)).bind
    (conclude text.length)

/-- The condition that a text stands for. -/
def parse (text : String) : Except Rejection Expr :=
  match c.maxLength with
  | some max =>
    if max < text.length then .error ⟨.tooLong text.length max, none⟩
    else c.parseAnyLength text
  | none => c.parseAnyLength text

/-- A text beyond the longest is rejected, whatever it holds. -/
theorem parse_tooLong {c : Compiler} {max : Nat} {text : String}
    (h : c.maxLength = some max) (long : max < text.length) :
    c.parse text = .error ⟨.tooLong text.length max, none⟩ := by
  simp [parse, h, long]

/-- A text whose tokens are rejected is rejected. -/
theorem parseAnyLength_of_run_error {c : Compiler} {text : String} {r : Rejection}
    (h : c.reading.run (.operand []) (filterLexicon.tokenize text) = .error r) :
    c.parseAnyLength text = .error r := by
  rw [parseAnyLength, h]
  rfl

/-- A text whose tokens are read is what is concluded from them. -/
theorem parseAnyLength_of_run {c : Compiler} {text : String} {u : Unfinished}
    (h : c.reading.run (.operand []) (filterLexicon.tokenize text) = .ok u) :
    c.parseAnyLength text = conclude text.length u := by
  rw [parseAnyLength, h]
  rfl

/-- What is concluded is a condition. -/
theorem conclude_type {length : Nat} {u : Unfinished} {e : Expr}
    (h : conclude length u = .ok e) : e.type = .bool := by
  cases u with
  | complete root =>
    simp only [conclude] at h
    split at h
    · next hp =>
      obtain rfl := Except.ok.inj h
      simpa [Expr.isPredicate] using hp
    · cases h
  | _ => cases h

/-- What is parsed is a condition. -/
theorem parse_type {c : Compiler} {text : String} {e : Expr}
    (h : c.parse text = .ok e) : e.type = .bool := by
  have any : c.parseAnyLength text = .ok e := by
    unfold parse at h
    split at h
    · split at h
      · cases h
      · exact h
    · exact h
  cases hr : c.reading.run (.operand []) (filterLexicon.tokenize text) with
  | error _ => rw [parseAnyLength_of_run_error hr] at any; cases any
  | ok u => rw [parseAnyLength_of_run hr] at any; exact conclude_type any

end Compiler

end RowFilter
