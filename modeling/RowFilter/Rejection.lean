/-
Why a filter text is rejected, and where.

* `TypeFault`: how the operands of an operator or the items of a list fail
  to fit.
* `Cause`: what is wrong with a text.
* `Rejection`: a cause, with the place of the token that it is about.
* `FilterFault`: a text is rejected, or there is no schema to read it by.
-/
import RowFilter.Operator
import RowFilter.Schema

namespace RowFilter

/-! ### Type faults -/

/-- Where a type fault shows: in an operator's operands, or in a list. -/
inductive Site where
  | list
  | operator (op : Operator)
deriving DecidableEq, Repr

/-- The site in words. -/
def Site.word : Site → String
  | .list => "list"
  | .operator op => op.keyword

/-- How operands or items fail to fit. -/
inductive TypeFault where
  /-- The items of a list are arrays. -/
  | nestedList
  /-- One type was wanted and another was found. -/
  | expected (wanted found : ValueType)
  /-- Two operands differ. -/
  | different (left right : ValueType)
  /-- An operand is no field. -/
  | notField (found : ValueType)
  /-- An operand is a field, but not of the type that was wanted. -/
  | otherField (wanted found : ValueType)
  /-- An operand is no text literal. -/
  | notText (found : ValueType)
deriving DecidableEq, Repr

/-- The fault in words. -/
def TypeFault.detail : TypeFault → String
  | .nestedList => "nested lists are not supported"
  | .expected w f => s!"expected {w.name}, found {f.name}"
  | .different l r => s!"{l.name} and {r.name}"
  | .notField f => s!"expected a field, found {f.name}"
  | .otherField w f => s!"expected {w.name} column, found {f.name}"
  | .notText f => s!"expected a string literal, found {f.name}"

/-! ### Causes -/

/-- What is wrong with a filter text. -/
inductive Cause where
  /-- The text ends where a token has to come. -/
  | unexpectedEnd
  /-- The text is no sequence of tokens. -/
  | lexical (fault : LexFault)
  /-- A symbol names no field. -/
  | unknownSymbol (name : String)
  /-- A token does not fit where it stands. -/
  | unexpectedToken (lexeme : Lexeme)
  /-- An operator has the wrong number of operands. -/
  | arity (op : Operator) (expected : Arity) (found : Nat)
  /-- Operands or items do not fit. -/
  | typeMismatch (site : Site) (fault : TypeFault)
  /-- A list has no items. -/
  | emptyList
  /-- A text is no date. -/
  | invalidDate (input reason : String)
  /-- The whole expression is no condition. -/
  | expectedPredicate (found : ValueType)
  /-- Lists and operands are nested too deeply. -/
  | tooDeep (max : Nat)
  /-- The text is too long. -/
  | tooLong (length max : Nat)
deriving DecidableEq

/-- A lexeme in words; an operator by its keyword. -/
def Lexeme.describeInFilter : Lexeme → String
  | .operator i =>
    match Operator.ofIndex? i with
    | some op => "operator " ++ op.keyword
    | none => (Lexeme.operator i).describe
  | lexeme => lexeme.describe

/-- The cause in words. -/
def Cause.message : Cause → String
  | .unexpectedEnd => "unexpected end of expression"
  | .lexical f => f.message
  | .unknownSymbol name => "unknown symbol " ++ quoted name
  | .unexpectedToken l => "unexpected " ++ l.describeInFilter
  | .arity op expected found =>
    s!"{op.keyword} expects {expected.describe} argument(s), found {found}"
  | .typeMismatch site fault =>
    s!"type mismatch in {site.word}: {fault.detail}"
  | .emptyList => "unexpected empty list"
  | .invalidDate input reason =>
    s!"failed to parse date {quoted input}: {reason}"
  | .expectedPredicate found =>
    s!"expected predicate expression, found {found.name}"
  | .tooDeep max =>
    s!"expression is nested too deeply: at most {max} levels allowed"
  | .tooLong length max =>
    s!"filter is too long: {length} characters, at most {max} allowed"

/-! ### Rejections -/

/-- A cause, with the place of the token that it is about. -/
structure Rejection where
  cause : Cause
  position : Option Nat
deriving DecidableEq

namespace Rejection

/-- A cause at a place. -/
def locate (cause : Cause) (position : Nat) : Rejection := ⟨cause, some position⟩

/-- The rejection in words. -/
def message (r : Rejection) : String :=
  "invalid expression: " ++ r.cause.message ++
    match r.position with
    | some p => s!" at position {p}"
    | none => ""

/-- A lexical fault rejects the text where the fault starts. -/
def ofLexFault (f : LexFault) : Rejection := .locate (.lexical f) f.position

end Rejection

/-- A text is rejected, or there is no schema to read it by. -/
inductive FilterFault where
  | schema (fault : SchemaFault)
  | expression (rejection : Rejection)
deriving DecidableEq

/-- The fault in words. -/
def FilterFault.message : FilterFault → String
  | .schema f => f.message
  | .expression r => r.message

end RowFilter
