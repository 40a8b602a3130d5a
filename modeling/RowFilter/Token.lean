/-
Tokens of a filter text, and the faults that end a text's token stream.

* `Span`: a stretch of the text, counted in characters.
* `Lexeme`: what a token is, and `Token`: a lexeme at its span.
* `LexFault`: the two ways in which a text is no sequence of tokens.
* `TokenStream`: the tokens of a text in order, ended by the end of the text
  or by a fault.
* `TokenStream.toExcept_eq_ok_iff`: the list of all tokens exists exactly
  when the stream has no fault.
-/
import RowFilter.Text.Quoted

namespace RowFilter

/-! ### Tokens -/

/-- The characters from `start` up to, but without, `stop`. -/
structure Span where
  start : Nat
  stop : Nat
deriving DecidableEq, Repr

/-- What a token is. -/
inductive Lexeme where
  /-- A numeral without leading zero. -/
  | number (n : Int64)
  /-- A text between double quotes, its escapes resolved. -/
  | string (s : String)
  /-- One separator character. -/
  | separator (c : Char)
  /-- A keyword, by its index. -/
  | operator (index : Nat)
  /-- Any other run of characters. -/
  | symbol (s : String)
deriving DecidableEq

/-- A lexeme at the span that it was read from. -/
structure Token where
  lexeme : Lexeme
  span : Span
deriving DecidableEq

/-- A lexeme in words. -/
def Lexeme.describe : Lexeme → String
  | .number n => s!"number {n.toInt}"
  | .string s => "string " ++ quoted s
  | .separator c => "separator '" ++ c.toString ++ "'"
  | .operator i => s!"operator #{i}"
  | .symbol s => "symbol " ++ s

/-- A token in words, with the place where it starts. -/
def Token.describe (t : Token) : String :=
  s!"{t.lexeme.describe} at position {t.span.start}"

/-! ### Faults -/

/-- Why a numeral is refused. -/
inductive NumeralFault where
  | leadingZero
  | tooLarge
deriving DecidableEq, Repr

/-- The reason in words. -/
def NumeralFault.message : NumeralFault → String
  | .leadingZero => "leading zero"
  | .tooLarge => "number too large to fit in target type"

/-- Why a text is no sequence of tokens. -/
inductive LexFault where
  /-- The numeral that starts at `position` is refused. -/
  | numeral (fault : NumeralFault) (position : Nat)
  /-- The quote at `position` is never closed. -/
  | unclosed (position : Nat)
deriving DecidableEq, Repr

namespace LexFault

/-- Where the fault starts. -/
def position : LexFault → Nat
  | .numeral _ p => p
  | .unclosed p => p

/-- The fault in words. -/
def message : LexFault → String
  | .numeral f _ => "invalid number: " ++ f.message
  | .unclosed _ => "unclosed string"

end LexFault

/-! ### Streams -/

/-- The tokens of a text in order. Nothing follows a fault. -/
inductive TokenStream where
  /-- The text is exhausted. -/
  | done
  /-- What comes next is no token. -/
  | fault (f : LexFault)
  /-- A token, and what follows it. -/
  | token (t : Token) (rest : TokenStream)
deriving DecidableEq

namespace TokenStream

/-- The tokens before the end or the fault. -/
def tokens : TokenStream → List Token
  | .done => []
  | .fault _ => []
  | .token t rest => t :: rest.tokens

/-- The fault that ends the stream, if one does. -/
def fault? : TokenStream → Option LexFault
  | .done => none
  | .fault f => some f
  | .token _ rest => rest.fault?

/-- All tokens of the text, unless it has a fault. -/
def toExcept (s : TokenStream) : Except LexFault (List Token) :=
  match s.fault? with
  | some f => .error f
  | none => .ok s.tokens

/-- All tokens are there exactly when no fault ends the stream. -/
theorem toExcept_eq_ok_iff {s : TokenStream} {ts : List Token} :
    s.toExcept = .ok ts ↔ s.fault? = none ∧ s.tokens = ts := by
  unfold toExcept
  cases s.fault? <;> simp

/-- A stream fails with the fault that ends it. -/
theorem toExcept_eq_error_iff {s : TokenStream} {f : LexFault} :
    s.toExcept = .error f ↔ s.fault? = some f := by
  unfold toExcept
  cases s.fault? <;> simp

end TokenStream

end RowFilter
