/-
Reading a text as far as tokens are asked for.

* `Answer`: what comes when a token is asked for.
* `Lexer`: a text, read up to the end of the last token.
* `Lexicon.draw`: reads on to the end of the next token, by the same rules as
  `Lexicon.scan`.
* `Lexicon.next`: the next token, as long as there is one.
-/
import RowFilter.Token.Scan

namespace RowFilter

/-- What comes when a token is asked for: a token, nothing at the end of the text, or
a fault. -/
abbrev Answer := Except LexFault (Option Token)

/-- The first answer of a stream. -/
def TokenStream.head : TokenStream → Answer
  | .done => .ok none
  | .fault f => .error f
  | .token t _ => .ok (some t)

/-! ### Lexers -/

/-- A text that is read as far as tokens are asked for: the place of the next
character, and the characters that are left. Reading is over at the end of the text
and behind a fault. -/
structure Lexer where
  pos : Nat
  left : List Char
  ended : Bool

/-- A text of which nothing has been read. -/
def Lexer.start (text : String) : Lexer := ⟨0, text.toList, text.toList.isEmpty⟩

/-- What is pending becomes the answer, and the lexer goes on as `next`, unless the
answer is a fault. -/
def Pending.finish (stop : Nat) (next : Lexer) (p : Pending) : Answer × Lexer :=
  match (p.close stop .done).head with
  | .error f => (.error f, { next with ended := true })
  | .ok t => (.ok t, next)

namespace Lexicon

variable (lex : Lexicon)

/-- Reads on to the end of the next token, where `p` is pending at place `pos`. A
blank that ends a token is read with it, and a separator is not. -/
def draw : Pending → Nat → List Char → Answer × Lexer
  | p, pos, [] => p.finish pos ⟨pos, [], true⟩
  | .idle, pos, c :: cs =>
    if lex.isSeparator c then
      (.ok (some (separatorAt c pos)), ⟨pos + 1, cs, false⟩)
    else if c = '"' then
      draw (.quotation pos [] false) (pos + 1) cs
    else if c.isDigit then
      if c = '0' then (.error (.numeral .leadingZero pos), ⟨pos, c :: cs, true⟩)
      else draw (.numeral pos [c]) (pos + 1) cs
    else
      match lex.keywords.child? c with
      | some node => draw (.keyword pos [c] node) (pos + 1) cs
      | none =>
        if isBlank c then draw .idle (pos + 1) cs
        else draw (.symbol pos [c]) (pos + 1) cs
  | .quotation start read escaped, pos, c :: cs =>
    if escaped then
      draw (.quotation start (c :: read) false) (pos + 1) cs
    else if c = '"' then
      (.ok (some ⟨.string (Pending.textOf read), ⟨start, pos + 1⟩⟩),
        ⟨pos + 1, cs, false⟩)
    else if c = '\\' then
      draw (.quotation start read true) (pos + 1) cs
    else
      draw (.quotation start (c :: read) false) (pos + 1) cs
  | .numeral start read, pos, c :: cs =>
    if c.isDigit then
      draw (.numeral start (c :: read)) (pos + 1) cs
    else if isBlank c then
      (Pending.numeral start read).finish pos ⟨pos + 1, cs, false⟩
    else if lex.isSeparator c then
      (Pending.numeral start read).finish pos ⟨pos, c :: cs, false⟩
    else
      draw (.symbol start (c :: read)) (pos + 1) cs
  | .keyword start read node, pos, c :: cs =>
    match node.child? c with
    | some next => draw (.keyword start (c :: read) next) (pos + 1) cs
    | none =>
      if isBlank c then
        (Pending.keyword start read node).finish pos ⟨pos + 1, cs, false⟩
      else if lex.isSeparator c then
        (Pending.keyword start read node).finish pos ⟨pos, c :: cs, false⟩
      else
        draw (.symbol start (c :: read)) (pos + 1) cs
  | .symbol start read, pos, c :: cs =>
    if lex.isSeparator c then
      (Pending.symbol start read).finish pos ⟨pos, c :: cs, false⟩
    else if isBlank c then
      (Pending.symbol start read).finish pos ⟨pos + 1, cs, false⟩
    else
      draw (.symbol start (c :: read)) (pos + 1) cs

/-- The next token. Once reading is over, nothing comes. -/
def next (l : Lexer) : Answer × Lexer :=
  if l.ended then (.ok none, l) else lex.draw .idle l.pos l.left

end Lexicon

end RowFilter
