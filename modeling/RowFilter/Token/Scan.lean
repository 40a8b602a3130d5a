/-
Reading tokens from a text, one character at a time.

* `Lexicon`: the keywords and the separator characters of a language.
* `Pending`: what the characters since the last token amount to.
* `Lexicon.scan`: the token stream of the rest of a text, given what is
  pending. A run of characters is a numeral while it has only digits, a
  keyword while the keyword table leads on, and a symbol from the first
  character that fits neither; a blank or a separator ends it.
* `Lexicon.tokenize`: the token stream of a whole text.
* `scan_idle_blank`, `scan_idle_separator`: between tokens, a blank is
  passed over and a separator is a token of its own.
-/
import RowFilter.Bounds
import RowFilter.Keywords
import RowFilter.Text.Blank
import RowFilter.Text.Decimal
import RowFilter.Token

namespace RowFilter

/-- The keywords and the separator characters of a language. -/
structure Lexicon where
  keywords : Keywords
  separators : List Char

/-- What the characters since the last token amount to. The characters that
were read are kept latest first. -/
inductive Pending where
  /-- Nothing but blanks. -/
  | idle
  /-- The digits of a numeral. -/
  | numeral (start : Nat) (read : List Char)
  /-- The inside of a quoted text. After a backslash the next character is
  `escaped`. -/
  | quotation (start : Nat) (read : List Char) (escaped : Bool)
  /-- The way to a node of the keyword table. -/
  | keyword (start : Nat) (read : List Char) (node : Keywords)
  /-- A run that is neither numeral nor keyword. -/
  | symbol (start : Nat) (read : List Char)

namespace Pending

/-- The text of characters that are kept latest first. -/
def textOf (read : List Char) : String := String.ofList read.reverse

/-- What is pending becomes a token that ends at `stop`, in front of the
rest of the stream. Nothing follows a fault. -/
def close (stop : Nat) (rest : TokenStream) : Pending → TokenStream
  | .idle => rest
  | .numeral start read =>
    let n := ofDigits read.reverse
    if n ≤ int64Max then
      .token ⟨.number (Int64.ofNat n), ⟨start, stop⟩⟩ rest
    else
      .fault (.numeral .tooLarge start)
  | .quotation start _ _ => .fault (.unclosed start)
  | .keyword start read node =>
    match Keywords.indexAt? node with
    | some i => .token ⟨.operator i, ⟨start, stop⟩⟩ rest
    | none => .token ⟨.symbol (textOf read), ⟨start, stop⟩⟩ rest
  | .symbol start read =>
    .token ⟨.symbol (textOf read), ⟨start, stop⟩⟩ rest

end Pending

namespace Lexicon

variable (lex : Lexicon)

/-- A character that is a token of its own. -/
def isSeparator (c : Char) : Bool := lex.separators.contains c

/-- The separator token at a place. -/
def separatorAt (c : Char) (pos : Nat) : Token :=
  ⟨.separator c, ⟨pos, pos + 1⟩⟩

/-- The token stream of the characters from place `pos` on, where `p` is
pending. -/
def scan : Pending → Nat → List Char → TokenStream
  | p, pos, [] => p.close pos .done
  | .idle, pos, c :: cs =>
    if lex.isSeparator c then
      .token (separatorAt c pos) (scan .idle (pos + 1) cs)
    else if c = '"' then
      scan (.quotation pos [] false) (pos + 1) cs
    else if c.isDigit then
      if c = '0' then .fault (.numeral .leadingZero pos)
      else scan (.numeral pos [c]) (pos + 1) cs
    else
      match lex.keywords.child? c with
      | some node => scan (.keyword pos [c] node) (pos + 1) cs
      | none =>
        if isBlank c then scan .idle (pos + 1) cs
        else scan (.symbol pos [c]) (pos + 1) cs
  | .quotation start read escaped, pos, c :: cs =>
    if escaped then
      scan (.quotation start (c :: read) false) (pos + 1) cs
    else if c = '"' then
      .token ⟨.string (Pending.textOf read), ⟨start, pos + 1⟩⟩
        (scan .idle (pos + 1) cs)
    else if c = '\\' then
      scan (.quotation start read true) (pos + 1) cs
    else
      scan (.quotation start (c :: read) false) (pos + 1) cs
  | .numeral start read, pos, c :: cs =>
    if c.isDigit then
      scan (.numeral start (c :: read)) (pos + 1) cs
    else if isBlank c then
      (Pending.numeral start read).close pos (scan .idle (pos + 1) cs)
    else if lex.isSeparator c then
      (Pending.numeral start read).close pos
        (.token (separatorAt c pos) (scan .idle (pos + 1) cs))
    else
      scan (.symbol start (c :: read)) (pos + 1) cs
  | .keyword start read node, pos, c :: cs =>
    match node.child? c with
    | some next => scan (.keyword start (c :: read) next) (pos + 1) cs
    | none =>
      if isBlank c then
        (Pending.keyword start read node).close pos
          (scan .idle (pos + 1) cs)
      else if lex.isSeparator c then
        (Pending.keyword start read node).close pos
          (.token (separatorAt c pos) (scan .idle (pos + 1) cs))
      else
        scan (.symbol start (c :: read)) (pos + 1) cs
  | .symbol start read, pos, c :: cs =>
    if lex.isSeparator c then
      (Pending.symbol start read).close pos
        (.token (separatorAt c pos) (scan .idle (pos + 1) cs))
    else if isBlank c then
      (Pending.symbol start read).close pos (scan .idle (pos + 1) cs)
    else
      scan (.symbol start (c :: read)) (pos + 1) cs

/-- The token stream of a text. -/
def tokenize (text : String) : TokenStream :=
  lex.scan .idle 0 text.toList

/-! ### Between tokens -/

/-- The empty rest of a text has no tokens. -/
@[simp] theorem scan_idle_nil (pos : Nat) :
    lex.scan .idle pos [] = .done := rfl

/-- A separator is a token of its own. -/
theorem scan_idle_separator {c : Char} (h : lex.isSeparator c = true)
    (pos : Nat) (cs : List Char) :
    lex.scan .idle pos (c :: cs) =
      .token (separatorAt c pos) (lex.scan .idle (pos + 1) cs) := by
  rw [scan, if_pos h]

/-- A blank that starts no keyword and is no separator is passed over. -/
theorem scan_idle_blank {c : Char} (hb : isBlank c = true)
    (hs : lex.isSeparator c = false) (hk : lex.keywords.child? c = none)
    (pos : Nat) (cs : List Char) :
    lex.scan .idle pos (c :: cs) = lex.scan .idle (pos + 1) cs := by
  have hq : c ≠ '"' := by rintro rfl; exact absurd hb (by decide)
  have hd : c.isDigit = false := by
    cases h : c.isDigit
    · rfl
    · rw [isBlank_eq_false_of_isDigit h] at hb; cases hb
  rw [scan]
  simp [hs, hq, hd, hk, hb]

end Lexicon

end RowFilter
