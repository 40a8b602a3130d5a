/-
Texts in JSON.

* `jsonQuoted`: a text between double quotes, with the escapes that JSON
  requires.
* `TextUnit`: a character of a quoted text as it is written, or an escape of
  a UTF-16 code unit.
* `readText`: the units up to the closing quote.
* `decodeUnits`: the text that units stand for. Two units of a surrogate
  pair are one character, and no surrogate stands alone.
* `length_readText`: what is left is shorter.
* `JsonFault`: a document breaks a rule, or breaks off.
-/
import RowFilter.Text.Basic

namespace RowFilter

/-- Why a text is no JSON document. -/
inductive JsonFault where
  /-- A character breaks the rules. -/
  | malformed
  /-- The text breaks off. -/
  | cutOff
deriving DecidableEq, Repr

/-! ### Writing -/

/-- How a character is written inside a JSON text. -/
def jsonEscape (c : Char) : List Char :=
  if c = '"' then ['\\', '"']
  else if c = '\\' then ['\\', '\\']
  else if c = '\x08' then ['\\', 'b']
  else if c = '\t' then ['\\', 't']
  else if c = '\n' then ['\\', 'n']
  else if c = '\x0c' then ['\\', 'f']
  else if c = '\r' then ['\\', 'r']
  else if c.toNat < 0x20 then
    ['\\', 'u', '0', '0', Nat.digitChar (c.toNat / 16),
      Nat.digitChar (c.toNat % 16)]
  else [c]

/-- A text between double quotes, with the escapes that JSON requires. -/
def jsonQuoted (s : String) : String :=
  String.ofList ('"' :: s.toList.flatMap jsonEscape ++ ['"'])

/-! ### Reading -/

/-- What a quoted text is made of. -/
inductive TextUnit where
  /-- A character, as it is or behind a backslash. -/
  | char (c : Char)
  /-- An escaped UTF-16 code unit. -/
  | code (n : Nat)
deriving DecidableEq, Repr

/-- The value of a hexadecimal digit. -/
def hexValue? (c : Char) : Option Nat :=
  if c.isDigit then some (c.toNat - 48)
  else if 'a' ≤ c ∧ c ≤ 'f' then some (c.toNat - 87)
  else if 'A' ≤ c ∧ c ≤ 'F' then some (c.toNat - 55)
  else none

/-- The number of four hexadecimal digits. -/
def hexCode? (a b c d : Char) : Option Nat := do
  return ((← hexValue? a) * 16 + (← hexValue? b)) * 256
    + (← hexValue? c) * 16 + (← hexValue? d)

/-- What a letter behind a backslash stands for. -/
def shortEscape? : Char → Option Char
  | '"' => some '"'
  | '\\' => some '\\'
  | '/' => some '/'
  | 'b' => some '\x08'
  | 'f' => some '\x0c'
  | 'n' => some '\n'
  | 'r' => some '\r'
  | 't' => some '\t'
  | _ => none

/-- The units of a quoted text, and what is left behind the closing quote or
the fault that ends the text. -/
abbrev TextRead := List TextUnit × Except JsonFault (List Char)

/-- One more unit in front. -/
def TextRead.push (u : TextUnit) (r : TextRead) : TextRead := (u :: r.1, r.2)

/-- Reads a quoted text behind its opening quote. Four bytes have to be left
for a code unit before they are looked at. -/
def readText : List Char → TextRead
  | [] => ([], .error .cutOff)
  | '"' :: cs => ([], .ok cs)
  | ['\\'] => ([], .error .cutOff)
  | '\\' :: 'u' :: cs =>
    match cs with
    | a :: b :: c :: d :: rest =>
      match hexCode? a b c d with
      | some n => (readText rest).push (.code n)
      | none => ([], .error .malformed)
    | few => ([], .error (if byteLength few < 4 then .cutOff else .malformed))
  | '\\' :: c :: cs =>
    match shortEscape? c with
    | some c => (readText cs).push (.char c)
    | none => ([], .error .malformed)
  | c :: cs =>
    if c.toNat < 0x20 then ([], .error .malformed)
    else (readText cs).push (.char c)

/-- What is left behind a quoted text is shorter. -/
theorem length_readText {cs rest : List Char}
    (h : (readText cs).2 = .ok rest) : rest.length < cs.length := by
  fun_induction readText cs <;> simp_all [TextRead.push] <;> omega

/-- The first half of a surrogate pair. -/
def isLeadSurrogate (n : Nat) : Bool := 0xd800 ≤ n && n ≤ 0xdbff

/-- The second half of a surrogate pair. -/
def isTrailSurrogate (n : Nat) : Bool := 0xdc00 ≤ n && n ≤ 0xdfff

/-- The character of a surrogate pair. -/
def ofSurrogates (lead trail : Nat) : Char :=
  Char.ofNat (0x10000 + (lead - 0xd800) * 0x400 + (trail - 0xdc00))

/-- The text that units stand for. A first half of a surrogate pair at the
end counts as the fault `atEnd`. -/
def decodeUnits (atEnd : JsonFault) : List TextUnit → Except JsonFault (List Char)
  | [] => .ok []
  | .char c :: us => (decodeUnits atEnd us).map (c :: ·)
  | .code n :: us =>
    if isTrailSurrogate n then .error .malformed
    else if isLeadSurrogate n then
      match us with
      | [] => .error atEnd
      | .char _ :: _ => .error .malformed
      | .code m :: us =>
        if isTrailSurrogate m then
          (decodeUnits atEnd us).map (ofSurrogates n m :: ·)
        else .error .malformed
    else (decodeUnits atEnd us).map (Char.ofNat n :: ·)

end RowFilter
