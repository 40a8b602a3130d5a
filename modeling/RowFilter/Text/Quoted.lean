/-
The quoted form of a text: between double quotes, with a backslash escape
for each character that would end the quotation, break the line or not be
seen.

* `escapeChar`: how one character is written.
* `quoted`: the quoted form.
* `escapeChar_ne_nil`: no character vanishes.
-/
import RowFilter.Text.Unprintable

namespace RowFilter

/-- The escape that names a code point in lower-case hexadecimal digits. -/
def escapeCodePoint (c : Char) : List Char :=
  ['\\', 'u', '\x7b'] ++ Nat.toDigits 16 c.toNat ++ ['\x7d']

/-- How a character is written inside a quoted text. -/
def escapeChar (c : Char) : List Char :=
  if c = '\x00' then ['\\', '0']
  else if c = '\t' then ['\\', 't']
  else if c = '\r' then ['\\', 'r']
  else if c = '\n' then ['\\', 'n']
  else if c = '"' then ['\\', '"']
  else if c = '\\' then ['\\', '\\']
  else if c.toNat < 0x20 || c.toNat = 0x7f || isUnprintable c then
    escapeCodePoint c
  else [c]

/-- A text in double quotes, with its special characters escaped. -/
def quoted (s : String) : String :=
  String.ofList ('"' :: s.toList.flatMap escapeChar ++ ['"'])

/-- No character vanishes in a quoted text. -/
theorem escapeChar_ne_nil (c : Char) : escapeChar c ≠ [] := by
  unfold escapeChar
  repeat' split
  all_goals simp [escapeCodePoint]

end RowFilter
