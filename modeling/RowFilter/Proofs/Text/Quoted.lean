/-
A quoted text can be read back, and fits on one line.

* `ofHexDigits_toDigits`: the hexadecimal digits of a number stand for it.
* `readEscape`: the first character of the inside of a quoted text, with what stands
  behind it.
* `readEscape_escapeChar`: every character is read back, whatever stands behind it.
* `quoted_injective`: different texts have different quoted forms.
* `not_mem_quoted`: a quoted form has no line feed.
-/
import Mathlib.Tactic.Common
import RowFilter.Text.Quoted

namespace RowFilter

/-! ### Digits -/

/-- The value of a hexadecimal digit in lower case. -/
def hexDigitValue (c : Char) : Nat := if c.isDigit then c.toNat - 48 else c.toNat - 87

/-- The number that hexadecimal digits stand for, the most significant first. -/
def ofHexDigits (ds : List Char) : Nat := ds.foldl (fun n d => 16 * n + hexDigitValue d) 0

lemma hexDigitValue_digitChar : ∀ d < 16, hexDigitValue d.digitChar = d := by
  decide

/-- The hexadecimal digits of a number stand for it. -/
lemma ofHexDigits_toDigits (n : Nat) : ofHexDigits (Nat.toDigits 16 n) = n := by
  induction n using Nat.strongRecOn with
  | ind n ih =>
      rw [Nat.toDigits_eq_if (by decide)]
      split_ifs with small
      · simp [ofHexDigits, hexDigitValue_digitChar n small]
      · have front := ih (n / 16) (by omega)
        have last := hexDigitValue_digitChar (n % 16) (by omega)
        rw [ofHexDigits, List.foldl_append, ← ofHexDigits, front, List.foldl_cons, last,
          List.foldl_nil]
        omega

/-- Numerals consist of digits, in any base. -/
lemma exists_of_mem_toDigits {b n : Nat} {c : Char} (hb : 1 < b) (h : c ∈ Nat.toDigits b n) :
    ∃ d : Nat, c = d.digitChar := by
  induction n using Nat.strongRecOn with
  | ind n ih =>
      rw [Nat.toDigits_eq_if hb] at h
      split_ifs at h with small
      · exact ⟨n, List.mem_singleton.mp h⟩
      · rcases List.mem_append.mp h with h | h
        · exact ih (n / b) (Nat.div_lt_self (by omega) hb) h
        · exact ⟨n % b, List.mem_singleton.mp h⟩

/-! ### Escapes -/

/-- The first character of the inside of a quoted text, with what stands behind it. -/
def readEscape : List Char → Char × List Char
  | '\\' :: 'u' :: _ :: cs =>
    (Char.ofNat (ofHexDigits (cs.takeWhile (· ≠ '\x7d'))),
      (cs.dropWhile (· ≠ '\x7d')).drop 1)
  | '\\' :: '0' :: cs => ('\x00', cs)
  | '\\' :: 't' :: cs => ('\t', cs)
  | '\\' :: 'r' :: cs => ('\r', cs)
  | '\\' :: 'n' :: cs => ('\n', cs)
  | '\\' :: c :: cs => (c, cs)
  | c :: cs => (c, cs)
  | [] => (default, [])

/-- A code point that is named is read back. -/
lemma readEscape_escapeCodePoint (c : Char) (cs : List Char) :
    readEscape (escapeCodePoint c ++ cs) = (c, cs) := by
  have inside : ∀ d ∈ Nat.toDigits 16 c.toNat, decide (d ≠ '\x7d') = true := by
    intro d hd
    obtain ⟨k, rfl⟩ := exists_of_mem_toDigits (by decide) hd
    exact decide_eq_true (Nat.digitChar_ne '\x7d' rfl)
  have split : escapeCodePoint c ++ cs =
      '\\' :: 'u' :: '\x7b' :: (Nat.toDigits 16 c.toNat ++ '\x7d' :: cs) := by
    simp [escapeCodePoint]
  rw [split, readEscape, List.takeWhile_append_of_pos inside,
    List.dropWhile_append_of_pos inside]
  simp [ofHexDigits_toDigits, Char.ofNat_toNat]

/-- Every character is read back, whatever stands behind it. -/
theorem readEscape_escapeChar (c : Char) (cs : List Char) :
    readEscape (escapeChar c ++ cs) = (c, cs) := by
  unfold escapeChar
  split_ifs with nul tab cr lf quote backslash special
  · subst nul
    rfl
  · subst tab
    rfl
  · subst cr
    rfl
  · subst lf
    rfl
  · subst quote
    rfl
  · subst backslash
    rfl
  · exact readEscape_escapeCodePoint c cs
  · simp [readEscape, backslash]

/-- The inside of a quoted text determines the text. -/
lemma flatMap_escapeChar_inj {s t : List Char}
    (h : s.flatMap escapeChar = t.flatMap escapeChar) : s = t := by
  induction s generalizing t with
  | nil =>
      cases t with
      | nil => rfl
      | cons d t => simp [escapeChar_ne_nil d] at h
  | cons c s ih =>
      cases t with
      | nil => simp [escapeChar_ne_nil c] at h
      | cons d t =>
          have read := congrArg readEscape h
          rw [List.flatMap_cons, List.flatMap_cons, readEscape_escapeChar,
            readEscape_escapeChar] at read
          obtain ⟨rfl, rest⟩ := Prod.mk.inj read
          rw [ih rest]

/-- Different texts have different quoted forms. -/
theorem quoted_injective : Function.Injective quoted := by
  intro s t h
  have inside := congrArg String.toList h
  simp only [quoted, String.toList_ofList, List.cons_append, List.cons.injEq, true_and] at inside
  exact String.toList_inj.mp (flatMap_escapeChar_inj (List.append_cancel_right inside))

/-! ### Lines -/

lemma not_mem_escapeChar (c : Char) : '\n' ∉ escapeChar c := by
  unfold escapeChar
  split_ifs with nul tab cr lf quote backslash special
  iterate 6 decide
  · intro h
    have digit : '\n' ∈ Nat.toDigits 16 c.toNat := by simpa [escapeCodePoint] using h
    obtain ⟨k, hk⟩ := exists_of_mem_toDigits (by decide) digit
    exact Nat.digitChar_ne '\n' rfl hk.symm
  · simpa using Ne.symm lf

/-- A quoted form has no line feed. -/
theorem not_mem_quoted (s : String) : '\n' ∉ (quoted s).toList := by
  simp [quoted, not_mem_escapeChar]

end RowFilter
