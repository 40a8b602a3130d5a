/-
Texts in JSON are read back.

* `writtenUnit`, `readText_jsonEscape`: what is written for a character is read as one
  unit.
* `readText_written`: the inside of a written text ends where it was written to end.
* `decodeUnits_written`: its units stand for the text.
* `readText_append`: what follows behind a closing quote is left.
-/
import Mathlib.Tactic.Common
import RowFilter.Json.Text

namespace RowFilter

/-! ### Characters -/

/-- The unit that is read where a character was written: control characters without an
escape of their own are written as code units. -/
def writtenUnit (c : Char) : TextUnit :=
  if c.toNat < 0x20 ∧ c ∉ ['\x08', '\t', '\n', '\x0c', '\r'] then .code c.toNat
  else .char c

/-- The hexadecimal digits of the numbers below 16. -/
lemma hexValue?_digitChar {k : Nat} (h : k < 16) : hexValue? (Nat.digitChar k) = some k := by
  have all : ∀ k : Fin 16, hexValue? (Nat.digitChar k) = some k.val := by decide
  exact all ⟨k, h⟩

/-- Below 256, two zeros and two hexadecimal digits are the number. -/
lemma hexCode?_digitChar {n : Nat} (h : n < 256) :
    hexCode? '0' '0' (Nat.digitChar (n / 16)) (Nat.digitChar (n % 16)) = some n := by
  have zero : hexValue? '0' = some 0 := by decide
  have high := hexValue?_digitChar (k := n / 16) (by omega)
  have low := hexValue?_digitChar (k := n % 16) (by omega)
  simp [hexCode?, zero, high, low]
  omega

/-- What is written for a character is read as one unit. -/
lemma readText_jsonEscape (c : Char) (cs : List Char) :
    readText (jsonEscape c ++ cs) = (readText cs).push (writtenUnit c) := by
  unfold jsonEscape
  split_ifs with quote backslash back tab line feed ret control
  · subst quote
    rfl
  · subst backslash
    rfl
  · subst back
    rfl
  · subst tab
    rfl
  · subst line
    rfl
  · subst feed
    rfl
  · subst ret
    rfl
  · have unit : writtenUnit c = .code c.toNat := if_pos (by simp [*])
    have code := hexCode?_digitChar (n := c.toNat) (by omega)
    simp only [List.cons_append, List.nil_append]
    rw [readText, code, unit]
  · have unit : writtenUnit c = .char c := if_neg (by simp [control])
    rw [List.singleton_append, readText, if_neg control, unit]
    all_goals simp_all

/-! ### Whole texts -/

/-- The inside of a written text ends where it was written to end. -/
lemma readText_written (s rest : List Char) :
    readText (s.flatMap jsonEscape ++ '"' :: rest) = (s.map writtenUnit, .ok rest) := by
  induction s with
  | nil => rfl
  | cons c s ih =>
      rw [List.flatMap_cons, List.append_assoc, readText_jsonEscape, ih]
      rfl

/-- A code unit that is no surrogate is a character, whatever follows. -/
lemma decodeUnits_code {n : Nat} (small : n < 0xd800) (atEnd : JsonFault)
    (us : List TextUnit) :
    decodeUnits atEnd (.code n :: us) = (decodeUnits atEnd us).map (Char.ofNat n :: ·) := by
  have trail : isTrailSurrogate n = false :=
    Bool.and_eq_false_imp.mpr fun h => absurd (of_decide_eq_true h) (by omega)
  have lead : isLeadSurrogate n = false :=
    Bool.and_eq_false_imp.mpr fun h => absurd (of_decide_eq_true h) (by omega)
  rcases us with _ | ⟨_ | _, _⟩ <;> simp [decodeUnits, trail, lead]

/-- The units of a written text stand for it. -/
lemma decodeUnits_written (atEnd : JsonFault) (s : List Char) :
    decodeUnits atEnd (s.map writtenUnit) = .ok s := by
  induction s with
  | nil => rfl
  | cons c s ih =>
      rw [List.map_cons, writtenUnit]
      split_ifs with control
      · have small := control.1
        rw [decodeUnits_code (by omega), ih, Char.ofNat_toNat]
        rfl
      · simp [decodeUnits, ih, Except.map]

/-- What follows behind a closing quote is left. -/
lemma readText_append {cs rest : List Char} (h : (readText cs).2 = .ok rest)
    (more : List Char) :
    readText (cs ++ more) = ((readText cs).1, .ok (rest ++ more)) := by
  fun_induction readText cs generalizing rest with
  | case1 | case3 | case5 | case6 | case8 | case9 => cases h
  | case2 cs =>
      obtain rfl := Except.ok.inj h
      rfl
  | case4 a b c d cs n code ih =>
      simp [readText, code, ih h, TextRead.push]
  | case7 c cs notU c' escape ih =>
      rw [List.cons_append, List.cons_append, readText, escape, ih h]
      · rfl
      all_goals simp_all
  | case10 c cs notQuote lone notU notShort printable ih =>
      have plain : c ≠ '\\' := by
        rintro rfl
        obtain ⟨d, ds, rfl⟩ := List.exists_cons_of_ne_nil (lone rfl)
        exact notShort d ds rfl rfl
      rw [List.cons_append, readText, if_neg printable, ih h]
      · rfl
      all_goals simp_all

end RowFilter
