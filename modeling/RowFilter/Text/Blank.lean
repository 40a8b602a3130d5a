/-
Blanks: the characters with the Unicode property White_Space, and the text
that is left when blanks are cut from its ends.

* `isBlank`: the 25 characters of the property.
* `isBlank_eq_false_of_isDigit`: no digit is a blank.
* `skipBlanks`, `trim`: a text without its leading blanks, and without its
  leading and trailing ones.
-/

namespace RowFilter

/-! ### The character class -/

/-- The Unicode property White_Space. -/
def isBlank (c : Char) : Bool :=
  let n := c.toNat
  (9 ≤ n && n ≤ 13) || n == 0x20 || n == 0x85 || n == 0xa0 || n == 0x1680
    || (0x2000 ≤ n && n ≤ 0x200a) || n == 0x2028 || n == 0x2029
    || n == 0x202f || n == 0x205f || n == 0x3000

/-- A blank is not an ASCII digit. -/
theorem isBlank_eq_false_of_isDigit {c : Char} (h : c.isDigit = true) :
    isBlank c = false := by
  simp only [Char.isDigit, Bool.and_eq_true, decide_eq_true_eq,
    UInt32.le_iff_toNat_le] at h
  obtain ⟨lo, hi⟩ := h
  have lo' : 48 ≤ c.toNat := lo
  have hi' : c.toNat ≤ 57 := hi
  simp only [isBlank, Bool.or_eq_false_iff, Bool.and_eq_false_iff,
    decide_eq_false_iff_not, beq_eq_false_iff_ne]
  omega

/-! ### Trimming -/

/-- The characters from the first that is not blank. -/
def skipBlanks (s : List Char) : List Char := s.dropWhile isBlank

/-- The text without leading and trailing blanks. -/
def trimBlanks (s : List Char) : List Char :=
  (skipBlanks (skipBlanks s).reverse).reverse

/-- The text without leading and trailing blanks. -/
def trim (s : String) : String := String.ofList (trimBlanks s.toList)

end RowFilter
