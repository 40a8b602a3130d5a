/-
Decimal numerals and padded columns.

* `ofDigits`: the number that decimal digits stand for.
* `padLeft`, `padRight`: a text filled up to a width.
* `length_padLeft`: padding reaches the width and never cuts.
* `toList_toString`, `toList_toString_int`, `toList_padLeft`: which characters
  numerals and filled up texts have.
* `ofDigits_toDigits`, `ofDigits_padLeft`: digits of a number stand for it, also
  with zeros in front.
* `takeWhile_isDigit_append`, `dropWhile_isDigit_append`: digits in front of a
  text end where no digit follows.
* `ofSignedDigits`, `ofSignedDigits_toString`: the integer that digits with a
  sign stand for.
-/

namespace RowFilter

/-- The value of an ASCII digit. -/
def digitValue (c : Char) : Nat := c.toNat - 48

/-- The number that a list of decimal digits stands for, the most
significant first. -/
def ofDigits (ds : List Char) : Nat :=
  ds.foldl (fun n d => 10 * n + digitValue d) 0

/-- A text filled on the left with a character up to a width. -/
def padLeft (width : Nat) (c : Char) (s : String) : String :=
  String.ofList (List.replicate (width - s.length) c) ++ s

/-- A text filled on the right with a character up to a width. -/
def padRight (width : Nat) (c : Char) (s : String) : String :=
  s ++ String.ofList (List.replicate (width - s.length) c)

/-- Padding reaches the width and never cuts. -/
theorem length_padLeft (width : Nat) (c : Char) (s : String) :
    (padLeft width c s).length = max width s.length := by
  simp only [padLeft, String.length_append, String.length_ofList,
    List.length_replicate]
  omega

/-- A text is filled up in front. -/
theorem toList_padLeft (width : Nat) (c : Char) (s : String) :
    (padLeft width c s).toList = List.replicate (width - s.length) c ++ s.toList := by
  rw [padLeft, String.toList_append, String.toList_ofList]

/-- A number is written in decimal digits. -/
theorem toList_toString (n : Nat) : (toString n).toList = Nat.toDigits 10 n :=
  Nat.toList_repr

/-- A numeral consists of digits. -/
theorem isDigit_of_mem_toDigits {n : Nat} {c : Char} (h : c ∈ Nat.toDigits 10 n) :
    c.isDigit = true :=
  Nat.isDigit_of_mem_toDigits (by decide) (by decide) h

/-- The digits of a number stand for it. -/
theorem ofDigits_toDigits (n : Nat) : ofDigits (Nat.toDigits 10 n) = n :=
  Nat.ofDigitChars_ten_toDigits

/-- Zeros in front of digits do not count. -/
theorem ofDigits_replicate_append (k : Nat) (ds : List Char) :
    ofDigits (List.replicate k '0' ++ ds) = ofDigits ds := by
  induction k with
  | zero => rfl
  | succ k ih => exact ih

/-- A number filled up with zeros stands for itself. -/
theorem ofDigits_padLeft (width n : Nat) :
    ofDigits (padLeft width '0' (toString n)).toList = n := by
  rw [toList_padLeft, ofDigits_replicate_append, toList_toString, ofDigits_toDigits]

/-! ### Digits in front of a text -/

/-- What follows behind digits and is no digit does not make them more. -/
theorem takeWhile_isDigit_append {rest : List Char}
    (stop : ∀ c ∈ rest.head?, c.isDigit = false) (s : List Char) :
    (s ++ rest).takeWhile Char.isDigit = s.takeWhile Char.isDigit := by
  induction s with
  | nil =>
    cases rest with
    | nil => rfl
    | cons c rest =>
      have first : ¬c.isDigit = true := by simp [stop c rfl]
      exact List.takeWhile_cons_of_neg first
  | cons c s ih => simp only [List.cons_append, List.takeWhile_cons, ih]

/-- What is left behind digits goes on with what follows. -/
theorem dropWhile_isDigit_append {rest : List Char}
    (stop : ∀ c ∈ rest.head?, c.isDigit = false) (s : List Char) :
    (s ++ rest).dropWhile Char.isDigit = s.dropWhile Char.isDigit ++ rest := by
  have whole := (s ++ rest).takeWhile_append_dropWhile (p := Char.isDigit)
  have part := s.takeWhile_append_dropWhile (p := Char.isDigit)
  rw [takeWhile_isDigit_append stop] at whole
  refine List.append_cancel_left (whole.trans ?_)
  rw [← List.append_assoc, part]

/-! ### Signs -/

/-- The integer that digits stand for, behind a sign or without one. -/
def ofSignedDigits : List Char → Int
  | '-' :: ds => -(ofDigits ds : Int)
  | '+' :: ds => ofDigits ds
  | ds => ofDigits ds

/-- Without a sign, digits stand for themselves. -/
theorem ofSignedDigits_of_isDigit {ds : List Char} (nonempty : ds ≠ [])
    (digits : ∀ c ∈ ds, c.isDigit = true) : ofSignedDigits ds = ofDigits ds := by
  cases ds with
  | nil => exact absurd rfl nonempty
  | cons c ds =>
    have first := digits c List.mem_cons_self
    rw [ofSignedDigits]
    · rintro _ ⟨⟩
      cases first
    · rintro _ ⟨⟩
      cases first

/-- A negative integer is written with a sign. -/
theorem toList_toString_int (n : Int) :
    (toString n).toList = (if n < 0 then ['-'] else []) ++ Nat.toDigits 10 n.natAbs := by
  cases n with
  | ofNat m =>
    have nonneg : ¬ Int.ofNat m < 0 := Int.not_lt.mpr (Int.natCast_nonneg m)
    rw [if_neg nonneg]
    exact toList_toString m
  | negSucc m =>
    have sign : toString (Int.negSucc m) = "-" ++ toString (m + 1) := rfl
    rw [if_pos (Int.negSucc_lt_zero m), sign, String.toList_append, toList_toString]
    rfl

/-- The digits of an integer, with their sign, stand for it. -/
theorem ofSignedDigits_toString (n : Int) : ofSignedDigits (toString n).toList = n := by
  rw [toList_toString_int]
  split
  · rw [List.singleton_append, ofSignedDigits, ofDigits_toDigits]
    omega
  · have unsigned : ofSignedDigits (Nat.toDigits 10 n.natAbs) = n.natAbs := by
      rw [ofSignedDigits_of_isDigit Nat.toDigits_ne_nil fun _ => isDigit_of_mem_toDigits,
        ofDigits_toDigits]
    rw [List.nil_append, unsigned]
    omega

end RowFilter
