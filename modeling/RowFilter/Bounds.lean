/-
Bounds of numbers of a fixed size.

* `int32Max`, `int64Max`: the largest numbers with sign. Of the negative
  ones there is one more.
* `FitsInt32`, `FitsInt64`: whole numbers within the bounds.
* `toInt_ofInt_of_fits`: a number that fits is kept.
-/

namespace RowFilter

/-- The largest number of 32 bits with sign. -/
def int32Max : Nat := 2147483647

/-- The largest number of 64 bits with sign. -/
def int64Max : Nat := 9223372036854775807

/-- Whether a number has 32 bits with sign. -/
def FitsInt32 (n : Int) : Prop := -(int32Max : Int) ≤ n + 1 ∧ n ≤ int32Max

/-- Whether a number has 64 bits with sign. -/
def FitsInt64 (n : Int) : Prop := -(int64Max : Int) ≤ n + 1 ∧ n ≤ int64Max

instance (n : Int) : Decidable (FitsInt32 n) :=
  inferInstanceAs (Decidable (_ ∧ _))

instance (n : Int) : Decidable (FitsInt64 n) :=
  inferInstanceAs (Decidable (_ ∧ _))

/-- A number that fits is kept. -/
theorem toInt_ofInt_of_fits {n : Int} (h : FitsInt64 n) :
    (Int64.ofInt n).toInt = n := by
  simp only [FitsInt64, int64Max] at h
  exact Int64.toInt_ofInt_of_le (by omega) (by omega)

end RowFilter
