/-
Numbers on a command line.

* `readSize`: a number of at most 64 bits, with an optional plus.
* `readSigned`: a whole number with an optional sign.
* `readInt64`, `readUInt32`: whole numbers in the range of a type.
-/
import RowFilter.Bounds
import RowFilter.Text.Decimal

namespace RowFilter

/-- The number of a text of digits, of which there has to be one. -/
def readPlain (s : List Char) : Option Nat :=
  if !s.isEmpty ∧ s.all Char.isDigit then some (ofDigits s) else none

/-- A number of at most 64 bits. A plus in front does not matter. -/
def readSize (s : String) : Option Nat :=
  let n? := match s.toList with
    | '+' :: ds => readPlain ds
    | ds => readPlain ds
  n?.filter (· < UInt64.size)

/-- A whole number with an optional sign. -/
def readSigned (s : String) : Option Int :=
  match s.toList with
  | '-' :: ds => (readPlain ds).map fun n => -(n : Int)
  | '+' :: ds => (readPlain ds).map Int.ofNat
  | ds => (readPlain ds).map Int.ofNat

/-- A whole number of 64 bits with sign. -/
def readInt64 (s : String) : Option Int64 :=
  ((readSigned s).filter fun n => FitsInt64 n).map Int64.ofInt

/-- A whole number of 32 bits without sign. -/
def readUInt32 (s : String) : Option UInt32 :=
  ((readSigned s).filter fun n => 0 ≤ n ∧ n < (UInt32.size : Int)).map
    fun n => UInt32.ofNat n.toNat

end RowFilter
