/-
The shortest decimal form of a floating-point number.

* `Binary64.shortest`: the fewest decimal digits that are nearer to the
  number than to any other, and of these the nearest.
* `placePoint`: digits with a decimal point, or with an exponent.
* `Binary64.text`: the shortest decimal form.
-/
import RowFilter.Binary64.Basic

namespace RowFilter

namespace Binary64

/-- The position of the first decimal digit of a positive ratio. -/
def leadingPosition (num den : Nat) : Int :=
  let estimate : Int :=
    (Nat.toDigits 10 num).length - (Nat.toDigits 10 den).length
  let reached :=
    if estimate < 0 then den ≤ num * powerOfTen (-estimate).toNat
    else den * powerOfTen estimate.toNat ≤ num
  if reached then estimate else estimate - 1

/-- The ratio of a quarter of the last binary place to a power of ten. -/
def quarterPlace (x : Binary64) (p : Int) : Nat × Nat :=
  let q := x.exponent - 2
  let num := powerOfTwo q.toNat * powerOfTen (-p).toNat
  let den := powerOfTwo (-q).toNat * powerOfTen p.toNat
  (num, den)

/-- A multiple of the power `p` of ten that is read back as the number, and
of two such the nearer one, or the even one if they are equally near. What is
read back lies within half a place of
the number; the half below is smaller if the number is a power of two. -/
def multipleAt? (x : Binary64) (p : Int) : Option Nat :=
  let (num, den) := x.quarterPlace p
  let m := x.significand
  let low := if m = powerOfTwo 52 ∧ -1074 < x.exponent then 4 * m - 1 else 4 * m - 2
  let high := 4 * m + 2
  let fits (k : Nat) : Bool :=
    if m % 2 = 0 then low * num ≤ k * den ∧ k * den ≤ high * num
    else low * num < k * den ∧ k * den < high * num
  let k := 4 * m * num / den
  match fits k, fits (k + 1) with
  | true, true => some (roundDiv (4 * m * num) den)
  | true, false => some k
  | false, true => some (k + 1)
  | false, false => none

/-- The fewest digits, as a number and the power of ten that it counts. -/
def shortest (x : Binary64) : Nat × Int :=
  let (num, den) := scaleDown 1 x.significand x.exponent
  let first := leadingPosition den num
  ((List.range 17).findSome? fun (n : Nat) =>
    let p := first - n
    (x.multipleAt? p).map (·, p)).getD (0, 0)

/-- Digits without the zeros at their end, and how many zeros these are. -/
def dropZeros (digits : List Char) : List Char × Nat :=
  let zeros := digits.reverse.takeWhile (· = '0')
  (digits.take (digits.length - zeros.length), zeros.length)

/-- A number with its sign. -/
def signedText (n : Int) : String :=
  if n < 0 then toString n else "+" ++ toString n

/-- Digits that count a power of ten. The point is written in its place if
that is at most sixteen digits behind the first or five places before it;
otherwise the digits have an exponent with its sign. -/
def placePoint (digits : List Char) (power : Int) : String :=
  let point := digits.length + power
  let zeros (n : Int) := List.replicate n.toNat '0'
  if 0 ≤ power ∧ point ≤ 16 then
    String.ofList (digits ++ zeros power ++ ['.', '0'])
  else if 0 < point ∧ point ≤ 16 then
    String.ofList (digits.take point.toNat ++ '.' :: digits.drop point.toNat)
  else if -5 < point ∧ point ≤ 0 then
    String.ofList ('0' :: '.' :: zeros (-point) ++ digits)
  else
    let rest := digits.drop 1
    String.ofList (digits.take 1 ++ if rest.isEmpty then [] else '.' :: rest)
      ++ "e" ++ signedText (point - 1)

/-- The shortest decimal form. -/
def text (x : Binary64) : String :=
  if x.isZero then "0.0"
  else
    let (k, p) := x.shortest
    let (digits, zeros) := dropZeros (Nat.toDigits 10 k)
    placePoint digits (p + zeros)

end Binary64

end RowFilter
