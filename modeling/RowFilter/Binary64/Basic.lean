/-
Finite binary floating-point numbers of 64 bits, without sign.

* `powerOfTwo`, `powerOfTen`: powers with natural exponents.
* `roundDiv`: a quotient, rounded to the nearest number; a tie goes to the
  even one.
* `Binary64`: a significand of at most 53 bits times a power of two.
* `Binary64.ofRatio?`: the number nearest to a ratio, unless it is beyond
  the largest.
* `Binary64.mul?`, `Binary64.div?`: rounded products and quotients.
-/

namespace RowFilter

/-- A power of two. -/
def powerOfTwo (k : Nat) : Nat := Nat.pow 2 k

/-- A power of ten. -/
def powerOfTen (k : Nat) : Nat := Nat.pow 10 k

/-- A quotient, rounded to the nearest number. A tie goes to the even one. -/
def roundDiv (n d : Nat) : Nat :=
  let k := n / d
  let r := n % d
  if 2 * r < d then k
  else if d < 2 * r then k + 1
  else if k % 2 = 0 then k else k + 1

/-- The number `significand * 2 ^ exponent`. -/
structure Binary64 where
  significand : Nat
  exponent : Int
deriving DecidableEq, Repr

namespace Binary64

/-- A ratio divided by a power of two. -/
def scaleDown (num den : Nat) (exponent : Int) : Nat × Nat :=
  if exponent < 0 then (num * powerOfTwo (-exponent).toNat, den)
  else (num, den * powerOfTwo exponent.toNat)

/-- The exponent for which a ratio has a significand of 53 bits, or the
least exponent if that is larger. -/
def exponentOf (num den : Nat) : Int :=
  let estimate : Int := num.log2 - den.log2 - 52
  let (n, d) := scaleDown num den estimate
  max (if d * powerOfTwo 52 ≤ n then estimate else estimate - 1) (-1074)

/-- The number nearest to a ratio, unless it is beyond the largest. -/
def ofRatio? (num den : Nat) : Option Binary64 :=
  let q := exponentOf num den
  let (n, d) := scaleDown num den q
  let m := roundDiv n d
  let (m, q) := if m = powerOfTwo 53 then (powerOfTwo 52, q + 1) else (m, q)
  if 971 < q then none else some ⟨m, q⟩

/-- Whether the number is zero. -/
def isZero (x : Binary64) : Bool := x.significand = 0

/-- The product, rounded. -/
def mul? (x y : Binary64) : Option Binary64 :=
  let (den, num) := scaleDown 1 (x.significand * y.significand)
    (x.exponent + y.exponent)
  ofRatio? num den

/-- The quotient, rounded. -/
def div? (x y : Binary64) : Option Binary64 :=
  let (den, num) := scaleDown y.significand x.significand
    (x.exponent - y.exponent)
  ofRatio? num den

/-- A power of ten, rounded. -/
def tenTo? (k : Nat) : Option Binary64 := ofRatio? (powerOfTen k) 1

/-- The number divided by the largest power of ten, so many times, or until
it is zero. -/
def lowered? (x : Binary64) : Nat → Option Binary64
  | 0 => some x
  | k + 1 =>
    if x.isZero then some x
    else ((tenTo? 308).bind x.div?).bind (lowered? · k)

/-- The number times a power of ten. The power is rounded before it is
multiplied or divided by; a division by a power beyond the largest number is
made in steps. -/
def timesTenTo? (x : Binary64) (e : Int) : Option Binary64 :=
  if x.isZero then some x
  else if 308 < e then none
  else if 0 ≤ e then (tenTo? e.toNat).bind x.mul?
  else
    let steps := ((-e).toNat - 1) / 308
    (x.lowered? steps).bind fun y =>
      (tenTo? ((-e).toNat - 308 * steps)).bind y.div?

end Binary64

end RowFilter
