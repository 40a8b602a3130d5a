/-
Numerals in JSON.

* `Numeral`: the sign, the digits and the exponent of a numeral.
* `Numeral.value?`: the integer or the floating-point number that a numeral
  stands for, unless it is too large.
* `readNumeralText`: reads a numeral from the front of a text.
* `length_readNumeralText`: what is left is shorter.
-/
import RowFilter.Binary64.Shortest
import RowFilter.Bounds
import RowFilter.Json.Text
import RowFilter.Text.Decimal

namespace RowFilter

/-- A numeral as it is written. -/
structure Numeral where
  negative : Bool
  /-- The digits before the point. -/
  whole : List Char
  /-- The digits behind the point; none if there is no point. -/
  fraction : List Char
  /-- The digits of the exponent and whether it is negative. -/
  exponent : Option (Bool × List Char)
deriving DecidableEq, Repr

/-- What a numeral stands for. -/
inductive NumeralValue where
  | integer (n : Int)
  | float (negative : Bool) (x : Binary64)
deriving DecidableEq, Repr

namespace Numeral

/-- Appends digits to a number as long as it fits 64 bits; what is left of
the digits. -/
def absorb (n : Nat) : List Char → Nat × List Char
  | [] => (n, [])
  | d :: ds =>
    let next := 10 * n + digitValue d
    if next < UInt64.size then absorb next ds else (n, d :: ds)

/-- The digits as a whole number of at most 64 bits, and the power of ten
that it counts. Digits that do not fit count as zero. -/
def digits (a : Numeral) : Nat × Int :=
  let (n, whole) := absorb 0 a.whole
  let (n, fraction) := absorb n a.fraction
  (n, (whole.length : Int) - (a.fraction.length - fraction.length : Nat))

/-- The floating-point number of a numeral. An exponent beyond 31 bits makes
it zero or too large. -/
def float? (a : Numeral) : Option Binary64 :=
  let (n, power) := a.digits
  (Binary64.ofRatio? n 1).bind fun x =>
    match a.exponent with
    | none => x.timesTenTo? power
    | some (negative, ds) =>
      let e := ofDigits ds
      if e ≤ int32Max then
        x.timesTenTo? (if negative then power - e else power + e)
      else if n = 0 ∨ negative then Binary64.ofRatio? 0 1
      else none

/-- Whether the numeral has only the digits of a whole number. -/
def isWhole (a : Numeral) : Bool := a.fraction.isEmpty && a.exponent.isNone

/-- What a numeral stands for: an integer if it is whole and fits 64 bits,
and is not a negative zero; otherwise a floating-point number, if that is not
too large. -/
def value? (a : Numeral) : Option NumeralValue :=
  let n := ofDigits a.whole
  if a.isWhole ∧ !a.negative ∧ n < UInt64.size then some (.integer n)
  else if a.isWhole ∧ a.negative ∧ 0 < n ∧ n ≤ int64Max + 1 then
    some (.integer (-n))
  else a.float?.map (.float a.negative)

end Numeral

/-! ### Reading -/

/-- Digits at the front of a text, one at least. -/
def readDigits (s : List Char) : Except JsonFault (List Char × List Char) :=
  let ds := s.takeWhile Char.isDigit
  if ds.isEmpty then .error (if s.isEmpty then .cutOff else .malformed)
  else .ok (ds, s.dropWhile Char.isDigit)

/-- The digits before the point: a zero stands alone. -/
def readWhole (s : List Char) : Except JsonFault (List Char × List Char) :=
  (readDigits s).bind fun (ds, rest) =>
    if ds.head? = some '0' ∧ 1 < ds.length then .error .malformed
    else .ok (ds, rest)

/-- The digits behind the point, if there is a point. -/
def readFraction (s : List Char) : Except JsonFault (List Char × List Char) :=
  match s with
  | '.' :: s => readDigits s
  | _ => .ok ([], s)

/-- Digits behind a sign, which is plus if there is none. -/
def readSignedDigits (s : List Char) :
    Except JsonFault ((Bool × List Char) × List Char) :=
  match s with
  | '-' :: s => (readDigits s).map fun (ds, rest) => ((true, ds), rest)
  | '+' :: s => (readDigits s).map fun (ds, rest) => ((false, ds), rest)
  | s => (readDigits s).map fun (ds, rest) => ((false, ds), rest)

/-- The exponent, if there is one. -/
def readExponent (s : List Char) :
    Except JsonFault (Option (Bool × List Char) × List Char) :=
  match s with
  | 'e' :: s => (readSignedDigits s).map fun (e, rest) => (some e, rest)
  | 'E' :: s => (readSignedDigits s).map fun (e, rest) => (some e, rest)
  | s => .ok (none, s)

/-- Drops a minus sign, and says whether there was one. -/
def dropMinus : List Char → Bool × List Char
  | '-' :: s => (true, s)
  | s => (false, s)

/-- Reads a numeral from the front of a text. -/
def readNumeralText (s : List Char) :
    Except JsonFault (Numeral × List Char) := do
  let (whole, rest) ← readWhole (dropMinus s).2
  let (fraction, rest) ← readFraction rest
  let (exponent, rest) ← readExponent rest
  return (⟨(dropMinus s).1, whole, fraction, exponent⟩, rest)

/-! ### What is left -/

/-- What is left behind digits is shorter. -/
theorem length_readDigits {s ds rest : List Char}
    (h : readDigits s = .ok (ds, rest)) : rest.length < s.length := by
  unfold readDigits at h
  simp only at h
  split at h
  · cases h
  · next some =>
    obtain ⟨rfl, rfl⟩ := Prod.mk.inj (Except.ok.inj h)
    have parts := congrArg List.length
      (List.takeWhile_append_dropWhile (p := Char.isDigit) (l := s))
    have : 0 < (s.takeWhile Char.isDigit).length :=
      List.length_pos_iff.2 (by simpa using some)
    rw [List.length_append] at parts
    omega

/-- What is left behind the whole part is shorter. -/
theorem length_readWhole {s ds rest : List Char}
    (h : readWhole s = .ok (ds, rest)) : rest.length < s.length := by
  unfold readWhole at h
  cases hd : readDigits s with
  | error e => rw [hd] at h; cases h
  | ok r =>
    obtain ⟨ds', rest'⟩ := r
    rw [hd] at h
    simp only [Except.bind] at h
    split at h
    · cases h
    · obtain ⟨rfl, rfl⟩ := Prod.mk.inj (Except.ok.inj h)
      exact length_readDigits hd

/-- What is left behind the fraction is no longer. -/
theorem length_readFraction {s ds rest : List Char}
    (h : readFraction s = .ok (ds, rest)) : rest.length ≤ s.length := by
  unfold readFraction at h
  split at h
  · have := length_readDigits h
    simp only [List.length_cons]
    omega
  · obtain ⟨rfl, rfl⟩ := Prod.mk.inj (Except.ok.inj h)
    exact Nat.le_refl _

/-- What is left behind the digits of an exponent is shorter. -/
theorem length_readSignedDigits {s rest : List Char}
    {e : Bool × List Char} (h : readSignedDigits s = .ok (e, rest)) :
    rest.length < s.length := by
  have digits : ∀ {negative : Bool} {t : List Char},
      (readDigits t).map (fun (ds, rest) => ((negative, ds), rest))
        = .ok (e, rest) → rest.length < t.length := by
    intro negative t h
    cases hd : readDigits t with
    | error e => rw [hd] at h; cases h
    | ok r =>
      obtain ⟨ds, rest'⟩ := r
      rw [hd] at h
      obtain ⟨_, rfl⟩ := Prod.mk.inj (Except.ok.inj h)
      exact length_readDigits hd
  unfold readSignedDigits at h
  split at h
  · exact Nat.lt_succ_of_lt (digits h)
  · exact Nat.lt_succ_of_lt (digits h)
  · exact digits h

/-- What is left behind the exponent is no longer. -/
theorem length_readExponent {s rest : List Char}
    {e : Option (Bool × List Char)} (h : readExponent s = .ok (e, rest)) :
    rest.length ≤ s.length := by
  have signed : ∀ {t : List Char},
      (readSignedDigits t).map (fun (e, rest) => (some e, rest))
        = .ok (e, rest) → rest.length ≤ t.length := by
    intro t h
    cases hd : readSignedDigits t with
    | error e => rw [hd] at h; cases h
    | ok r =>
      obtain ⟨e', rest'⟩ := r
      rw [hd] at h
      obtain ⟨_, rfl⟩ := Prod.mk.inj (Except.ok.inj h)
      exact Nat.le_of_lt (length_readSignedDigits hd)
  unfold readExponent at h
  split at h
  · exact Nat.le_succ_of_le (signed h)
  · exact Nat.le_succ_of_le (signed h)
  · obtain ⟨_, rfl⟩ := Prod.mk.inj (Except.ok.inj h)
    exact Nat.le_refl _

/-- What is left behind a numeral is shorter. -/
theorem length_readNumeralText {s rest : List Char} {a : Numeral}
    (h : readNumeralText s = .ok (a, rest)) : rest.length < s.length := by
  have sign : (dropMinus s).2.length ≤ s.length := by
    unfold dropMinus
    split
    · exact Nat.le_succ _
    · exact Nat.le_refl _
  unfold readNumeralText at h
  simp only [bind, Except.bind] at h
  split at h
  · cases h
  · next hw =>
    split at h
    · cases h
    · next hf =>
      split at h
      · cases h
      · next he =>
        obtain ⟨_, rfl⟩ := Prod.mk.inj (Except.ok.inj h)
        have := length_readWhole hw
        have := length_readFraction hf
        have := length_readExponent he
        omega

end RowFilter
