/-
Computations that may fail.

* `except_bind_eq_ok_iff`, `except_check_eq_ok_iff`: when a computation in several
  steps, some of them checks, succeeds.
* `except_map_eq_ok_iff`, `except_map_eq_error_iff`: mapping a result keeps success and
  failure.
* `except_bind_map`: maps go through to the last step.
-/
import Mathlib.Tactic.Common

namespace RowFilter

variable {ε ε' α α' β β' : Type}

/-! ### Success and failure -/

/-- A computation in two steps succeeds when the first one does, and the
second one on its result. -/
lemma except_bind_eq_ok_iff {x : Except ε α} {f : α → Except ε β} {b : β} :
    (x >>= f) = .ok b ↔ ∃ a, x = .ok a ∧ f a = .ok b := by
  cases x with
  | error e =>
      constructor
      · intro h
        cases h
      · rintro ⟨_, h, _⟩
        cases h
  | ok a =>
      constructor
      · exact fun h => ⟨a, rfl, h⟩
      · rintro ⟨a', ha, h⟩
        cases ha
        exact h

/-- A check that throws is passed exactly when its condition fails. -/
lemma except_check_eq_ok_iff {p : Prop} [Decidable p] {err : ε}
    {k : PUnit → Except ε β} {x : Except ε β} {b : β} :
    (if p then (throw err >>= k) else x) = .ok b ↔ ¬ p ∧ x = .ok b := by
  by_cases h : p
  · rw [if_pos h]
    exact ⟨fun ht => (nomatch ht), fun ht => absurd h ht.1⟩
  · rw [if_neg h]
    exact ⟨fun hx => ⟨h, hx⟩, And.right⟩

lemma except_pure_eq_ok_iff {a b : α} :
    (pure a : Except ε α) = .ok b ↔ b = a :=
  ⟨fun h => (Except.ok.inj h).symm, fun h => congrArg Except.ok h.symm⟩

lemma except_map_eq_ok_iff {x : Except ε α} {f : α → β} {b : β} :
    x.map f = .ok b ↔ ∃ a, x = .ok a ∧ f a = b := by
  cases x <;> simp [Except.map]

lemma except_map_eq_error_iff {x : Except ε α} {f : α → β} {e : ε} :
    x.map f = .error e ↔ x = .error e := by
  cases x <;> simp [Except.map]

/-- Naming the place of a failure keeps success. -/
lemma except_mapError_eq_ok_iff {x : Except ε α} {f : ε → ε'} {a : α} :
    x.mapError f = .ok a ↔ x = .ok a := by
  cases x <;> simp [Except.mapError]

/-- A fault that is mapped was a fault before. -/
lemma except_mapError_eq_error_iff {x : Except ε α} {f : ε → ε'} {e : ε'} :
    x.mapError f = .error e ↔ ∃ d, x = .error d ∧ f d = e := by
  cases x <;> simp [Except.mapError]

/-! ### Maps -/

variable {x : Except ε α} {k : α → Except ε β} {g : β → β'}

/-- Computations in two steps with the same first step agree up to a map when their
second steps do. -/
lemma except_bind_map {k' : α → Except ε β'} (h : ∀ a, k' a = (k a).map g) :
    (x >>= k') = (x >>= k).map g := by
  cases x with
  | error e => rfl
  | ok a => exact h a

/-- Computations in two steps agree up to maps when their second steps do. -/
lemma except_map_bind {f : α → α'} {k' : α' → Except ε β'} (h : ∀ a, k' (f a) = (k a).map g) :
    (x.map f >>= k') = (x >>= k).map g := by
  cases x with
  | error e => rfl
  | ok a => exact h a

end RowFilter
