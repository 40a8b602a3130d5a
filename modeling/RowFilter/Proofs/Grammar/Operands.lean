/-
Building expressions from operands, by the typing rules.

* `ofCall_eq_ok_iff`: an operator is applied to operands exactly by the
  typing rules `Applies`.
* `ofList_eq_ok_iff`: a list is made of items of one type that is no array.
-/
import RowFilter.Proofs.Computations
import RowFilter.Proofs.Grammar

namespace RowFilter

/-! ### Operands -/

namespace Expr

variable {op : Operator} {args : List Expr} {span : Span} {e : Expr}

lemma twoOperands_eq_ok_iff {left right : Expr} :
    twoOperands op args = .ok (left, right) ↔ args = [left, right] := by
  match args with
  | [] | [_] | [_, _] | _ :: _ :: _ :: _ => simp [twoOperands]

lemma onlyOperand_eq_ok_iff {arg : Expr} :
    onlyOperand op args = .ok arg ↔ args = [arg] := by
  match args with
  | [] | [_] | _ :: _ :: _ => simp [onlyOperand]

lemma asField_eq_ok_iff {column : Column} :
    asField op e = .ok column ↔ ∃ s, e = .column column s := by
  cases e <;> simp [asField]

lemma asText_eq_ok_iff {text : String} :
    asText op e = .ok text ↔ ∃ s, e = .literal (.text text) s := by
  cases e with
  | literal v s => cases v <;> simp [asText]
  | _ => simp [asText]

lemma requirePredicates_eq_ok_iff {u : Unit} :
    requirePredicates op args = .ok u ↔ ∀ a ∈ args, a.type = .bool := by
  have found : requirePredicates op args = .ok u ↔
      args.find? (!·.isPredicate) = none := by
    rw [requirePredicates]
    split <;> simp_all
  rw [found, List.find?_eq_none]
  simp [isPredicate]

/-! ### Operators -/

lemma ofComparison_eq_ok_iff {c : Comparison} :
    ofComparison op c args span = .ok e ↔
      ∃ left right, args = [left, right] ∧ left.type = right.type ∧
        e = .compare c left right span := by
  simp only [ofComparison, except_bind_eq_ok_iff, Prod.exists,
    twoOperands_eq_ok_iff, except_check_eq_ok_iff, except_pure_eq_ok_iff,
    ne_eq, not_not]

lemma ofMembership_eq_ok_iff :
    ofMembership op args span = .ok e ↔
      ∃ left right, args = [left, right] ∧ right.type = .array left.type ∧
        e = .isIn left right span := by
  simp only [ofMembership, except_bind_eq_ok_iff, Prod.exists,
    twoOperands_eq_ok_iff, except_check_eq_ok_iff, except_pure_eq_ok_iff,
    ne_eq, not_not]

lemma ofJunction_eq_ok_iff {kind : Junction} :
    ofJunction op kind args span = .ok e ↔
      2 ≤ args.length ∧ (∀ a ∈ args, a.type = .bool) ∧
        e = .junction kind args span := by
  simp only [ofJunction, except_bind_eq_ok_iff, except_check_eq_ok_iff,
    except_pure_eq_ok_iff, requirePredicates_eq_ok_iff, exists_const, Nat.not_lt]

lemma ofNegation_eq_ok_iff :
    ofNegation op args span = .ok e ↔
      ∃ arg, args = [arg] ∧ arg.type = .bool ∧ e = .not arg span := by
  simp only [ofNegation, except_bind_eq_ok_iff, onlyOperand_eq_ok_iff,
    except_pure_eq_ok_iff, requirePredicates_eq_ok_iff, exists_const,
    List.forall_mem_singleton]

lemma ofLike_eq_ok_iff :
    ofLike op args span = .ok e ↔
      ∃ left right, args = [left, right] ∧
        ∃ column, (∃ s, left = .column column s) ∧
          ∃ pattern, (∃ s, right = .literal (.text pattern) s) ∧
            e = .like column pattern span := by
  simp only [ofLike, except_bind_eq_ok_iff, Prod.exists,
    twoOperands_eq_ok_iff, asField_eq_ok_iff, asText_eq_ok_iff,
    except_pure_eq_ok_iff]

lemma ofAnyLike_eq_ok_iff :
    ofAnyLike op args span = .ok e ↔
      ∃ left right, args = [left, right] ∧
        ∃ column, (∃ s, left = .column column s) ∧
          column.type = .array .string ∧
            ∃ pattern, (∃ s, right = .literal (.text pattern) s) ∧
              e = .anyLike column pattern span := by
  simp only [ofAnyLike, except_bind_eq_ok_iff, Prod.exists,
    twoOperands_eq_ok_iff, asField_eq_ok_iff, asText_eq_ok_iff,
    except_check_eq_ok_iff, except_pure_eq_ok_iff, ne_eq, not_not]

lemma ofDate_eq_ok_iff {readDate : DateReader} :
    ofDate readDate op args span = .ok e ↔
      ∃ arg, args = [arg] ∧ ∃ input, (∃ s, arg = .literal (.text input) s) ∧
        ∃ d, readDate input = .ok d ∧ e = .literal (.date d) span := by
  simp only [ofDate, except_bind_eq_ok_iff, onlyOperand_eq_ok_iff,
    asText_eq_ok_iff]
  refine exists_congr fun arg => and_congr_right fun _ => exists_congr fun input =>
    and_congr_right fun _ => ?_
  cases readDate input with
  | error r =>
      constructor
      · intro h
        cases h
      · rintro ⟨_, h, _⟩
        cases h
  | ok d => simp [except_pure_eq_ok_iff]

/-- An operator is applied to operands exactly by the typing rules. -/
lemma ofCall_eq_ok_iff {readDate : DateReader} :
    ofCall readDate op args span = .ok e ↔ Applies readDate op args span e := by
  constructor
  · intro h
    cases op with
    | equal | greater | less | greaterOrEqual | lessOrEqual =>
        obtain ⟨left, right, rfl, hty, rfl⟩ := ofComparison_eq_ok_iff.mp h
        exact .compare rfl hty
    | isIn =>
        obtain ⟨left, right, rfl, hty, rfl⟩ := ofMembership_eq_ok_iff.mp h
        exact .isIn hty
    | and =>
        obtain ⟨two, hty, rfl⟩ := ofJunction_eq_ok_iff.mp h
        exact .and two hty
    | or =>
        obtain ⟨two, hty, rfl⟩ := ofJunction_eq_ok_iff.mp h
        exact .or two hty
    | not =>
        obtain ⟨arg, rfl, hty, rfl⟩ := ofNegation_eq_ok_iff.mp h
        exact .not hty
    | like =>
        obtain ⟨_, _, rfl, column, ⟨_, rfl⟩, pattern, ⟨_, rfl⟩, rfl⟩ :=
          ofLike_eq_ok_iff.mp h
        exact .like
    | anyLike =>
        obtain ⟨_, _, rfl, column, ⟨_, rfl⟩, hty, pattern, ⟨_, rfl⟩, rfl⟩ :=
          ofAnyLike_eq_ok_iff.mp h
        exact .anyLike hty
    | date =>
        obtain ⟨_, rfl, input, ⟨_, rfl⟩, d, hd, rfl⟩ := ofDate_eq_ok_iff.mp h
        exact .date hd
  · intro h
    cases h with
    | @compare _ c left right _ hc hty =>
        have built : ofComparison op c [left, right] span
            = .ok (.compare c left right span) :=
          ofComparison_eq_ok_iff.mpr ⟨left, right, rfl, hty, rfl⟩
        cases op <;> cases hc <;> exact built
    | isIn hty => exact ofMembership_eq_ok_iff.mpr ⟨_, _, rfl, hty, rfl⟩
    | and two hty => exact ofJunction_eq_ok_iff.mpr ⟨two, hty, rfl⟩
    | or two hty => exact ofJunction_eq_ok_iff.mpr ⟨two, hty, rfl⟩
    | not hty => exact ofNegation_eq_ok_iff.mpr ⟨_, rfl, hty, rfl⟩
    | like =>
        exact ofLike_eq_ok_iff.mpr
          ⟨_, _, rfl, _, ⟨_, rfl⟩, _, ⟨_, rfl⟩, rfl⟩
    | anyLike hty =>
        exact ofAnyLike_eq_ok_iff.mpr
          ⟨_, _, rfl, _, ⟨_, rfl⟩, hty, _, ⟨_, rfl⟩, rfl⟩
    | date hd => exact ofDate_eq_ok_iff.mpr ⟨_, rfl, _, ⟨_, rfl⟩, _, hd, rfl⟩

/-! ### Lists -/

/-- A list is made of items, one or more, of one type that is no array. -/
lemma ofList_eq_ok_iff :
    ofList args span = .ok e ↔
      args ≠ [] ∧ ∃ type, (∀ a ∈ args, a.type = type) ∧ type.isArray = false ∧
        e = .list type args span := by
  cases args with
  | nil => simp [ofList]
  | cons first rest =>
      constructor
      · intro h
        simp only [ofList] at h
        split at h
        · cases h
        · next hty =>
          split at h
          · cases h
          · next hall =>
            have same : ∀ a ∈ first :: rest, a.type = first.type := by
              simpa using List.find?_eq_none.mp hall
            exact ⟨by simp, first.type, same, by simpa using hty,
              (Except.ok.inj h).symm⟩
      · rintro ⟨-, type, same, hty, rfl⟩
        obtain rfl : first.type = type := same first (by simp)
        have none : (first :: rest).find? (·.type ≠ first.type) = none :=
          List.find?_eq_none.mpr (by simpa using same)
        simp only [ofList, hty, none, Bool.false_eq_true, if_false]

end Expr

end RowFilter
