/-
What a prefix tree holds after any number of insertions.

* `Trie.insertAll`: insertions one after the other.
* `isSome_find?_insertAll`: the paths of the tree are the beginnings of the keys.
* `LastValue`, `lastValue_valueAt`: a path has the value of the last insertion with
  this key.
* `Trie.Alike`: trees that no walk can tell apart, and `alike_insertAll_swap`:
  insertions of different keys commute up to it.
* `Keywords.indexAt?_eq_some_iff`: a node of a keyword table has the last position of
  the word that ends there.
* `find?_insertAll`: all this together.
-/
import Mathlib.Data.List.Induction
import RowFilter.Proofs.Keywords

namespace RowFilter

universe u v

namespace Trie

variable {κ : Type u} {α : Type v} [DecidableEq κ] [Inhabited α]
variable {t t' : Trie κ α}

/-- Insertions one after the other. -/
def insertAll (t : Trie κ α) (entries : List (List κ × α)) : Trie κ α :=
  entries.foldl (fun t e => t.insert e.1 e.2) t

/-! ### Paths -/

/-- Insertions bring in the beginnings of their keys, and leave all other paths. -/
lemma isSome_find?_insertAll (entries : List (List κ × α)) (path : List κ) :
    ((t.insertAll entries).find? path).isSome = true ↔
      (t.find? path).isSome = true ∨ ∃ e ∈ entries, path <+: e.1 := by
  induction entries generalizing t with
  | nil => simp [insertAll]
  | cons e entries ih =>
      have first : t.insertAll (e :: entries) = (t.insert e.1 e.2).insertAll entries := rfl
      rw [first, ih, isSome_find?_insert, or_assoc, List.exists_mem_cons_iff]

/-! ### Values -/

/-- The value that the last of some entries gives to a key; without an entry it is the
default value. -/
inductive LastValue (entries : List (List κ × α)) (key : List κ) : α → Prop where
  | written {before after : List (List κ × α)} {v : α} :
      entries = before ++ (key, v) :: after → (∀ e ∈ after, e.1 ≠ key) →
      LastValue entries key v
  | missing : (∀ e ∈ entries, e.1 ≠ key) → LastValue entries key default

omit [DecidableEq κ] in
/-- An entry with another key changes nothing. -/
lemma LastValue.concat {entries : List (List κ × α)} {key : List κ} {v : α}
    (h : LastValue entries key v) {e : List κ × α} (ne : e.1 ≠ key) :
    LastValue (entries ++ [e]) key v := by
  have last : ∀ d ∈ [e], d.1 ≠ key := by simpa using ne
  cases h with
  | @written before after v split others =>
      have longer : entries ++ [e] = before ++ (key, v) :: (after ++ [e]) := by
        rw [split, List.append_assoc, List.cons_append]
      exact .written longer (List.forall_mem_append.mpr ⟨others, last⟩)
  | missing none => exact .missing (List.forall_mem_append.mpr ⟨none, last⟩)

/-- A path has the value of the last insertion with this key. -/
lemma lastValue_valueAt (entries : List (List κ × α)) (path : List κ) :
    LastValue entries path ((empty.insertAll entries).valueAt path) := by
  induction entries using List.reverseRecOn with
  | nil =>
      have start : (empty.insertAll []).valueAt path = (default : α) := valueAt_empty path
      rw [start]
      exact .missing (List.forall_mem_nil _)
  | append_singleton entries e ih =>
      have last : (empty : Trie κ α).insertAll (entries ++ [e]) =
          (empty.insertAll entries).insert e.1 e.2 := List.foldl_concat ..
      rw [last, valueAt_insert]
      by_cases h : path = e.1
      · rw [if_pos h]
        exact .written (by rw [h]) (List.forall_mem_nil _)
      · rw [if_neg h]
        exact ih.concat (Ne.symm h)

/-! ### Order -/

/-- Trees that no walk can tell apart. -/
def Alike (t t' : Trie κ α) : Prop :=
  ∀ path, (t.find? path).map value = (t'.find? path).map value

/-- Trees with the same paths, and the same values along them, are alike. -/
lemma Alike.of_forall
    (paths : ∀ path, (t.find? path).isSome = true ↔ (t'.find? path).isSome = true)
    (values : ∀ path, t.valueAt path = t'.valueAt path) : t.Alike t' := by
  intro path
  have same := paths path
  have value := values path
  rw [valueAt, valueAt] at value
  cases h : t.find? path <;> cases h' : t'.find? path <;> simp_all

/-- Insertions set the same values in trees with the same values. -/
lemma valueAt_insertAll_congr (entries : List (List κ × α))
    (same : ∀ path, t.valueAt path = t'.valueAt path) (path : List κ) :
    (t.insertAll entries).valueAt path = (t'.insertAll entries).valueAt path := by
  induction entries generalizing t t' with
  | nil => exact same path
  | cons e entries ih =>
      have first : ∀ path,
          (t.insert e.1 e.2).valueAt path = (t'.insert e.1 e.2).valueAt path := by
        intro path
        rw [valueAt_insert, valueAt_insert, same]
      exact ih first

/-- Insertions of different keys may change places, wherever they stand. -/
lemma alike_insertAll_swap {d e : List κ × α} (ne : d.1 ≠ e.1)
    (before after : List (List κ × α)) :
    (t.insertAll (before ++ d :: e :: after)).Alike
      (t.insertAll (before ++ e :: d :: after)) := by
  refine .of_forall (fun path => ?_) fun path => ?_
  · have swap : (before ++ d :: e :: after).Perm (before ++ e :: d :: after) :=
      (List.Perm.swap e d after).append_left before
    simp only [isSome_find?_insertAll, swap.mem_iff]
  · have cut : ∀ rest, t.insertAll (before ++ rest) = (t.insertAll before).insertAll rest :=
      fun rest => List.foldl_append ..
    rw [cut, cut]
    refine valueAt_insertAll_congr after (fun path => ?_) path
    simp only [valueAt_insert]
    by_cases hd : path = d.1
    · subst hd
      rw [if_neg ne, if_pos rfl, if_pos rfl]
    · rw [if_neg hd, if_neg hd]

end Trie

/-! ### Keyword tables -/

namespace Keywords

section Nodes

variable {words : List String} {path : List Char} {node : Keywords}

/-- A node of a keyword table has the last position of the word that ends there. -/
lemma indexAt?_eq_some_iff (h : (ofList words).find? path = some node) {i : Nat} :
    indexAt? node = some i ↔
      words[i]? = some (String.ofList path) ∧
        ∀ j, i < j → words[j]? ≠ some (String.ofList path) := by
  rw [indexAt?_eq h, getLast?_idxsOf_eq_some_iff]

/-- A node of a keyword table has no position if no word ends there. -/
lemma indexAt?_eq_none_iff (h : (ofList words).find? path = some node) :
    indexAt? node = none ↔ String.ofList path ∉ words := by
  rw [indexAt?_eq h, List.getLast?_eq_none_iff, List.idxsOf_eq_nil_iff]
  simpa using List.forall_mem_ne'

end Nodes

end Keywords

open RowFilter.Trie (Alike LastValue empty)

/-- **Prefix trees remember the last insertion.** After any insertions into the empty
tree, its paths are the beginnings of the keys, and each has the value of the last
insertion with this key, or the default value if there is none; insertions of different
keys may change places. So a keyword table finds the beginnings of its words, and the
node at the end of a path has the last position of the word that it spells, if that is
a word of the table. -/
theorem Trie.find?_insertAll (κ : Type u) (α : Type v) [DecidableEq κ] [Inhabited α] :
    (∀ (entries : List (List κ × α)) (path : List κ),
      (((empty.insertAll entries).find? path).isSome = true ↔
        path = [] ∨ ∃ e ∈ entries, path <+: e.1) ∧
      ∀ node, (empty.insertAll entries).find? path = some node →
        LastValue entries path node.value) ∧
    (∀ (d e : List κ × α), d.1 ≠ e.1 → ∀ before after : List (List κ × α),
      (empty.insertAll (before ++ d :: e :: after)).Alike
        (empty.insertAll (before ++ e :: d :: after))) ∧
    ∀ (words : List String) (path : List Char),
      (((Keywords.ofList words).find? path).isSome = true ↔
        path = [] ∨ ∃ w ∈ words, path <+: w.toList) ∧
      ∀ node, (Keywords.ofList words).find? path = some node →
        (∀ i, Keywords.indexAt? node = some i ↔
          words[i]? = some (String.ofList path) ∧
            ∀ j, i < j → words[j]? ≠ some (String.ofList path)) ∧
        (Keywords.indexAt? node = none ↔ String.ofList path ∉ words) := by
  refine ⟨fun entries path => ⟨?_, fun node found => ?_⟩,
    fun d e ne before after => alike_insertAll_swap ne before after,
    fun words path => ⟨Keywords.isSome_find?_ofList words path, fun node found =>
      ⟨fun i => Keywords.indexAt?_eq_some_iff found, Keywords.indexAt?_eq_none_iff found⟩⟩⟩
  · rw [isSome_find?_insertAll, isSome_find?_empty]
  · have value := lastValue_valueAt entries path
    rwa [valueAt, found] at value

end RowFilter
