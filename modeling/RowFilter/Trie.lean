/-
Prefix trees over any alphabet.

* `Trie`: a node holds a value and one subtree for each symbol that leads
  on from it.
* `Trie.child?`, `Trie.find?`: one step down, and a walk along a path.
* `Trie.insert`: puts a value at the end of a key, with the default value
  at each node that it has to make.
* `child?_insert_cons`: an insertion below one symbol changes the subtree of
  that symbol and no other.
-/

namespace RowFilter

universe u v

/-- A prefix tree. The subtrees are listed with the symbols that lead to
them, each symbol at most once. -/
inductive Trie (κ : Type u) (α : Type v) where
  | node (value : α) (children : List (κ × Trie κ α))

namespace Trie

variable {κ : Type u} {α : Type v}

/-- The tree of one node, with the default value. -/
def empty [Inhabited α] : Trie κ α := .node default []

instance [Inhabited α] : Inhabited (Trie κ α) := ⟨empty⟩

/-- The value at the root. -/
def value : Trie κ α → α
  | .node v _ => v

/-- The subtrees below the root, with their symbols. -/
def children : Trie κ α → List (κ × Trie κ α)
  | .node _ cs => cs

variable [DecidableEq κ]

/-- The subtree that a symbol leads to. -/
def child? (t : Trie κ α) (k : κ) : Option (Trie κ α) :=
  t.children.lookup k

/-- The subtree at the end of a path. -/
def find? : Trie κ α → List κ → Option (Trie κ α)
  | t, [] => some t
  | t, k :: ks => (t.child? k).bind (find? · ks)

/-- Puts a value at the end of a key. Nodes that are missing on the way are
made with the default value. -/
def insert [Inhabited α] : Trie κ α → List κ → α → Trie κ α
  | t, [], v => .node v t.children
  | t, k :: ks, v =>
    let sub := insert ((t.child? k).getD empty) ks v
    .node t.value ((k, sub) :: t.children.filter fun c => c.1 ≠ k)

/-- The values at the nodes along a path, the root's first, as far as the
tree has the path. -/
def trail : Trie κ α → List κ → List α
  | t, [] => [t.value]
  | t, k :: ks =>
    t.value :: ((t.child? k).map (trail · ks)).getD []

/-! ### What an insertion changes -/

/-- Removing one symbol's entries does not disturb another symbol. -/
theorem lookup_filter_ne {β : Type v} {k l : κ} (h : l ≠ k) :
    ∀ cs : List (κ × β),
      (cs.filter fun c => c.1 ≠ k).lookup l = cs.lookup l
  | [] => rfl
  | (m, b) :: cs => by
    have ih := lookup_filter_ne h cs
    by_cases hm : m = k
    · subst hm
      have hl : (l == m) = false := by simpa using h
      simp only [ne_eq, not_true_eq_false, decide_false, Bool.false_eq_true,
        not_false_eq_true, List.filter_cons_of_neg, List.lookup_cons, hl]
      simpa using ih
    · simp only [ne_eq, hm, not_false_eq_true, decide_true,
        List.filter_cons_of_pos, List.lookup_cons]
      cases l == m
      · simpa using ih
      · rfl

/-- The empty key leaves all subtrees. -/
@[simp] theorem child?_insert_nil [Inhabited α] (t : Trie κ α) (v : α)
    (l : κ) : (t.insert [] v).child? l = t.child? l := rfl

/-- An insertion below `k` changes the subtree of `k` and no other. -/
theorem child?_insert_cons [Inhabited α] (t : Trie κ α) (k : κ)
    (ks : List κ) (v : α) (l : κ) :
    (t.insert (k :: ks) v).child? l =
      if l = k then some (((t.child? k).getD empty).insert ks v)
      else t.child? l := by
  by_cases h : l = k
  · subst h
    simp [insert, child?, children]
  · have hl : (l == k) = false := by simpa using h
    rw [if_neg h]
    simpa [insert, child?, children, List.lookup_cons, hl] using
      lookup_filter_ne h t.children

end Trie

end RowFilter
