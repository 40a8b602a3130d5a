/-
What a prefix tree and a keyword table hold.

* `Trie.valueAt`: the value at the end of a path, which is the default value
  where the tree does not have the path.
* `Trie.valueAt_insert`: an insertion sets the value at its key and leaves all
  others.
* `Trie.SpelledIn`: trees whose paths consist of certain symbols.
* `Trie.isSome_find?_insert`: an insertion brings in the beginnings of its key.
* `Keywords.valueAt_ofList`: a table holds the last position of each of its
  words, plus one, and zero everywhere else.
* `Keywords.find?_bind_indexAt?`: so it knows the last position of each of its
  words, and nothing else.
* `Keywords.isSome_find?_ofList`: its paths are the beginnings of its words.
* `getLast?_idxsOf_eq_some_iff`: what the last position of a word is.
-/
import Mathlib.Data.List.Basic
import RowFilter.Keywords

namespace RowFilter

namespace Trie

universe u v
variable {κ : Type u} {α : Type v} [DecidableEq κ]

/-! ### Values at paths -/

section Values

variable [Inhabited α]

/-- The value at the end of a path, which is the default value where the tree
does not have the path. -/
def valueAt (t : Trie κ α) (path : List κ) : α := ((t.find? path).map value).getD default

/-- The tree of one node has the default value everywhere. -/
lemma valueAt_empty (path : List κ) : (empty : Trie κ α).valueAt path = default := by
  cases path <;> rfl

/-- A path leads on below its first symbol. -/
lemma valueAt_cons (t : Trie κ α) (k : κ) (path : List κ) :
    t.valueAt (k :: path) = ((t.child? k).getD empty).valueAt path := by
  rw [valueAt, find?]
  cases t.child? k with
  | none => exact (valueAt_empty path).symm
  | some u => rfl

/-- An insertion sets the value at its key and leaves all others. -/
theorem valueAt_insert (t : Trie κ α) (key path : List κ) (v : α) :
    (t.insert key v).valueAt path = if path = key then v else t.valueAt path := by
  induction key generalizing t path with
  | nil =>
      cases path with
      | nil => rfl
      | cons l path => rw [valueAt_cons, child?_insert_nil, ← valueAt_cons]; rfl
  | cons k key ih =>
      cases path with
      | nil => rfl
      | cons l path =>
          rw [valueAt_cons, child?_insert_cons, valueAt_cons]
          by_cases h : l = k
          · subst h
            simp [ih]
          · simp [h]

end Values

/-! ### Paths -/

/-- Trees whose paths consist of certain symbols. -/
def SpelledIn (P : κ → Prop) (t : Trie κ α) : Prop :=
  ∀ path, (t.find? path).isSome = true → ∀ k ∈ path, P k

variable {P : κ → Prop} {t u : Trie κ α}

/-- The way to a subtree, and the paths on from there. -/
lemma SpelledIn.child (h : t.SpelledIn P) {k : κ} (hk : t.child? k = some u) :
    P k ∧ u.SpelledIn P := by
  have below : ∀ path, t.find? (k :: path) = u.find? path := by
    intro path
    rw [find?, hk]
    rfl
  constructor
  · exact h [k] (by rw [below]; rfl) k (by simp)
  · intro path hp l hl
    exact h (k :: path) (by rwa [below]) l (by simp [hl])

/-- The paths on from the end of a path. -/
lemma SpelledIn.find (h : t.SpelledIn P) {path : List κ} (hu : t.find? path = some u) :
    u.SpelledIn P := by
  induction path generalizing t with
  | nil =>
      obtain rfl := Option.some.inj hu
      exact h
  | cons k path ih =>
      obtain ⟨w, hw, hu⟩ := Option.bind_eq_some_iff.mp hu
      exact ih (h.child hw).2 hu

/-- A path goes on with one symbol more below its end. -/
lemma find?_concat (t : Trie κ α) (path : List κ) (k : κ) :
    t.find? (path ++ [k]) = (t.find? path).bind (·.child? k) := by
  induction path generalizing t with
  | nil => exact Option.bind_fun_some _
  | cons l path ih =>
      rw [List.cons_append, find?, find?]
      cases t.child? l with
      | none => rfl
      | some u => exact ih u

/-- The tree of one node has the empty path only. -/
lemma isSome_find?_empty [Inhabited α] (path : List κ) :
    ((empty : Trie κ α).find? path).isSome = true ↔ path = [] := by
  cases path with
  | nil => simp [find?]
  | cons k path => simp [find?, child?, children, empty]

/-- An insertion brings in the beginnings of its key, and leaves all other paths. -/
theorem isSome_find?_insert [Inhabited α] (t : Trie κ α) (key path : List κ) (v : α) :
    ((t.insert key v).find? path).isSome = true ↔
      (t.find? path).isSome = true ∨ path <+: key := by
  induction key generalizing t path with
  | nil =>
      cases path with
      | nil => simp [find?]
      | cons l path => rw [find?, child?_insert_nil, ← find?]; simp
  | cons k key ih =>
      cases path with
      | nil => simp [find?]
      | cons l path =>
          rw [find?, child?_insert_cons, find?]
          by_cases h : l = k
          · subst h
            rw [if_pos rfl, Option.bind_some, ih, List.cons_prefix_cons]
            cases t.child? l with
            | none => simp only [Option.getD_none, isSome_find?_empty]; simp +contextual
            | some u => simp
          · simp [h, List.cons_prefix_cons]

/-- The tree of one node has no symbols. -/
lemma spelledIn_empty [Inhabited α] : (empty : Trie κ α).SpelledIn P := by
  intro path hp
  cases path with
  | nil => simp
  | cons k path => cases hp

/-- An insertion brings in the symbols of its key only. -/
lemma SpelledIn.insert [Inhabited α] (h : t.SpelledIn P) {key : List κ}
    (hkey : ∀ k ∈ key, P k) (v : α) : (t.insert key v).SpelledIn P := by
  induction key generalizing t with
  | nil =>
      intro path hp
      cases path with
      | nil => simp
      | cons l path =>
          refine h (l :: path) ?_
          rwa [find?, child?_insert_nil, ← find?] at hp
  | cons k key ih =>
      intro path hp
      cases path with
      | nil => simp
      | cons l path =>
          rw [find?, child?_insert_cons] at hp
          by_cases hl : l = k
          · subst hl
            have below : ((t.child? l).getD empty).SpelledIn P := by
              cases hu : t.child? l with
              | none => exact spelledIn_empty
              | some u => exact (h.child hu).2
            rw [if_pos rfl] at hp
            have rest := ih below (fun k hk => hkey k (by simp [hk])) path hp
            have first := hkey l (by simp)
            simpa using ⟨first, rest⟩
          · rw [if_neg hl] at hp
            exact h (l :: path) hp

end Trie

namespace Keywords

/-- Words that are entered set the numbers of their last positions, and leave all
others. -/
lemma valueAt_insertFrom (t : Keywords) (i : Nat) (ws : List String)
    (path : List Char) :
    (insertFrom t i ws).valueAt path =
      ((ws.idxsOf (String.ofList path) i).getLast?.map (· + 1)).getD (t.valueAt path) := by
  induction ws generalizing t i with
  | nil => rfl
  | cons w ws ih =>
      rw [insertFrom, ih, Trie.valueAt_insert, List.idxsOf_cons]
      by_cases h : path = w.toList
      · -- a later position of the word, if there is one, hides this one
        simp [h, List.getLast?_cons]
      · have other : (w == String.ofList path) = false := by
          rw [beq_eq_false_iff_ne]
          rintro rfl
          exact h (by simp)
        simp [h, other]

/-- A table holds the last position of each of its words, plus one, and zero everywhere
else. -/
theorem valueAt_ofList (ws : List String) (path : List Char) :
    (ofList ws).valueAt path =
      ((ws.idxsOf (String.ofList path)).getLast?.map (· + 1)).getD 0 := by
  rw [ofList, valueAt_insertFrom, Trie.valueAt_empty, Nat.default_eq_zero]

section Nodes

variable {ws : List String} {path : List Char} {node : Keywords}

/-- A node of a table has the last position of the word that ends there. -/
lemma indexAt?_eq (h : (ofList ws).find? path = some node) :
    indexAt? node = (ws.idxsOf (String.ofList path)).getLast? := by
  have value := valueAt_ofList ws path
  rw [Trie.valueAt, h, Option.map_some, Option.getD_some] at value
  rw [indexAt?, value]
  cases (ws.idxsOf (String.ofList path)).getLast? <;> rfl

/-- A table knows the last position of each of its words, and nothing else. -/
theorem find?_bind_indexAt? :
    ((ofList ws).find? path).bind indexAt? =
      (ws.idxsOf (String.ofList path)).getLast? := by
  cases h : (ofList ws).find? path with
  | some node => exact indexAt?_eq h
  | none =>
      have value := valueAt_ofList ws path
      rw [Trie.valueAt, h] at value
      cases last : (ws.idxsOf (String.ofList path)).getLast? with
      | none => rfl
      | some i =>
          rw [last] at value
          cases value

end Nodes

/-- The paths of a table consist of the characters of its words. -/
lemma spelledIn_ofList {P : Char → Prop} {ws : List String}
    (h : ∀ w ∈ ws, ∀ c ∈ w.toList, P c) : (ofList ws).SpelledIn P := by
  suffices key : ∀ (t : Keywords) (i : Nat), t.SpelledIn P →
      (insertFrom t i ws).SpelledIn P from key _ 0 Trie.spelledIn_empty
  induction ws with
  | nil => exact fun t i ht => ht
  | cons w ws ih =>
      intro t i ht
      exact ih (fun v hv => h v (by simp [hv])) _ (i + 1)
        (ht.insert (h w (by simp)) (i + 1))

/-- The paths of a table are the beginnings of its words. -/
theorem isSome_find?_ofList (ws : List String) (path : List Char) :
    ((ofList ws).find? path).isSome = true ↔ path = [] ∨ ∃ w ∈ ws, path <+: w.toList := by
  suffices key : ∀ (t : Keywords) (i : Nat), ((insertFrom t i ws).find? path).isSome = true ↔
      (t.find? path).isSome = true ∨ ∃ w ∈ ws, path <+: w.toList by
    rw [ofList, key, Trie.isSome_find?_empty]
  induction ws with
  | nil => simp [insertFrom]
  | cons w ws ih =>
      intro t i
      rw [insertFrom, ih, Trie.isSome_find?_insert, or_assoc, List.exists_mem_cons_iff]

end Keywords

/-- The last position of a word in a list is where it stands, with no equal word behind
it. -/
lemma getLast?_idxsOf_eq_some_iff {ws : List String} {w : String} {i : Nat} :
    (ws.idxsOf w).getLast? = some i ↔
      ws[i]? = some w ∧ ∀ j, i < j → ws[j]? ≠ some w := by
  have listed : ∀ j, j ∈ ws.idxsOf w ↔ ws[j]? = some w := fun j => by
    rw [List.mem_idxsOf_iff_exists_getElem_pos, List.getElem?_eq_some_iff]
    simp
  have increasing : (ws.idxsOf w).Pairwise (· < ·) := List.pairwise_idxsOf
  constructor
  · intro last
    refine ⟨(listed i).mp (List.mem_of_getLast? last), fun j lt hj => ?_⟩
    obtain ⟨front, split⟩ := List.getLast?_eq_some_iff.mp last
    have hj := (listed j).mpr hj
    rw [split] at increasing hj
    rcases List.mem_append.mp hj with hj | hj
    · have lt' := (List.pairwise_append.mp increasing).2.2 j hj i (by simp)
      omega
    · obtain rfl := List.mem_singleton.mp hj
      omega
  · rintro ⟨here, later⟩
    have mem := (listed i).mpr here
    cases last : (ws.idxsOf w).getLast? with
    | none =>
        rw [List.getLast?_eq_none_iff.mp last] at mem
        cases mem
    | some k =>
        have hk := (listed k).mp (List.mem_of_getLast? last)
        obtain ⟨front, split⟩ := List.getLast?_eq_some_iff.mp last
        rw [split] at mem increasing
        rcases List.mem_append.mp mem with hi | hi
        · have lt := (List.pairwise_append.mp increasing).2.2 i hi k (by simp)
          exact absurd hk (later k lt)
        · rw [List.mem_singleton.mp hi]

end RowFilter
