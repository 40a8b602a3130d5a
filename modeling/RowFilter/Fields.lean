/-
The fields of a table: names with types, in the order of the names.

* `Fields`: a list sorted by name, each name once.
* `Fields.insert`: declares a field, in place of one of the same name.
* `Fields.find?`: the type of a field.
* `find?_insert`: the last declaration of a name counts, and others stay.
* `mem_entries_ofList`: every field was declared.
* `ofList_entries`: fields are declared by themselves.
-/
import RowFilter.ValueType

namespace RowFilter

/-- Declares a field in a sorted list of fields. -/
def insertField (name : String) (type : ValueType) :
    List (String × ValueType) → List (String × ValueType)
  | [] => [(name, type)]
  | f :: fs =>
    if name < f.1 then (name, type) :: f :: fs
    else if name = f.1 then (name, type) :: fs
    else f :: insertField name type fs

/-- What is in a list after an insertion was there before or is new. -/
theorem mem_insertField {name : String} {type : ValueType}
    {fs : List (String × ValueType)} {g : String × ValueType}
    (h : g ∈ insertField name type fs) : g = (name, type) ∨ g ∈ fs := by
  induction fs with
  | nil => simpa [insertField] using h
  | cons f fs ih =>
    unfold insertField at h
    split at h
    · simpa using h
    · split at h
      · rcases List.mem_cons.1 h with h | h
        · exact .inl h
        · exact .inr (List.mem_cons_of_mem _ h)
      · rcases List.mem_cons.1 h with h | h
        · exact .inr (h ▸ List.mem_cons_self ..)
        · exact (ih h).imp id (List.mem_cons_of_mem _)

/-- An insertion keeps a list sorted. -/
theorem sorted_insertField (name : String) (type : ValueType)
    {fs : List (String × ValueType)} (h : fs.Pairwise (·.1 < ·.1)) :
    (insertField name type fs).Pairwise (·.1 < ·.1) := by
  induction fs with
  | nil => simp [insertField]
  | cons f fs ih =>
    obtain ⟨below, rest⟩ := List.pairwise_cons.1 h
    unfold insertField
    split
    · next lt =>
      refine List.pairwise_cons.2 ⟨fun g hg => ?_, h⟩
      rcases List.mem_cons.1 hg with rfl | hg
      · exact lt
      · exact String.lt_trans lt (below g hg)
    · split
      · next eq => exact List.pairwise_cons.2 ⟨fun g hg => eq ▸ below g hg, rest⟩
      · next nlt ne =>
        refine List.pairwise_cons.2 ⟨fun g hg => ?_, ih rest⟩
        rcases mem_insertField hg with rfl | hg
        · exact Std.lt_of_le_of_ne (String.not_lt.1 nlt) (Ne.symm ne)
        · exact below g hg

/-- A field behind all others is added at the end. -/
theorem insertField_of_forall_lt {name : String} (type : ValueType)
    {fs : List (String × ValueType)} (h : ∀ f ∈ fs, f.1 < name) :
    insertField name type fs = fs ++ [(name, type)] := by
  induction fs with
  | nil => rfl
  | cons f fs ih =>
    obtain ⟨below, rest⟩ := List.forall_mem_cons.1 h
    have ne : name ≠ f.1 := fun eq => String.lt_irrefl _ (eq ▸ below)
    rw [insertField, if_neg (String.lt_asymm below), if_neg ne, ih rest]
    rfl

/-- The fields of a table, in the order of their names. -/
structure Fields where
  entries : List (String × ValueType) := []
  sorted : entries.Pairwise (·.1 < ·.1) := by exact List.Pairwise.nil
deriving DecidableEq

namespace Fields

/-- No fields. -/
def empty : Fields := {}

/-- Declares a field, in place of one of the same name. -/
def insert (fs : Fields) (name : String) (type : ValueType) : Fields where
  entries := insertField name type fs.entries
  sorted := sorted_insertField name type fs.sorted

/-- The fields of a list of declarations, of which the last one of a name
counts. -/
def ofList (decls : List (String × ValueType)) : Fields :=
  decls.foldl (fun fs d => fs.insert d.1 d.2) empty

/-- The type of a field. -/
def find? (fs : Fields) (name : String) : Option ValueType :=
  fs.entries.lookup name

/-- The number of fields. -/
def size (fs : Fields) : Nat := fs.entries.length

/-- The first entry is found by its own name, the others by theirs. -/
theorem lookup_cons_eq_ite (other name : String) (type : ValueType)
    (fs : List (String × ValueType)) :
    ((name, type) :: fs).lookup other =
      if other = name then some type else fs.lookup other := by
  by_cases h : other = name
  · simp [h]
  · have hb : (other == name) = false := by simpa using h
    simp [List.lookup_cons, hb, h]

/-- The last declaration of a name counts, and others stay. -/
theorem find?_insert (fs : Fields) (name other : String) (type : ValueType) :
    (fs.insert name type).find? other =
      if other = name then some type else fs.find? other := by
  obtain ⟨entries, sorted⟩ := fs
  simp only [find?, insert]
  induction entries with
  | nil => simp only [insertField, lookup_cons_eq_ite]
  | cons f entries ih =>
    have ih := ih (List.pairwise_cons.1 sorted).2
    obtain ⟨n, t⟩ := f
    unfold insertField
    split
    · simp only [lookup_cons_eq_ite]
    · split
      · next eq =>
        have eq : name = n := eq
        subst eq
        simp only [lookup_cons_eq_ite]
        split <;> rfl
      · next ne =>
        have ne : name ≠ n := ne
        rw [lookup_cons_eq_ite, lookup_cons_eq_ite, ih]
        by_cases h : other = n
        · subst h
          rw [if_pos rfl, if_neg ne.symm, if_pos rfl]
        · rw [if_neg h, if_neg h]

/-- What was declared in addition comes on top. -/
theorem mem_entries_foldl {decls : List (String × ValueType)} {fs : Fields}
    {g : String × ValueType}
    (h : g ∈ (decls.foldl (fun fs d => fs.insert d.1 d.2) fs).entries) :
    g ∈ decls ∨ g ∈ fs.entries := by
  induction decls generalizing fs with
  | nil => exact .inr h
  | cons d decls ih =>
    rcases ih h with h | h
    · exact .inl (List.mem_cons_of_mem _ h)
    · rcases mem_insertField h with rfl | h
      · exact .inl (List.mem_cons_self ..)
      · exact .inr h

/-- Every field was declared. -/
theorem mem_entries_ofList {decls : List (String × ValueType)}
    {g : String × ValueType} (h : g ∈ (ofList decls).entries) : g ∈ decls := by
  rcases mem_entries_foldl h with h | h
  · exact h
  · simp [empty] at h

/-- Fields that are declared in the order of their names stand one behind the
other. -/
theorem entries_foldl {decls : List (String × ValueType)} {fs : Fields}
    (h : (fs.entries ++ decls).Pairwise (·.1 < ·.1)) :
    (decls.foldl (fun fs d => fs.insert d.1 d.2) fs).entries =
      fs.entries ++ decls := by
  induction decls generalizing fs with
  | nil => exact (List.append_nil _).symm
  | cons d decls ih =>
    have last : (fs.insert d.1 d.2).entries = fs.entries ++ [d] :=
      insertField_of_forall_lt d.2 fun f hf =>
        (List.pairwise_append.1 h).2.2 f hf d (List.mem_cons_self ..)
    have entries : fs.entries ++ d :: decls =
        (fs.insert d.1 d.2).entries ++ decls := by simp [last]
    rw [entries] at h ⊢
    exact ih h

/-- Fields with the same entries are the same. -/
theorem ext_entries : ∀ {fs gs : Fields}, fs.entries = gs.entries → fs = gs
  | ⟨_, _⟩, ⟨_, _⟩, rfl => rfl

/-- Fields are declared by themselves. -/
theorem ofList_entries (fs : Fields) : ofList fs.entries = fs :=
  ext_entries (entries_foldl fs.sorted)

end Fields

end RowFilter
