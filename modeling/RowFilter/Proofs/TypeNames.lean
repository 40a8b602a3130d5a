/-
How the names of types are read.

* `EqIgnoringCase`: texts that differ at most in the case of ASCII letters.
* `scalarNamed?_eq_some_iff`, `arrayBody?_eq_some_iff`: what the two forms of a name
  are.
* `ValueType.Reads`: what reading a name can come to, and `reads_ofChars`: it comes to
  nothing else.
* `text_infix_of_error`: what a refusal shows is a part of the text.
* `ofChars_name`, `ofChars_name_nested`: canonical names are read back, unless they
  name arrays of arrays.
* `ofName_exactly`: which texts are read as which types, and which are refused.
-/
import Mathlib.Tactic.Common
import RowFilter.ValueType

namespace RowFilter

/-! ### Trimming -/

/-- What is left of a text stands in it. -/
lemma trimBlanks_infix (s : List Char) : trimBlanks s <:+: s := by
  have front : skipBlanks s <:+ s := List.dropWhile_suffix _
  have back : trimBlanks s <+: skipBlanks s := by
    rw [← List.reverse_suffix, trimBlanks, List.reverse_reverse]
    exact List.dropWhile_suffix _
  exact back.isInfix.trans front.isInfix

/-- A text without blanks is left as it is. -/
lemma trimBlanks_eq_self {s : List Char} (h : ∀ c ∈ s, isBlank c = false) :
    trimBlanks s = s := by
  have skip : ∀ {s : List Char}, (∀ c ∈ s, isBlank c = false) → skipBlanks s = s := by
    intro s h
    cases s with
    | nil => rfl
    | cons c cs =>
        exact List.dropWhile_cons_of_neg (by simpa using h c List.mem_cons_self)
  rw [trimBlanks, skip h, skip (by simpa using h), List.reverse_reverse]

/-! ### The forms of a name -/

/-- Texts that differ at most in the case of ASCII letters. -/
def EqIgnoringCase (s t : String) : Prop :=
  s.toList.map Char.toUpper = t.toList.map Char.toUpper

namespace ValueType

variable {s u body : List Char} {t item : ValueType}

/-- A text names a type that is no array if it is its canonical name in upper case. -/
lemma scalarNamed?_eq_some_iff :
    scalarNamed? u = some t ↔
      t.isArray = false ∧ u = t.name.toList.map Char.toUpper := by
  constructor
  · intro h
    unfold scalarNamed? at h
    split_ifs at h with hu hu hu hu <;> cases h <;> exact ⟨rfl, hu⟩
  · rintro ⟨scalar, rfl⟩
    cases t with
    | array => cases scalar
    | _ => rfl

/-- The body of an array name stands between `ARRAY(`, in any case, and a closing
parenthesis. -/
lemma arrayBody?_eq_some_iff :
    arrayBody? s = some body ↔
      ∃ head, s = head ++ body ++ [')'] ∧
        head.map Char.toUpper = ['A', 'R', 'R', 'A', 'Y', '('] := by
  constructor
  · intro h
    unfold arrayBody? at h
    split_ifs at h with hhead hlast
    obtain rfl := Option.some.inj h
    obtain ⟨body, rest⟩ := List.getLast?_eq_some_iff.mp hlast
    refine ⟨s.take 6, ?_, hhead⟩
    calc s
        = s.take 6 ++ s.drop 6 := (List.take_append_drop 6 s).symm
      _ = s.take 6 ++ (s.drop 6).dropLast ++ [')'] := by
          rw [rest, List.dropLast_concat, List.append_assoc]
  · rintro ⟨head, rfl, hhead⟩
    have six : head.length = 6 := by simpa using congrArg List.length hhead
    have front : (head ++ body ++ [')']).take 6 = head := by
      rw [List.append_assoc, ← six, List.take_left]
    have behind : (head ++ body ++ [')']).drop 6 = body ++ [')'] := by
      rw [List.append_assoc, ← six, List.drop_left]
    rw [arrayBody?, front, behind, if_pos hhead, List.getLast?_concat, if_pos rfl,
      List.dropLast_concat]

/-- The name of an array is no name of any other type. -/
lemma scalarNamed?_of_arrayBody? (h : arrayBody? s = some body) :
    scalarNamed? (s.map Char.toUpper) = none := by
  obtain ⟨head, rfl, hhead⟩ := arrayBody?_eq_some_iff.mp h
  cases hs : scalarNamed? ((head ++ body ++ [')']).map Char.toUpper) with
  | none => rfl
  | some t =>
      obtain ⟨scalar, hname⟩ := scalarNamed?_eq_some_iff.mp hs
      rw [List.map_append, List.map_append, hhead] at hname
      cases t with
      | array => cases scalar
      | _ => simp [name] at hname

/-! ### Reading -/

/-- What the reading of a text as the name of a type can come to. -/
inductive Reads (s : List Char) : Except Unknown ValueType → Prop where
  | scalar {t : ValueType} :
      t.isArray = false → (trimBlanks s).map Char.toUpper = t.name.toList.map Char.toUpper →
      Reads s (.ok t)
  | array {body : List Char} {item : ValueType} :
      arrayBody? (trimBlanks s) = some body → ofChars body = .ok item →
      item.isArray = false → Reads s (.ok (.array item))
  /-- The items are of no type. -/
  | item {body : List Char} {e : Unknown} :
      arrayBody? (trimBlanks s) = some body → ofChars body = .error e → Reads s (.error e)
  /-- The items would be arrays. -/
  | nested {body : List Char} {item : ValueType} :
      arrayBody? (trimBlanks s) = some body → ofChars body = .ok item →
      item.isArray = true → Reads s (.error ⟨String.ofList s⟩)
  | neither :
      scalarNamed? ((trimBlanks s).map Char.toUpper) = none →
      arrayBody? (trimBlanks s) = none → Reads s (.error ⟨String.ofList s⟩)

/-- Reading comes to nothing else. -/
lemma reads_ofChars (s : List Char) : Reads s (ofChars s) := by
  rw [ofChars]
  split
  · next t named =>
    obtain ⟨scalar, same⟩ := scalarNamed?_eq_some_iff.mp named
    exact .scalar scalar same
  · next none =>
    split
    · next other => exact .neither none other
    · next body found =>
      split
      · next e refused => exact .item found refused
      · next item read =>
        split_ifs with nested
        · exact .nested found read nested
        · exact .array found read (Bool.not_eq_true _ ▸ nested)

/-- The name of a type that is no array is read, whatever its case and the blanks around
it. -/
lemma ofChars_of_scalar (scalar : t.isArray = false)
    (same : (trimBlanks s).map Char.toUpper = t.name.toList.map Char.toUpper) :
    ofChars s = .ok t := by
  have named := scalarNamed?_eq_some_iff.mpr ⟨scalar, same⟩
  rw [ofChars]
  split
  · next t' named' =>
    rw [named] at named'
    rw [Option.some.inj named']
  · next none =>
    rw [named] at none
    cases none

/-- The name of an array is read as soon as that of its items is. -/
lemma ofChars_of_arrayBody? (found : arrayBody? (trimBlanks s) = some body)
    (read : ofChars body = .ok item) (flat : item.isArray = false) :
    ofChars s = .ok (.array item) :=
  ofName_array (scalarNamed?_of_arrayBody? found) found read flat

/-- The name of an array is read as no other type. -/
lemma isArray_of_arrayBody? (found : arrayBody? (trimBlanks s) = some body)
    (read : ofChars s = .ok t) : t.isArray = true := by
  have reads := reads_ofChars s
  rw [read] at reads
  cases reads with
  | scalar scalar same =>
      have named := scalarNamed?_eq_some_iff.mpr ⟨scalar, same⟩
      rw [scalarNamed?_of_arrayBody? found] at named
      cases named
  | array => rfl

/-- What a refusal shows is a part of the text. -/
theorem text_infix_of_error {e : Unknown} (h : ofChars s = .error e) :
    e.text.toList <:+: s := by
  induction hk : s.length using Nat.strongRecOn generalizing s with
  | ind k ih =>
      have reads := reads_ofChars s
      rw [h] at reads
      cases reads with
      | nested | neither => simp
      | @item body _ found refused =>
          obtain ⟨head, split, -⟩ := arrayBody?_eq_some_iff.mp found
          have trimmed := trimBlanks_infix s
          have inside : body <:+: s := by
            rw [split] at trimmed
            exact (List.infix_append head body [')']).trans trimmed
          have shorter : body.length < k := by
            have body_lt := length_arrayBody? found
            have trim_le := length_trimBlanks_le s
            omega
          exact (ih body.length shorter refused rfl).trans inside

/-! ### Canonical names -/

/-- A canonical name has no blanks. -/
lemma isBlank_of_mem_name (t : ValueType) : ∀ c ∈ t.name.toList, isBlank c = false := by
  suffices clean : t.name.toList.any isBlank = false by simpa using clean
  induction t with
  | array item ih =>
      rw [name, String.toList_append, String.toList_append, List.any_append,
        List.any_append, ih]
      rfl
  | _ => rfl

lemma arrayBody?_name (item : ValueType) :
    arrayBody? (trimBlanks (array item).name.toList) = some item.name.toList := by
  rw [trimBlanks_eq_self (isBlank_of_mem_name _), arrayBody?_eq_some_iff]
  exact ⟨"ARRAY(".toList, by simp [name], by decide⟩

/-- Canonical names are read back, but for those of arrays of arrays. -/
theorem ofChars_name (h : ∀ item, t ≠ .array (.array item)) :
    ofChars t.name.toList = .ok t := by
  have scalar : ∀ {t : ValueType}, t.isArray = false → ofChars t.name.toList = .ok t := by
    intro t ht
    exact ofChars_of_scalar ht (by rw [trimBlanks_eq_self (isBlank_of_mem_name t)])
  cases t with
  | array item =>
      have flat : item.isArray = false := by
        cases item with
        | array item => exact absurd rfl (h item)
        | _ => rfl
      exact ofChars_of_arrayBody? (arrayBody?_name item) (scalar flat) flat
  | _ => exact scalar rfl

/-- The canonical name of an array of arrays is refused. -/
theorem ofChars_name_nested (item : ValueType) :
    ∃ e, ofChars (array (array item)).name.toList = .error e := by
  have reads := reads_ofChars (array (array item)).name.toList
  cases read : ofChars (array (array item)).name.toList with
  | error e => exact ⟨e, rfl⟩
  | ok t =>
      rw [read] at reads
      cases reads with
      | scalar flat =>
          have := isArray_of_arrayBody? (arrayBody?_name _) read
          rw [flat] at this
          cases this
      | @array body inner found inside flat =>
          rw [arrayBody?_name] at found
          obtain rfl := Option.some.inj found
          have := isArray_of_arrayBody? (arrayBody?_name item) inside
          rw [flat] at this
          cases this

/-! ### Whole texts -/

/-- A text is the name of an array of items of type `t`: without outer blanks, the name
of this type stands between `ARRAY(`, in any case, and a closing parenthesis, and the
type is no array. -/
def NamesArrayOf (s : String) (t : ValueType) : Prop :=
  ∃ head inner, trim s = head ++ inner ++ ")" ∧ EqIgnoringCase head "ARRAY(" ∧
    ofName inner = .ok t ∧ t.isArray = false

lemma namesArrayOf_iff {s : String} :
    NamesArrayOf s t ↔
      ∃ body, arrayBody? (trimBlanks s.toList) = some body ∧ ofChars body = .ok t ∧
        t.isArray = false := by
  constructor
  · rintro ⟨head, inner, split, hhead, read, flat⟩
    refine ⟨inner.toList, arrayBody?_eq_some_iff.mpr ⟨head.toList, ?_, hhead⟩, read, flat⟩
    simpa [trim] using congrArg String.toList split
  · rintro ⟨body, found, read, flat⟩
    obtain ⟨head, split, hhead⟩ := arrayBody?_eq_some_iff.mp found
    refine ⟨String.ofList head, String.ofList body, ?_, ?_, ?_, flat⟩
    · exact String.toList_inj.mp (by simpa [trim] using split)
    · rw [EqIgnoringCase, String.toList_ofList, hhead]
      decide
    · rwa [ofName, String.toList_ofList]

lemma ofName_eq_ok_iff_of_scalar {s : String} (scalar : t.isArray = false) :
    ofName s = .ok t ↔ EqIgnoringCase (trim s) t.name := by
  rw [EqIgnoringCase, trim, String.toList_ofList, ofName]
  constructor
  · intro h
    have reads := reads_ofChars s.toList
    rw [h] at reads
    cases reads with
    | scalar _ same => exact same
    | array => cases scalar
  · exact ofChars_of_scalar scalar

lemma ofName_eq_ok_array_iff {s : String} : ofName s = .ok (.array t) ↔ NamesArrayOf s t := by
  rw [namesArrayOf_iff, ofName]
  constructor
  · intro h
    have reads := reads_ofChars s.toList
    rw [h] at reads
    cases reads with
    | scalar scalar => cases scalar
    | array found read flat => exact ⟨_, found, read, flat⟩
  · rintro ⟨body, found, read, flat⟩
    exact ofChars_of_arrayBody? found read flat

/-- What a text names can be named by its canonical name. -/
lemma ofName_name_of_eq_ok {s : String} (h : ofName s = .ok t) : ofName t.name = .ok t := by
  refine ofChars_name fun item nested => ?_
  subst nested
  obtain ⟨_, _, _, _, _, flat⟩ := ofName_eq_ok_array_iff.mp h
  cases flat

/-- **The names of types are read exactly, and back.** A text is read as a type that is
no array when it is its canonical name, up to case and outer blanks; as an array when it
is `ARRAY(…)` around the name of a type that is none; and it is refused otherwise, so
that no array of arrays comes out, and the refusal shows a part of the text. Canonical
names are read back, and those of arrays of arrays are refused. -/
theorem ofName_exactly :
    (∀ s : String,
      (∀ t : ValueType, t.isArray = false →
        (ofName s = .ok t ↔ EqIgnoringCase (trim s) t.name)) ∧
      (∀ t, ofName s = .ok (.array t) ↔ NamesArrayOf s t) ∧
      ((∃ e, ofName s = .error e) ↔
        (∀ t : ValueType, t.isArray = false → ¬EqIgnoringCase (trim s) t.name) ∧
          ∀ t, ¬NamesArrayOf s t) ∧
      (∀ t, ofName s ≠ .ok (.array (.array t))) ∧
      ∀ e, ofName s = .error e → ∃ before after, s = before ++ e.text ++ after) ∧
    ∀ t : ValueType,
      ((∀ item, t ≠ .array (.array item)) → ofName t.name = .ok t) ∧
      ∀ item, t = .array (.array item) → ∃ e, ofName t.name = .error e := by
  refine ⟨fun s => ⟨fun t scalar => ofName_eq_ok_iff_of_scalar scalar,
    fun t => ofName_eq_ok_array_iff, ?_, ?_, ?_⟩, fun t => ⟨ofChars_name, ?_⟩⟩
  · constructor
    · rintro ⟨e, refused⟩
      refine ⟨fun t scalar same => ?_, fun t names => ?_⟩
      · rw [(ofName_eq_ok_iff_of_scalar scalar).mpr same] at refused
        cases refused
      · rw [ofName_eq_ok_array_iff.mpr names] at refused
        cases refused
    · rintro ⟨noScalar, noArray⟩
      cases read : ofName s with
      | error e => exact ⟨e, rfl⟩
      | ok t =>
          cases t with
          | array item => exact absurd (ofName_eq_ok_array_iff.mp read) (noArray item)
          | _ => exact absurd ((ofName_eq_ok_iff_of_scalar rfl).mp read) (noScalar _ rfl)
  · intro t nested
    obtain ⟨_, _, _, _, _, flat⟩ := ofName_eq_ok_array_iff.mp nested
    cases flat
  · intro e refused
    obtain ⟨before, after, split⟩ := text_infix_of_error refused
    refine ⟨String.ofList before, String.ofList after, String.toList_inj.mp ?_⟩
    simpa using split.symm
  · rintro item rfl
    exact ofChars_name_nested item

end ValueType

end RowFilter
