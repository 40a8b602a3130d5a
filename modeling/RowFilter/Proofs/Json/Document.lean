/-
The tokens of JSON documents.

* `JsonDocument.ind`: induction over documents.
* `JsonDocument.tokens`: the tokens of a document.
* `JsonDocument.jsonTokens_compact`, `JsonDocument.jsonTokens_pretty`: a document has
  them in one line as well as over several lines.
-/
import Mathlib.Data.List.Basic
import Mathlib.Data.List.TakeWhile
import RowFilter.Json.Document
import RowFilter.Proofs.Json.Token

namespace RowFilter

/-! ### Integers -/

/-- A number but zero is written with no zero in front. -/
lemma head?_toDigits_ne_zero {n : Nat} (pos : 0 < n) :
    (Nat.toDigits 10 n).head? ≠ some '0' := by
  induction n using Nat.strongRecOn with
  | ind n ih =>
      rw [Nat.toDigits_eq_if (by decide)]
      split
      · next small =>
          have all : ∀ m < 10, 0 < m → [Nat.digitChar m].head? ≠ some '0' := by decide
          exact all n small pos
      · next large =>
          rw [List.head?_append_of_ne_nil _ Nat.toDigits_ne_nil]
          exact ih (n / 10) (by omega) (by omega)

/-- The digits of a number are the whole part of a numeral. -/
lemma readWhole_toDigits (n : Nat) :
    readWhole (Nat.toDigits 10 n) = .ok (Nat.toDigits 10 n, []) := by
  have digits : ∀ c ∈ Nat.toDigits 10 n, c.isDigit = true := fun _ =>
    isDigit_of_mem_toDigits
  have read : readDigits (Nat.toDigits 10 n) = .ok (Nat.toDigits 10 n, []) := by
    simp only [readDigits, List.takeWhile_eq_self_iff.mpr digits,
      List.dropWhile_eq_nil_iff.mpr digits, List.isEmpty_iff, Nat.toDigits_ne_nil, if_false]
  have single : ¬((Nat.toDigits 10 n).head? = some '0' ∧ 1 < (Nat.toDigits 10 n).length) := by
    rintro ⟨zero, long⟩
    rcases Nat.eq_zero_or_pos n with rfl | pos
    · exact absurd long (by decide)
    · exact head?_toDigits_ne_zero pos zero
  rw [readWhole, read]
  exact if_neg single

lemma dropMinus_toString (n : Int) :
    dropMinus (toString n).toList = (decide (n < 0), Nat.toDigits 10 n.natAbs) := by
  rw [toList_toString_int]
  split
  · next negative =>
      rw [decide_eq_true negative]
      rfl
  · next nonneg =>
      rw [decide_eq_false nonneg, List.nil_append, dropMinus]
      intro cs minus
      have digit := isDigit_of_mem_toDigits (n := n.natAbs) (minus ▸ List.mem_cons_self)
      cases digit

/-- The numeral that is written for an integer. -/
def Numeral.ofInt (n : Int) : Numeral := ⟨decide (n < 0), Nat.toDigits 10 n.natAbs, [], none⟩

lemma readNumeralText_toString (n : Int) :
    readNumeralText (toString n).toList = .ok (.ofInt n, []) := by
  rw [readNumeralText, dropMinus_toString]
  simp only [readWhole_toDigits]
  rfl

/-- What is written for an integer is one numeral. -/
lemma jsonTokens_toString (n : Int) :
    jsonTokens (toString n).toList = [.numeral (.ofInt n)] := by
  have read := readNumeralText_toString n
  have start : ∀ c ∈ (toString n).toList.head?, c = '-' ∨ c.isDigit = true := by
    rw [toList_toString_int]
    split
    · rintro _ ⟨⟩
      exact .inl rfl
    · intro c first
      exact .inr (isDigit_of_mem_toDigits (List.mem_of_mem_head? first))
  cases written : (toString n).toList with
  | nil =>
      rw [written] at read
      cases read
  | cons c cs =>
      rw [written] at read start
      rw [jsonTokens_numeral (start c rfl) read, jsonTokens]

/-! ### Documents -/

namespace JsonDocument

/-- Induction over documents: a property of all items of an array, or of all members of
an object, is one of the array or the object. -/
theorem ind {P : JsonDocument → Prop} (number : ∀ n, P (.number n)) (text : ∀ s, P (.text s))
    (array : ∀ items, (∀ d ∈ items, P d) → P (.array items))
    (object : ∀ members, (∀ m ∈ members, P m.2) → P (.object members)) : ∀ d, P d
  | .number n => number n
  | .text s => text s
  | .array items => array items fun d _ => ind number text array object d
  | .object members => object members fun (_, d) _ => ind number text array object d
decreasing_by
  · decreasing_tactic
  · have smaller := List.sizeOf_lt_of_mem ‹_ ∈ members›
    simp only [Prod.mk.sizeOf_spec, JsonDocument.object.sizeOf_spec] at smaller ⊢
    omega

mutual

/-- The tokens of a document. -/
def tokens : JsonDocument → List JsonToken
  | .number n => [.numeral (.ofInt n)]
  | .text s => [.text (s.toList.map writtenUnit)]
  | .array items => .mark '[' :: (commaJoined true (itemTokens items) ++ [.mark ']'])
  | .object members =>
    .mark '\x7b' :: (commaJoined true (memberTokens members) ++ [.mark '\x7d'])

/-- The tokens of the items of an array. -/
def itemTokens : List JsonDocument → List (List JsonToken)
  | [] => []
  | d :: ds => d.tokens :: itemTokens ds

/-- The tokens of the members of an object. -/
def memberTokens : List (String × JsonDocument) → List (List JsonToken)
  | [] => []
  | (name, d) :: ms =>
    (.text (name.toList.map writtenUnit) :: .mark ':' :: d.tokens) :: memberTokens ms

end

lemma itemTokens_eq_map (ds : List JsonDocument) : itemTokens ds = ds.map tokens := by
  induction ds with
  | nil => rfl
  | cons d ds ih => rw [itemTokens, ih, List.map_cons]

lemma memberTokens_eq_map (ms : List (String × JsonDocument)) :
    memberTokens ms = ms.map fun m =>
      .text (m.1.toList.map writtenUnit) :: .mark ':' :: m.2.tokens := by
  induction ms with
  | nil => rfl
  | cons m ms ih => rw [memberTokens, ih, List.map_cons]

lemma isSound_named (name : String) {us : List JsonToken} (sound : ∀ t ∈ us, t.IsSound) :
    ∀ t ∈ .text (name.toList.map writtenUnit) :: .mark ':' :: us, JsonToken.IsSound t :=
  List.forall_mem_cons.mpr ⟨trivial, List.forall_mem_cons.mpr ⟨trivial, sound⟩⟩

/-- No token of a document has a fault. -/
lemma isSound_tokens (d : JsonDocument) : ∀ t ∈ d.tokens, t.IsSound := by
  induction d using ind with
  | number n => exact List.forall_mem_singleton.mpr trivial
  | text s => exact List.forall_mem_singleton.mpr trivial
  | array items ih =>
      rw [tokens, itemTokens_eq_map]
      exact isSound_bracketed (List.forall_mem_map.mpr ih) _ _
  | object members ih =>
      rw [tokens, memberTokens_eq_map]
      exact isSound_bracketed
        (List.forall_mem_map.mpr fun m hm => isSound_named m.1 (ih m hm)) _ _

/-! ### In one line -/

lemma compactItems_eq_map (ds : List JsonDocument) : compactItems ds = ds.map compact := by
  induction ds with
  | nil => rfl
  | cons d ds ih => rw [compactItems, ih, List.map_cons]

lemma compactMembers_eq_map (ms : List (String × JsonDocument)) :
    compactMembers ms = ms.map fun m => jsonQuoted m.1 ++ ":" ++ m.2.compact := by
  induction ms with
  | nil => rfl
  | cons m ms ih => rw [compactMembers, ih, List.map_cons]

/-- The name of a member, a colon and blanks in front of a value. -/
lemma jsonTokens_named (name : String) {blanks : List Char}
    (blank : ∀ c ∈ blanks, isJsonBlank c = true) (cs : List Char) :
    jsonTokens ((jsonQuoted name).toList ++ ':' :: (blanks ++ cs)) =
      .text (name.toList.map writtenUnit) :: .mark ':' :: jsonTokens cs := by
  rw [jsonTokens_append, jsonTokens_jsonQuoted, jsonTokens_mark (by decide),
    jsonTokens_blanks blank]
  · rfl
  · rw [jsonTokens_jsonQuoted]
    exact List.forall_mem_singleton.mpr trivial
  · rintro c ⟨⟩
    rfl

/-- A document in one line has its tokens. -/
theorem jsonTokens_compact (d : JsonDocument) : jsonTokens d.compact.toList = d.tokens := by
  induction d using ind with
  | number n => rw [compact, tokens, jsonTokens_toString]
  | text s => rw [compact, tokens, jsonTokens_jsonQuoted]
  | array items ih =>
      have written : (array items).compact.toList =
          '[' :: ([','].intercalate (items.map fun d => d.compact.toList) ++ [']']) := by
        simp [compact, compactItems_eq_map, String.toList_intercalate, Function.comp_def]
      rw [written, tokens, itemTokens_eq_map]
      exact jsonTokens_bracketed_compact ih (fun d _ => d.isSound_tokens) (by decide)
        (by decide)
  | object members ih =>
      have written : (object members).compact.toList =
          '\x7b' :: ([','].intercalate (members.map fun m =>
            (jsonQuoted m.1).toList ++ ':' :: ([] ++ m.2.compact.toList)) ++ ['\x7d']) := by
        simp [compact, compactMembers_eq_map, String.toList_intercalate, Function.comp_def]
      rw [written, tokens, memberTokens_eq_map]
      refine jsonTokens_bracketed_compact (fun m hm => ?_)
        (fun m _ => isSound_named m.1 m.2.isSound_tokens) (by decide) (by decide)
      rw [jsonTokens_named m.1 (List.forall_mem_nil _), ih m hm]

/-! ### Over several lines -/

lemma prettyItems_eq_map (level : Nat) (ds : List JsonDocument) :
    prettyItems level ds = ds.map (prettyAt level) := by
  induction ds with
  | nil => rfl
  | cons d ds ih => rw [prettyItems, ih, List.map_cons]

lemma prettyMembers_eq_map (level : Nat) (ms : List (String × JsonDocument)) :
    prettyMembers level ms = ms.map fun m => jsonQuoted m.1 ++ ": " ++ m.2.prettyAt level := by
  induction ms with
  | nil => rfl
  | cons m ms ih => rw [prettyMembers, ih, List.map_cons]

/-- A line break with its indentation consists of blanks. -/
lemma isJsonBlank_of_mem_newLine {level : Nat} {c : Char} (h : c ∈ (newLine level).toList) :
    isJsonBlank c = true := by
  simp only [newLine, String.toList_append, String.toList_ofList, List.mem_append,
    List.mem_replicate] at h
  rcases h with h | ⟨-, rfl⟩
  · obtain rfl := List.mem_singleton.mp h
    rfl
  · rfl

/-- Lines between brackets have the tokens of the lines, with commas between these. -/
lemma jsonTokens_bracketed_lines {α : Type} {line : α → String}
    {tokens : α → List JsonToken} {as : List α}
    (written : ∀ a ∈ as, jsonTokens (line a).toList = tokens a)
    (sound : ∀ a ∈ as, ∀ t ∈ tokens a, t.IsSound) (level : Nat) {left right : String}
    {l r : Char} (left_eq : left.toList = [l]) (right_eq : right.toList = [r])
    (opening : isJsonMark l = true) (closing : isJsonMark r = true) :
    jsonTokens (bracketed level left right (as.map line)).toList =
      .mark l :: (commaJoined true (as.map tokens) ++ [.mark r]) := by
  cases as with
  | nil =>
      have empty : (bracketed level left right []).toList = [l, r] := by
        simp [bracketed, left_eq, right_eq]
      rw [List.map_nil, empty, jsonTokens_mark opening, jsonTokens_mark closing, jsonTokens]
      rfl
  | cons a as =>
      have lines : (bracketed level left right ((a :: as).map line)).toList =
          l :: ((newLine (level + 1)).toList ++
            ((',' :: (newLine (level + 1)).toList).intercalate
              ((a :: as).map fun a => (line a).toList) ++
              ((newLine level).toList ++ [r]))) := by
        simp [bracketed, left_eq, right_eq, String.toList_intercalate, Function.comp_def]
      rw [lines]
      exact jsonTokens_bracketed written sound (fun _ => isJsonBlank_of_mem_newLine)
        (fun _ => isJsonBlank_of_mem_newLine) opening closing

/-- A document over several lines has its tokens. -/
theorem jsonTokens_prettyAt (d : JsonDocument) (level : Nat) :
    jsonTokens (d.prettyAt level).toList = d.tokens := by
  -- what is inside stands one level deeper
  induction d using ind generalizing level with
  | number n => rw [prettyAt, tokens, jsonTokens_toString]
  | text s => rw [prettyAt, tokens, jsonTokens_jsonQuoted]
  | array items ih =>
      rw [prettyAt, prettyItems_eq_map, tokens, itemTokens_eq_map]
      exact jsonTokens_bracketed_lines (fun d hd => ih d hd _) (fun d _ => d.isSound_tokens)
        level rfl rfl (by decide) (by decide)
  | object members ih =>
      rw [prettyAt, prettyMembers_eq_map, tokens, memberTokens_eq_map]
      refine jsonTokens_bracketed_lines (fun m hm => ?_)
        (fun m _ => isSound_named m.1 m.2.isSound_tokens) level rfl rfl (by decide) (by decide)
      have blank : ∀ c ∈ [' '], isJsonBlank c = true := List.forall_mem_singleton.mpr rfl
      have written : ∀ value : String, (jsonQuoted m.1 ++ ": " ++ value).toList =
          (jsonQuoted m.1).toList ++ ':' :: ([' '] ++ value.toList) := by simp
      rw [written, jsonTokens_named m.1 blank, ih m hm]

theorem jsonTokens_pretty (d : JsonDocument) : jsonTokens d.pretty.toList = d.tokens :=
  d.jsonTokens_prettyAt 0

end JsonDocument

end RowFilter
