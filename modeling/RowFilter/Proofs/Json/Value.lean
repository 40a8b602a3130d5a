/-
JSON texts that are one value, and objects and arrays that are written with them.

* `skipFrom_under`: inside containers a value is passed over as it is outside of them.
* `JsonValueText`, `JsonMemberText`: a text that is one value, and one that is a member
  of an object.
* `objectText`, `arrayText`: members and items put together, and `jsonTokens_objectText`,
  `jsonTokens_arrayText`: their tokens.
* `JsonValueText.quoted`, `JsonValueText.object`: a written text and an object are values.
-/
import RowFilter.Proofs.Json.Token

namespace RowFilter

/-! ### Values inside containers -/

namespace SkipState

variable (outer : List JsonContainer)

/-- A state inside of more containers. -/
def under : SkipState → SkipState
  | .value stack => .value (stack ++ outer)
  | .first inner stack => .first inner (stack ++ outer)
  | .name stack => .name (stack ++ outer)
  | .colon stack => .colon (stack ++ outer)
  | .next inner stack => .next inner (stack ++ outer)

/-- What has to come next inside of more containers: these go on when the value ends. -/
def resume : Option SkipState → Option SkipState
  | none => ended outer
  | some s => some (s.under outer)

lemma ended_append (stack : List JsonContainer) :
    ended (stack ++ outer) = resume outer (ended stack) := by
  cases stack <;> rfl

lemma valueStep_append (stack : List JsonContainer) (t : JsonToken) :
    valueStep (stack ++ outer) t = (valueStep stack t).map (resume outer) := by
  unfold valueStep
  split <;> simp [Except.map, ended_append, resume, under]

lemma nameStep_append (stack : List JsonContainer) (t : JsonToken) :
    nameStep (stack ++ outer) t = (nameStep stack t).map (resume outer) := by
  unfold nameStep
  split <;> simp [Except.map, resume, under]

lemma elementStep_append (inner : JsonContainer) (stack : List JsonContainer)
    (t : JsonToken) :
    elementStep inner (stack ++ outer) t =
      (elementStep inner stack t).map (resume outer) := by
  cases inner with
  | array => exact valueStep_append outer (.array :: stack) t
  | object => exact nameStep_append outer stack t

/-- A token has the same effect inside of more containers. -/
lemma step_under (s : SkipState) (t : JsonToken) :
    (s.under outer).step t = (s.step t).map (resume outer) := by
  cases s with
  | value stack => exact valueStep_append outer stack t
  | name stack => exact nameStep_append outer stack t
  | first inner stack =>
      simp only [under, step, ended_append, elementStep_append]
      split_ifs <;> rfl
  | colon stack =>
      simp only [under, step]
      split_ifs <;> rfl
  | next inner stack =>
      simp only [under, step, ended_append]
      split_ifs
      · rfl
      · cases inner <;> rfl
      · rfl

/-- A token that is passed over has no fault. -/
lemma isSound_of_step {s : SkipState} {t : JsonToken} {next : Option SkipState}
    (h : s.step t = .ok next) : t.IsSound := by
  cases t with
  | brokenText | broken =>
      cases s with
      | first inner stack | next inner stack => cases inner <;> simp [step] at h <;> cases h
      | _ => cases h
  | _ => trivial

end SkipState

open SkipState (resume ended)

/-- The rest of a value is passed over, and then what comes next, if anything does. -/
def skipOn : Option SkipState → List JsonToken → Except JsonFault (List JsonToken)
  | none, ts => .ok ts
  | some s, ts => skipFrom s ts

lemma skipFrom_cons (s : SkipState) (t : JsonToken) (ts : List JsonToken) :
    skipFrom s (t :: ts) = (s.step t).bind (skipOn · ts) := by
  rw [skipFrom]
  cases s.step t with
  | error f => rfl
  | ok next => cases next <;> rfl

/-- The first of the tokens that are passed over is the last, or the others go on from the
state behind it. -/
lemma skipFrom_cons_cases {s : SkipState} {t : JsonToken} {ts : List JsonToken}
    (h : skipFrom s (t :: ts) = .ok []) :
    (s.step t = .ok none ∧ ts = []) ∨
      ∃ s', s.step t = .ok (some s') ∧ skipFrom s' ts = .ok [] := by
  rw [skipFrom_cons] at h
  cases step : s.step t with
  | error f =>
      rw [step] at h
      cases h
  | ok next =>
      rw [step] at h
      cases next with
      | none => exact .inl ⟨rfl, Except.ok.inj h⟩
      | some s' => exact .inr ⟨s', rfl, h⟩

/-- Inside containers a value is passed over as it is outside of them, and then these go
on. -/
lemma skipFrom_under {s : SkipState} {us : List JsonToken} (h : skipFrom s us = .ok [])
    (outer : List JsonContainer) (rest : List JsonToken) :
    skipFrom (s.under outer) (us ++ rest) = skipOn (ended outer) rest := by
  induction us generalizing s with
  | nil => cases h
  | cons t us ih =>
      rw [List.cons_append, skipFrom_cons, SkipState.step_under]
      -- the inner containers end with `us` and not before, so only then `outer` goes on
      rcases skipFrom_cons_cases h with ⟨step, rfl⟩ | ⟨s', step, h⟩
      · rw [step]
        rfl
      · rw [step]
        exact ih h

/-- What is passed over has no fault. -/
lemma isSound_of_skipFrom {s : SkipState} {us : List JsonToken}
    (h : skipFrom s us = .ok []) : ∀ t ∈ us, t.IsSound := by
  induction us generalizing s with
  | nil => exact List.forall_mem_nil _
  | cons t us ih =>
      rcases skipFrom_cons_cases h with ⟨step, rfl⟩ | ⟨s', step, h⟩
      · exact List.forall_mem_singleton.mpr (SkipState.isSound_of_step step)
      · exact List.forall_mem_cons.mpr ⟨SkipState.isSound_of_step step, ih h⟩

/-! ### Whole values -/

/-- The tokens are those of one value. -/
def IsWhole (us : List JsonToken) : Prop := skipValue us = .ok []

namespace IsWhole

variable {us vs : List JsonToken}

lemma skipFrom_append (h : IsWhole us) (outer : List JsonContainer)
    (rest : List JsonToken) :
    skipFrom (.value outer) (us ++ rest) = skipOn (ended outer) rest :=
  skipFrom_under h outer rest

lemma skipValue_append (h : IsWhole us) (rest : List JsonToken) :
    skipValue (us ++ rest) = .ok rest :=
  h.skipFrom_append [] rest

/-- Two values in front of the same tokens are the same value. -/
lemma append_inj (hu : IsWhole us) (hv : IsWhole vs) {rest rest' : List JsonToken}
    (h : us ++ rest = vs ++ rest') : us = vs ∧ rest = rest' := by
  have left := hu.skipValue_append rest
  rw [h, hv.skipValue_append rest'] at left
  obtain rfl := Except.ok.inj left
  exact ⟨List.append_cancel_right h, rfl⟩

/-- A value begins with a token that closes nothing. -/
lemma exists_cons (h : IsWhole us) : ∃ t vs, us = t :: vs ∧ t ≠ .mark ']' := by
  rcases us with _ | ⟨t, vs⟩
  · cases h
  · refine ⟨t, vs, rfl, ?_⟩
    rintro rfl
    cases h

end IsWhole

/-- The tokens are a text that stands for `s`. -/
def DenotesText (us : List JsonToken) (s : String) : Prop :=
  ∃ units, us = [.text units] ∧ decodeUnits .malformed units = .ok s.toList

lemma DenotesText.isWhole {us : List JsonToken} {s : String} (h : DenotesText us s) :
    IsWhole us := by
  obtain ⟨units, rfl, -⟩ := h
  rfl

/-- A text stands for one thing. -/
lemma DenotesText.unique {us : List JsonToken} {s s' : String} (h : DenotesText us s)
    (h' : DenotesText us s') : s = s' := by
  obtain ⟨units, rfl, decoded⟩ := h
  obtain ⟨_, ⟨⟩, decoded'⟩ := h'
  exact String.toList_inj.mp (Except.ok.inj (decoded.symm.trans decoded'))

/-- What is written for a text denotes it. -/
lemma denotesText_jsonQuoted (s : String) :
    DenotesText (jsonTokens (jsonQuoted s).toList) s :=
  ⟨_, jsonTokens_jsonQuoted s, decodeUnits_written _ _⟩

/-! ### Texts -/

/-- A text of JSON that is one value. -/
structure JsonValueText where
  text : String
  whole : IsWhole (jsonTokens text.toList)

/-- A text of JSON that is a member of an object: its name, written in any way, and its
value. -/
structure JsonMemberText where
  name : String
  nameText : String
  value : JsonValueText
  named : DenotesText (jsonTokens nameText.toList) name

/-- The tokens of a value. -/
def JsonValueText.tokens (v : JsonValueText) : List JsonToken := jsonTokens v.text.toList

/-- A member as it is written: a colon stands behind its name. -/
def JsonMemberText.text (m : JsonMemberText) : String := m.nameText ++ ":" ++ m.value.text

/-- The tokens of a member. -/
def JsonMemberText.tokens (m : JsonMemberText) : List JsonToken :=
  jsonTokens m.nameText.toList ++ .mark ':' :: m.value.tokens

/-- The text of an object with these members. -/
def objectText (members : List JsonMemberText) : String :=
  "\x7b" ++ ",".intercalate (members.map JsonMemberText.text) ++ "\x7d"

/-- The text of an array with these items. -/
def arrayText (items : List JsonValueText) : String :=
  "[" ++ ",".intercalate (items.map JsonValueText.text) ++ "]"

namespace JsonValueText

lemma isWhole (v : JsonValueText) : IsWhole v.tokens := v.whole

lemma isSound (v : JsonValueText) : ∀ t ∈ v.tokens, t.IsSound :=
  isSound_of_skipFrom v.whole

/-- What is written for a text is a value. -/
def quoted (s : String) : JsonValueText :=
  ⟨jsonQuoted s, (denotesText_jsonQuoted s).isWhole⟩

lemma tokens_quoted (s : String) :
    (quoted s).tokens = [.text (s.toList.map writtenUnit)] :=
  jsonTokens_jsonQuoted s

lemma denotes_quoted (s : String) : DenotesText (quoted s).tokens s :=
  denotesText_jsonQuoted s

end JsonValueText

namespace JsonMemberText

/-- A member whose name is written as texts are. -/
def quoted (name : String) (value : JsonValueText) : JsonMemberText :=
  ⟨name, jsonQuoted name, value, denotesText_jsonQuoted name⟩

lemma tokens_quoted (name : String) (value : JsonValueText) :
    (quoted name value).tokens =
      .text (name.toList.map writtenUnit) :: .mark ':' :: value.tokens := by
  rw [tokens, quoted, jsonTokens_jsonQuoted, List.singleton_append]

lemma isSound_name (m : JsonMemberText) : ∀ t ∈ jsonTokens m.nameText.toList, t.IsSound :=
  isSound_of_skipFrom m.named.isWhole

lemma jsonTokens_text (m : JsonMemberText) : jsonTokens m.text.toList = m.tokens := by
  have written : m.text.toList = m.nameText.toList ++ ':' :: m.value.text.toList := by
    simp [text]
  rw [written, jsonTokens_append m.isSound_name, jsonTokens_mark (by decide)]
  · rfl
  · rintro d ⟨⟩
    rfl

lemma isSound (m : JsonMemberText) : ∀ t ∈ m.tokens, t.IsSound := by
  intro t ht
  rcases List.mem_append.mp ht with ht | ht
  · exact m.isSound_name t ht
  · rcases List.mem_cons.mp ht with rfl | ht
    · trivial
    · exact m.value.isSound t ht

end JsonMemberText

/-- The tokens of an object. -/
lemma jsonTokens_objectText (members : List JsonMemberText) :
    jsonTokens (objectText members).toList =
      .mark '\x7b' :: (commaJoined true (members.map JsonMemberText.tokens) ++
        [.mark '\x7d']) := by
  have written : (objectText members).toList =
      '\x7b' :: ([','].intercalate (members.map fun m => m.text.toList) ++ ['\x7d']) := by
    simp [objectText, String.toList_intercalate, Function.comp_def]
  rw [written]
  exact jsonTokens_bracketed_compact (fun m _ => m.jsonTokens_text) (fun m _ => m.isSound)
    (by decide) (by decide)

/-- The tokens of an array. -/
lemma jsonTokens_arrayText (items : List JsonValueText) :
    jsonTokens (arrayText items).toList =
      .mark '[' :: (commaJoined true (items.map JsonValueText.tokens) ++ [.mark ']']) := by
  have written : (arrayText items).toList =
      '[' :: ([','].intercalate (items.map fun v => v.text.toList) ++ [']']) := by
    simp [arrayText, String.toList_intercalate, Function.comp_def]
  rw [written]
  exact jsonTokens_bracketed_compact (fun _ _ => rfl) (fun v _ => v.isSound)
    (by decide) (by decide)

/-- An object of which some members, or none if what comes is the `first`, were passed
over. -/
def SkipState.inObject (first : Bool) : SkipState :=
  if first then .first .object [] else .next .object []

/-- A member of an object is passed over. -/
lemma skipFrom_member {first : Bool} {us vs : List JsonToken} {name : String}
    (named : DenotesText us name) (whole : IsWhole vs) (rest : List JsonToken) :
    skipFrom (.inObject first)
        (leadingComma first ++ (us ++ .mark ':' :: (vs ++ rest))) =
      skipFrom (.inObject false) rest := by
  obtain ⟨units, rfl, -⟩ := named
  have behind : skipFrom (.colon []) (.mark ':' :: (vs ++ rest)) =
      skipFrom (.inObject false) rest := whole.skipFrom_append [.object] rest
  rw [← behind]
  cases first <;> rfl

/-- The members of an object are passed over. -/
lemma skipFrom_members (first : Bool) (members : List JsonMemberText) :
    skipFrom (.inObject first)
      (commaJoined first (members.map JsonMemberText.tokens) ++ [.mark '\x7d']) =
        .ok [] := by
  induction members generalizing first with
  | nil => cases first <;> rfl
  | cons m members ih =>
      have member := @skipFrom_member first _ _ _ m.named m.value.whole
        (commaJoined false (members.map JsonMemberText.tokens) ++ [.mark '\x7d'])
      rw [ih false] at member
      rw [← member]
      simp [commaJoined, JsonMemberText.tokens, JsonValueText.tokens]

/-- An object is a value. -/
def JsonValueText.object (members : List JsonMemberText) : JsonValueText :=
  ⟨objectText members, by
    rw [IsWhole, jsonTokens_objectText]
    exact skipFrom_members true members⟩

lemma JsonValueText.tokens_object (members : List JsonMemberText) :
    (object members).tokens =
      .mark '\x7b' :: (commaJoined true (members.map JsonMemberText.tokens) ++
        [.mark '\x7d']) :=
  jsonTokens_objectText members

end RowFilter
