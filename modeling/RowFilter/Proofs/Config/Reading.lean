/-
What the parts of a configuration are read from.

* `Takes`, `ReadsExactly`: reading takes exactly the tokens that denote something, and
  leaves what follows.
* `readsExactly_readString`, `readsExactly_readType`: texts and the names of types.
* `DenotesFields`, `readsExactly_readFields`: the object of the fields; each member
  declares a field, in place of one of the same name.
* `DenotesFields.readable`: the types of the fields are read back from their names.
-/
import RowFilter.Config.Json
import RowFilter.Proofs.Computations
import RowFilter.Proofs.Json.Value
import RowFilter.Proofs.TypeNames

namespace RowFilter

/-! ### Taking tokens -/

section Taking

variable {α : Type} {read : (ts : List JsonToken) → Except ConfigFault (Taken ts α)}
  {denotes : List JsonToken → α → Prop}

/-- Reading gives `a` and leaves `rest`. -/
def Takes (read : (ts : List JsonToken) → Except ConfigFault (Taken ts α))
    (ts : List JsonToken) (a : α) (rest : List JsonToken) : Prop :=
  ∃ shorter, read ts = .ok ⟨a, rest, shorter⟩

/-- Reading takes exactly the tokens that denote something, whatever follows. -/
def ReadsExactly (denotes : List JsonToken → α → Prop)
    (read : (ts : List JsonToken) → Except ConfigFault (Taken ts α)) : Prop :=
  ∀ ts a rest, Takes read ts a rest ↔ ∃ us, ts = us ++ rest ∧ denotes us a

/-- Mapping what is taken keeps what is left. -/
lemma exists_of_map {β : Type} {ts ts' : List JsonToken}
    {r : Except ConfigFault (Taken ts α)} {f : Taken ts α → Taken ts' β} {b : β}
    {rest : List JsonToken} {shorter : rest.length < ts'.length}
    (mapped : r.map f = .ok ⟨b, rest, shorter⟩) {g : α → β}
    (value : ∀ t, (f t).value = g t.value) (kept : ∀ t, (f t).rest = t.rest) :
    ∃ a, (∃ shorter, r = .ok ⟨a, rest, shorter⟩) ∧ g a = b := by
  obtain ⟨t, rfl, same⟩ := except_map_eq_ok_iff.mp mapped
  have value := value t
  have kept := kept t
  rw [same] at value kept
  obtain ⟨a, rest', h⟩ := t
  cases kept
  exact ⟨a, ⟨h, rfl⟩, value.symm⟩

/-- A whole value is read whole, or not at all. -/
lemma ReadsExactly.takes_append_iff (exact : ReadsExactly denotes read)
    (values : ∀ us a, denotes us a → IsWhole us) {us : List JsonToken} (whole : IsWhole us)
    {rest rest' : List JsonToken} {a : α} :
    Takes read (us ++ rest) a rest' ↔ rest' = rest ∧ denotes us a := by
  rw [exact]
  constructor
  · rintro ⟨vs, same, denoted⟩
    obtain ⟨rfl, rfl⟩ := whole.append_inj (values vs a denoted) same
    exact ⟨rfl, denoted⟩
  · rintro ⟨rfl, denoted⟩
    exact ⟨us, rfl, denoted⟩

end Taking

/-! ### Texts -/

lemma textOfUnits_eq_ok_iff {units : List TextUnit} {s : String} :
    textOfUnits units = .ok s ↔ decodeUnits .malformed units = .ok s.toList := by
  rw [textOfUnits, except_mapError_eq_ok_iff, except_map_eq_ok_iff]
  constructor
  · rintro ⟨cs, decoded, rfl⟩
    rw [decoded, String.toList_ofList]
  · intro decoded
    exact ⟨s.toList, decoded, String.ofList_toList⟩

/-- What takes a text from the front of tokens, and fails on everything else. -/
lemma readsExactly_text {read : (ts : List JsonToken) → Except ConfigFault (Taken ts String)}
    (text : ∀ units rest, read (.text units :: rest) =
      (textOfUnits units).map (⟨·, rest, Nat.lt_succ_self _⟩))
    (other : ∀ ts s rest, Takes read ts s rest → ∃ units, ts.head? = some (.text units)) :
    ReadsExactly DenotesText read := by
  have takes_text : ∀ units rest s rest',
      Takes read (.text units :: rest) s rest' ↔
        rest' = rest ∧ decodeUnits .malformed units = .ok s.toList := by
    intro units rest s rest'
    rw [Takes, text, ← textOfUnits_eq_ok_iff]
    cases textOfUnits units with
    | error f => simp [Except.map]
    | ok s' =>
        simp only [Except.map, Except.ok.injEq, Taken.mk.injEq]
        constructor
        · rintro ⟨_, rfl, rfl⟩
          exact ⟨rfl, rfl⟩
        · rintro ⟨rfl, rfl⟩
          exact ⟨Nat.lt_succ_self _, rfl, rfl⟩
  intro ts s rest
  constructor
  · intro taken
    obtain ⟨units, first⟩ := other ts s rest taken
    obtain ⟨ts, rfl⟩ := List.head?_eq_some_iff.mp first
    obtain ⟨rfl, decoded⟩ := (takes_text units ts s rest).mp taken
    exact ⟨[.text units], rfl, units, rfl, decoded⟩
  · rintro ⟨us, rfl, units, rfl, decoded⟩
    exact (takes_text units rest s rest).mpr ⟨rfl, decoded⟩

lemma readsExactly_readString : ReadsExactly DenotesText readString := by
  refine readsExactly_text (fun _ _ => rfl) ?_
  rintro (_ | ⟨t, ts⟩) s rest ⟨_, read⟩
  · cases read
  · cases t with
    | text units => exact ⟨units, rfl⟩
    | _ => cases read

lemma readsExactly_readName : ReadsExactly DenotesText readName := by
  refine readsExactly_text (fun _ _ => rfl) ?_
  rintro (_ | ⟨t, ts⟩) s rest ⟨_, read⟩
  · cases read
  · cases t with
    | text units => exact ⟨units, rfl⟩
    | _ => cases read

/-- The tokens are a text that is read as the name of a type. -/
def DenotesType (us : List JsonToken) (type : ValueType) : Prop :=
  ∃ s, DenotesText us s ∧ ValueType.ofName s = .ok type

lemma readsExactly_readType : ReadsExactly DenotesType readType := by
  intro ts type rest
  have step : Takes readType ts type rest ↔
      ∃ s, Takes readString ts s rest ∧ ValueType.ofName s = .ok type := by
    unfold Takes readType
    simp only [except_bind_eq_ok_iff]
    constructor
    · rintro ⟨shorter, ⟨s, rest', h⟩, read, named⟩
      simp only at named
      cases known : ValueType.ofName s with
      | error u =>
          rw [known] at named
          cases named
      | ok t =>
          rw [known] at named
          cases named
          exact ⟨s, ⟨h, read⟩, known⟩
    · rintro ⟨s, ⟨h, read⟩, known⟩
      refine ⟨h, _, read, ?_⟩
      simp only [known]
      rfl
  simp only [step, readsExactly_readString ts, DenotesType]
  constructor
  · rintro ⟨s, ⟨us, split, denoted⟩, known⟩
    exact ⟨us, split, s, denoted, known⟩
  · rintro ⟨us, split, s, denoted, known⟩
    exact ⟨s, ⟨us, split, denoted⟩, known⟩

/-! ### Members -/

lemma takes_readColon_iff {ts rest : List JsonToken} {u : Unit} :
    Takes readColon ts u rest ↔ ts = .mark ':' :: rest := by
  constructor
  · rintro ⟨_, read⟩
    unfold readColon at read
    split at read
    · cases read
    · cases read
      rfl
    · cases read
  · rintro rfl
    exact ⟨Nat.lt_succ_self _, rfl⟩

/-- No name comes next where the object ends. -/
lemma takes_nextName_none_iff {first : Bool} {ts rest : List JsonToken} :
    Takes (nextName first) ts none rest ↔ ts = .mark '\x7d' :: rest := by
  constructor
  · rintro ⟨_, read⟩
    rcases ts with _ | ⟨t, ts⟩
    · cases read
    · simp only [nextName] at read
      split_ifs at read with closing
      · cases read
        rw [closing]
      all_goals
        obtain ⟨_, _, same⟩ := except_map_eq_ok_iff.mp read
        cases same
  · rintro rfl
    exact ⟨Nat.lt_succ_self _, rfl⟩

/-- A name comes next, behind a comma if it is not the first. -/
lemma takes_nextName_some_iff {first : Bool} {ts rest : List JsonToken} {name : String} :
    Takes (nextName first) ts (some name) rest ↔
      ∃ us, ts = leadingComma first ++ (us ++ rest) ∧ DenotesText us name := by
  constructor
  · rintro ⟨shorter, read⟩
    rcases ts with _ | ⟨t, ts⟩
    · cases read
    · simp only [nextName] at read
      split_ifs at read with closing one comma
      · cases read
      · obtain ⟨name, named, ⟨⟩⟩ := exists_of_map read (g := some) (fun _ => rfl) fun _ => rfl
        obtain ⟨us, split, denoted⟩ := (readsExactly_readName _ _ _).mp named
        exact ⟨us, by rw [split, one]; rfl, denoted⟩
      · obtain ⟨name, named, ⟨⟩⟩ := exists_of_map read (g := some) (fun _ => rfl) fun _ => rfl
        obtain ⟨us, split, denoted⟩ := (readsExactly_readName _ _ _).mp named
        rw [Bool.not_eq_true] at one
        exact ⟨us, by rw [comma, split, one]; rfl, denoted⟩
  · rintro ⟨_, rfl, units, rfl, decoded⟩
    obtain ⟨shorter, named⟩ := (readsExactly_readName ([.text units] ++ rest) name rest).mpr
      ⟨_, rfl, units, rfl, decoded⟩
    cases first with
    | true => exact ⟨shorter, except_map_eq_ok_iff.mpr ⟨_, named, rfl⟩⟩
    | false => exact ⟨Nat.lt_succ_of_lt shorter, except_map_eq_ok_iff.mpr ⟨_, named, rfl⟩⟩

lemma not_takes_nextName_close {first : Bool} {ts rest : List JsonToken} {name : String} :
    ¬ Takes (nextName first) (.mark '\x7d' :: ts) (some name) rest := by
  intro taken
  obtain ⟨_, same, units, rfl, -⟩ := takes_nextName_some_iff.mp taken
  cases first <;> cases same

/-- Where a text stands, it is the next name. -/
lemma takes_nextName_append_iff {first : Bool} {us rest rest' : List JsonToken}
    {s : String} {name? : Option String} (named : DenotesText us s) :
    Takes (nextName first) (leadingComma first ++ (us ++ rest)) name? rest' ↔
      rest' = rest ∧ name? = some s := by
  cases name? with
  | none =>
      obtain ⟨units, rfl, -⟩ := named
      rw [takes_nextName_none_iff]
      cases first <;> simp [leadingComma]
  | some name =>
      rw [takes_nextName_some_iff]
      constructor
      · rintro ⟨vs, same, named'⟩
        obtain ⟨rfl, rfl⟩ :=
          named.isWhole.append_inj named'.isWhole (List.append_cancel_left same)
        exact ⟨rfl, congrArg some (named'.unique named)⟩
      · rintro ⟨rfl, ⟨⟩⟩
        exact ⟨us, rfl, named⟩

/-! ### Fields -/

/-- The tokens are members of the object of the fields, behind others or, if what comes
is the `first`, behind none, up to the closing brace. Each declares a field. -/
inductive DenotesFieldsFrom : Bool → Fields → List JsonToken → Fields → Prop where
  | done (first : Bool) (fs : Fields) : DenotesFieldsFrom first fs [.mark '\x7d'] fs
  | member {first : Bool} {fs fs' : Fields} {name : String} {type : ValueType}
      {us vs ws : List JsonToken} :
      DenotesText us name → DenotesType vs type →
      DenotesFieldsFrom false (fs.insert name type) ws fs' →
      DenotesFieldsFrom first fs (leadingComma first ++ (us ++ .mark ':' :: (vs ++ ws))) fs'

/-- The tokens are an object whose members declare these fields. -/
def DenotesFields (us : List JsonToken) (fs : Fields) : Prop :=
  ∃ vs, us = .mark '\x7b' :: vs ∧ DenotesFieldsFrom true .empty vs fs

/-- Reading the members of the fields takes one member and then the others. -/
lemma takes_readFieldMembers_iff {first : Bool} {fs fs' : Fields} {ts rest : List JsonToken} :
    Takes (readFieldMembers first fs) ts fs' rest ↔
      (ts = .mark '\x7d' :: rest ∧ fs' = fs) ∨
      ∃ name type us vs, Takes (nextName first) ts (some name) (.mark ':' :: us) ∧
        Takes readType us type vs ∧
        Takes (readFieldMembers false (fs.insert name type)) vs fs' rest := by
  rw [Takes, readFieldMembers]
  simp only [except_bind_eq_ok_iff]
  constructor
  · rintro ⟨_, ⟨name?, ts₁, h₁⟩, next, body⟩
    cases name? with
    | none =>
        cases body
        exact .inl ⟨takes_nextName_none_iff.mp ⟨h₁, next⟩, rfl⟩
    | some name =>
        simp only [except_bind_eq_ok_iff] at body
        obtain ⟨⟨_, ts₂, h₂⟩, colon, ⟨type, ts₃, h₃⟩, typed, ⟨fs', ts₄, h₄⟩, others, done⟩ := body
        cases done
        obtain rfl := takes_readColon_iff.mp ⟨h₂, colon⟩
        exact .inr ⟨name, type, ts₂, ts₃, ⟨h₁, next⟩, ⟨h₃, typed⟩, ⟨h₄, others⟩⟩
  · rintro (⟨rfl, rfl⟩ | ⟨name, type, us, vs, ⟨h₁, next⟩, ⟨h₂, typed⟩, ⟨h₃, others⟩⟩)
    · obtain ⟨h₁, next⟩ := (@takes_nextName_none_iff first _ rest).mpr rfl
      exact ⟨h₁, _, next, rfl⟩
    · obtain ⟨h, colon⟩ := (takes_readColon_iff (u := ())).mpr (rfl : .mark ':' :: us = _)
      refine ⟨by simp at h₁; omega, _, next, ?_⟩
      simp only [except_bind_eq_ok_iff]
      exact ⟨_, colon, _, typed, _, others, rfl⟩

lemma readsExactly_readFieldMembers (first : Bool) (fs : Fields) :
    ReadsExactly (DenotesFieldsFrom first fs) (readFieldMembers first fs) := by
  intro ts fs' rest
  constructor
  · intro taken
    -- a member takes several tokens, so the induction is on how many there are
    induction hk : ts.length using Nat.strongRecOn generalizing first fs ts with
    | ind k ih =>
        rcases takes_readFieldMembers_iff.mp taken with
          ⟨rfl, rfl⟩ | ⟨name, type, us, vs, next, typed, others⟩
        · exact ⟨[.mark '\x7d'], rfl, .done first fs'⟩
        · obtain ⟨ns, rfl, named⟩ := takes_nextName_some_iff.mp next
          obtain ⟨ws, rfl, denoted⟩ := (readsExactly_readType us type vs).mp typed
          have shorter : vs.length < k := by
            simp only [List.length_append, List.length_cons] at hk
            omega
          obtain ⟨xs, rfl, rest_denoted⟩ := ih _ shorter _ _ _ others rfl
          exact ⟨_, by simp, .member named denoted rest_denoted⟩
  · rintro ⟨us, rfl, denoted⟩
    induction denoted with
    | done first fs => exact takes_readFieldMembers_iff.mpr (.inl ⟨rfl, rfl⟩)
    | @member first fs fs' name type us vs ws named typed others ih =>
        refine takes_readFieldMembers_iff.mpr (.inr ⟨name, type, vs ++ (ws ++ rest), ws ++ rest,
          takes_nextName_some_iff.mpr ⟨us, by simp, named⟩, ?_, ih⟩)
        exact (readsExactly_readType _ _ _).mpr ⟨vs, rfl, typed⟩

/-- The object of the fields is read exactly. -/
theorem readsExactly_readFields : ReadsExactly DenotesFields readFields := by
  intro ts fs rest
  constructor
  · rintro ⟨shorter, read⟩
    rcases ts with _ | ⟨t, ts⟩
    · cases read
    · simp only [readFields] at read
      split_ifs at read with opening
      obtain ⟨fs, members, rfl⟩ := exists_of_map read (g := id) (fun _ => rfl) fun _ => rfl
      obtain ⟨us, rfl, denoted⟩ := (readsExactly_readFieldMembers _ _ _ _ _).mp members
      exact ⟨t :: us, rfl, us, by rw [opening], denoted⟩
  · rintro ⟨_, rfl, us, rfl, denoted⟩
    obtain ⟨shorter, members⟩ :=
      (readsExactly_readFieldMembers true .empty (us ++ rest) fs rest).mpr ⟨us, rfl, denoted⟩
    exact ⟨Nat.lt_succ_of_lt shorter, except_map_eq_ok_iff.mpr ⟨_, members, rfl⟩⟩

/-- The members of the fields are passed over. -/
lemma DenotesFieldsFrom.skipFrom_eq {first : Bool} {fs fs' : Fields} {us : List JsonToken}
    (h : DenotesFieldsFrom first fs us fs') : skipFrom (.inObject first) us = .ok [] := by
  induction h with
  | done first => cases first <;> rfl
  | member named typed _ ih =>
      obtain ⟨s, text, -⟩ := typed
      rw [skipFrom_member named text.isWhole, ih]

/-- The object of the fields is a value. -/
lemma DenotesFields.isWhole {us : List JsonToken} {fs : Fields} (h : DenotesFields us fs) :
    IsWhole us := by
  obtain ⟨vs, rfl, denoted⟩ := h
  exact denoted.skipFrom_eq

/-- The types of all fields are read back from their names. -/
def Fields.Readable (fs : Fields) : Prop :=
  ∀ f ∈ fs.entries, ValueType.ofName f.2.name = .ok f.2

/-- Members add fields with types that are read back. -/
lemma DenotesFieldsFrom.readable {first : Bool} {fs fs' : Fields} {us : List JsonToken}
    (h : DenotesFieldsFrom first fs us fs') (before : fs.Readable) : fs'.Readable := by
  induction h with
  | done => exact before
  | member _ typed _ ih =>
      obtain ⟨s, -, known⟩ := typed
      refine ih fun f hf => ?_
      rcases mem_insertField hf with rfl | hf
      · exact ValueType.ofName_name_of_eq_ok known
      · exact before f hf

/-- Fields that are read have types that are read back. -/
lemma DenotesFields.readable {us : List JsonToken} {fs : Fields} (h : DenotesFields us fs) :
    fs.Readable := by
  obtain ⟨vs, rfl, denoted⟩ := h
  exact denoted.readable (List.forall_mem_nil _)

end RowFilter
