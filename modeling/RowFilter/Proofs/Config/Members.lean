/-
What the members of an object say about a configuration.

* `ConfigMember.Denotes`, `readsExactly_read`: what a member says, and the reader of it.
* `ConfigDraft.takes_readMembers_iff`: the members are read one after the other.
* `ConfigDraft.Absorbs`, `takes_readMembers_append_iff`: what members that are written
  one after the other add to a draft.
* `ConfigDraft.absorbsAll_iff`: this is settled for each member on its own, by the values
  that are written for it. The order of different members does not matter.
-/
import RowFilter.Proofs.Config.Reading

namespace RowFilter

/-! ### Members of a configuration -/

namespace ConfigMember

variable {k : ConfigMember}

/-- What a member says. -/
def Content : ConfigMember → Type
  | .table | .key | .dateFormat => String
  | .fields => Fields

/-- Reads the value of a member. -/
def read : (k : ConfigMember) → (ts : List JsonToken) →
    Except ConfigFault (Taken ts k.Content)
  | .table | .key | .dateFormat => readString
  | .fields => readFields

/-- The tokens are a value that says `x`. -/
def Denotes : (k : ConfigMember) → List JsonToken → k.Content → Prop
  | .table | .key | .dateFormat => DenotesText
  | .fields => DenotesFields

lemma readsExactly_read (k : ConfigMember) : ReadsExactly k.Denotes k.read := by
  cases k with
  | fields => exact readsExactly_readFields
  | _ => exact readsExactly_readString

lemma Denotes.isWhole {us : List JsonToken} {x : k.Content} (h : k.Denotes us x) :
    IsWhole us := by
  cases k with
  | fields => exact DenotesFields.isWhole h
  | _ => exact DenotesText.isWhole h

/-- The value of a member is read whole, or not at all. -/
lemma takes_read_append_iff (v : JsonValueText) {rest rest' : List JsonToken}
    {x : k.Content} :
    Takes k.read (v.tokens ++ rest) x rest' ↔ rest' = rest ∧ k.Denotes v.tokens x :=
  k.readsExactly_read.takes_append_iff (fun _ _ h => h.isWhole) v.isWhole

lemma ofName?_eq_some_iff {name : String} : ofName? name = some k ↔ name = k.name := by
  constructor
  · intro found
    have named := List.find?_some found
    simpa [eq_comm] using named
  · rintro rfl
    cases k <;> rfl

lemma ofName?_eq_none_iff {name : String} :
    ofName? name = none ↔ ∀ k : ConfigMember, name ≠ k.name := by
  simp only [Option.eq_none_iff_forall_ne_some, ne_eq, ofName?_eq_some_iff]

lemma name_injective : Function.Injective name := by
  intro j k h
  have found := (ofName?_eq_some_iff (k := j)).mpr rfl
  rw [h, ofName?_eq_some_iff.mpr rfl] at found
  exact (Option.some.inj found).symm

/-- The values that are written for a member. -/
def valuesIn (k : ConfigMember) (ms : List JsonMemberText) : List JsonValueText :=
  (ms.filter (·.name = k.name)).map (·.value)

lemma valuesIn_cons_of_eq {m : JsonMemberText} (h : m.name = k.name)
    (ms : List JsonMemberText) : k.valuesIn (m :: ms) = m.value :: k.valuesIn ms := by
  simp [valuesIn, h]

lemma valuesIn_cons_of_ne {m : JsonMemberText} (h : m.name ≠ k.name)
    (ms : List JsonMemberText) : k.valuesIn (m :: ms) = k.valuesIn ms := by
  simp [valuesIn, h]

/-- What is known of a member behind the values that are written for it. A value counts
only where none is known. -/
def Gathers (k : ConfigMember) :
    List JsonValueText → Option k.Content → Option k.Content → Prop
  | [], known, known' => known' = known
  | v :: vs, known, known' =>
    known = none ∧ ∃ x, k.Denotes v.tokens x ∧ k.Gathers vs (some x) known'

end ConfigMember

/-- What a configuration says in a member. -/
def Config.content (c : Config) : (k : ConfigMember) → k.Content
  | .table => c.table
  | .key => c.key
  | .fields => c.fields
  | .dateFormat => c.dateFormat

/-! ### Drafts -/

namespace ConfigDraft

variable {d d' : ConfigDraft} {ts rest rest' : List JsonToken}

/-- What was read of a member. -/
def get (d : ConfigDraft) : (k : ConfigMember) → Option k.Content
  | .table => d.table
  | .key => d.key
  | .fields => d.fields
  | .dateFormat => d.dateFormat

/-- A draft in which a member was read. -/
def put (d : ConfigDraft) : (k : ConfigMember) → k.Content → ConfigDraft
  | .table, s => { d with table := some s }
  | .key, s => { d with key := some s }
  | .fields, fs => { d with fields := some fs }
  | .dateFormat, s => { d with dateFormat := some s }

@[simp] lemma get_put_self (d : ConfigDraft) (k : ConfigMember) (x : k.Content) :
    (d.put k x).get k = some x := by
  cases k <;> rfl

lemma get_put_of_ne (d : ConfigDraft) {j k : ConfigMember} (x : k.Content) (h : j ≠ k) :
    (d.put k x).get j = d.get j := by
  cases j <;> cases k <;> first | rfl | exact absurd rfl h

lemma get_empty (k : ConfigMember) : ({} : ConfigDraft).get k = none := by
  cases k <;> rfl

lemma ext_get (h : ∀ k, d.get k = d'.get k) : d = d' := by
  obtain ⟨table, key, fields, dateFormat⟩ := d
  obtain ⟨table', key', fields', dateFormat'⟩ := d'
  rw [mk.injEq]
  exact ⟨h .table, h .key, h .fields, h .dateFormat⟩

lemma has_eq_false_iff {k : ConfigMember} : d.has k = false ↔ d.get k = none := by
  cases k <;> exact Option.isSome_eq_false_iff.trans Option.isNone_iff_eq_none

/-! ### Reading members -/

lemma readValue_eq (d : ConfigDraft) (k : ConfigMember) (ts : List JsonToken) :
    d.readValue k ts = (k.read ts).map fun t => ⟨d.put k t.value, t.rest, t.shorter⟩ := by
  cases k <;> rfl

lemma takes_readValue_iff {k : ConfigMember} :
    Takes (d.readValue k) ts d' rest ↔ ∃ x, Takes k.read ts x rest ∧ d.put k x = d' := by
  constructor
  · rintro ⟨_, read⟩
    rw [readValue_eq] at read
    exact exists_of_map read (fun _ => rfl) fun _ => rfl
  · rintro ⟨x, ⟨shorter, read⟩, rfl⟩
    exact ⟨shorter, (readValue_eq d k ts).trans (except_map_eq_ok_iff.mpr ⟨_, read, rfl⟩)⟩

lemma takes_passValue_iff {u : Unit} : Takes passValue ts u rest ↔ skipValue ts = .ok rest := by
  constructor
  · rintro ⟨_, read⟩
    unfold passValue at read
    split at read
    · next skipped =>
        cases read
        exact skipped
    · cases read
  · intro skipped
    refine ⟨length_skipValue skipped, ?_⟩
    unfold passValue
    split
    · next skipped' =>
        rw [skipped] at skipped'
        cases skipped'
        rfl
    · next skipped' =>
        rw [skipped] at skipped'
        cases skipped'

/-- The value of a member that is known and was not there is read. -/
lemma takes_readMember_name_iff {k : ConfigMember} :
    Takes (d.readMember k.name) ts d' rest ↔
      d.get k = none ∧ ∃ us, ts = .mark ':' :: us ∧ Takes (d.readValue k) us d' rest := by
  have known : ConfigMember.ofName? k.name = some k := ConfigMember.ofName?_eq_some_iff.mpr rfl
  rw [Takes, readMember]
  simp only [known, except_check_eq_ok_iff, Bool.not_eq_true, has_eq_false_iff,
    except_bind_eq_ok_iff]
  constructor
  · rintro ⟨_, fresh, ⟨_, us, h₁⟩, colon, ⟨d', vs, h₂⟩, value, done⟩
    cases done
    obtain rfl := takes_readColon_iff.mp ⟨h₁, colon⟩
    exact ⟨fresh, us, rfl, h₂, value⟩
  · rintro ⟨fresh, us, rfl, h, value⟩
    obtain ⟨_, colon⟩ := (takes_readColon_iff (u := ())).mpr (rfl : .mark ':' :: us = _)
    exact ⟨Nat.lt_succ_of_lt h, fresh, _, colon, _, value, rfl⟩

/-- The value of an unknown member is passed over. -/
lemma takes_readMember_unknown_iff {name : String}
    (unknown : ∀ k : ConfigMember, name ≠ k.name) :
    Takes (d.readMember name) ts d' rest ↔
      d' = d ∧ ∃ us, ts = .mark ':' :: us ∧ skipValue us = .ok rest := by
  rw [Takes, readMember]
  simp only [ConfigMember.ofName?_eq_none_iff.mpr unknown, except_bind_eq_ok_iff]
  constructor
  · rintro ⟨_, ⟨_, us, h₁⟩, colon, ⟨_, vs, h₂⟩, passed, done⟩
    cases done
    obtain rfl := takes_readColon_iff.mp ⟨h₁, colon⟩
    exact ⟨rfl, us, rfl, takes_passValue_iff.mp ⟨h₂, passed⟩⟩
  · rintro ⟨rfl, us, rfl, skipped⟩
    obtain ⟨_, colon⟩ := (takes_readColon_iff (u := ())).mpr (rfl : .mark ':' :: us = _)
    obtain ⟨h, passed⟩ := (takes_passValue_iff (u := ())).mpr skipped
    exact ⟨Nat.lt_succ_of_lt h, _, colon, _, passed, rfl⟩

/-- Reading the members takes one member and then the others. -/
lemma takes_readMembers_iff {first : Bool} :
    Takes (d.readMembers first) ts d' rest ↔
      (ts = .mark '\x7d' :: rest ∧ d' = d) ∨
      ∃ name d₁ us vs, Takes (nextName first) ts (some name) us ∧
        Takes (d.readMember name) us d₁ vs ∧ Takes (d₁.readMembers false) vs d' rest := by
  rw [Takes, readMembers]
  simp only [except_bind_eq_ok_iff]
  constructor
  · rintro ⟨_, ⟨name?, ts₁, h₁⟩, next, body⟩
    cases name? with
    | none =>
        cases body
        exact .inl ⟨takes_nextName_none_iff.mp ⟨h₁, next⟩, rfl⟩
    | some name =>
        simp only [except_bind_eq_ok_iff] at body
        obtain ⟨⟨d₁, ts₂, h₂⟩, member, ⟨d', ts₃, h₃⟩, others, done⟩ := body
        cases done
        exact .inr ⟨name, d₁, ts₁, ts₂, ⟨h₁, next⟩, ⟨h₂, member⟩, h₃, others⟩
  · rintro (⟨rfl, rfl⟩ | ⟨name, d₁, us, vs, ⟨h₁, next⟩, ⟨h₂, member⟩, ⟨h₃, others⟩⟩)
    · obtain ⟨h, next⟩ := (@takes_nextName_none_iff first _ rest).mpr rfl
      exact ⟨h, _, next, rfl⟩
    · refine ⟨Nat.lt_trans h₃ (Nat.lt_trans h₂ h₁), _, next, ?_⟩
      simp only [except_bind_eq_ok_iff]
      exact ⟨_, member, _, others, rfl⟩

/-- A member is read with types that are read back. -/
lemma readable_of_takes_readMember {name : String} (taken : Takes (d.readMember name) ts d' rest)
    (before : ∀ fs ∈ d.fields, fs.Readable) : ∀ fs ∈ d'.fields, fs.Readable := by
  by_cases known : ∃ k : ConfigMember, name = k.name
  · obtain ⟨k, rfl⟩ := known
    obtain ⟨-, us, rfl, value⟩ := takes_readMember_name_iff.mp taken
    obtain ⟨x, read, rfl⟩ := takes_readValue_iff.mp value
    cases k with
    | fields =>
        obtain ⟨vs, -, denoted⟩ := (readsExactly_readFields _ _ _).mp read
        rintro _ ⟨⟩
        exact denoted.readable
    | _ => exact before
  · obtain ⟨rfl, -⟩ := (takes_readMember_unknown_iff (not_exists.mp known)).mp taken
    exact before

/-- Members are read with types that are read back. -/
lemma readable_of_takes_readMembers {first : Bool}
    (taken : Takes (d.readMembers first) ts d' rest)
    (before : ∀ fs ∈ d.fields, fs.Readable) : ∀ fs ∈ d'.fields, fs.Readable := by
  induction hk : ts.length using Nat.strongRecOn generalizing first d ts with
  | ind n ih =>
      rcases takes_readMembers_iff.mp taken with
        ⟨-, rfl⟩ | ⟨name, d₁, us, vs, ⟨h₁, -⟩, member, others⟩
      · exact before
      · have ⟨h₂, _⟩ := member
        refine ih vs.length (by omega) others ?_ rfl
        exact readable_of_takes_readMember member before

/-! ### Members that are written -/

/-- What a member adds to a draft: one that is known and was not there adds its value,
and an unknown one adds nothing. -/
inductive Absorbs (d : ConfigDraft) (m : JsonMemberText) : ConfigDraft → Prop where
  | known {k : ConfigMember} {x : k.Content} : m.name = k.name → d.get k = none →
      k.Denotes m.value.tokens x → d.Absorbs m (d.put k x)
  | unknown : (∀ k : ConfigMember, m.name ≠ k.name) → d.Absorbs m d

/-- What members add one after the other. -/
inductive AbsorbsAll : ConfigDraft → List JsonMemberText → ConfigDraft → Prop where
  | nil (d : ConfigDraft) : d.AbsorbsAll [] d
  | cons {d d₁ d' : ConfigDraft} {m : JsonMemberText} {ms : List JsonMemberText} :
      d.Absorbs m d₁ → d₁.AbsorbsAll ms d' → d.AbsorbsAll (m :: ms) d'

lemma absorbs_iff_of_eq {m : JsonMemberText} {k : ConfigMember} (named : m.name = k.name) :
    d.Absorbs m d' ↔
      d.get k = none ∧ ∃ x, k.Denotes m.value.tokens x ∧ d.put k x = d' := by
  constructor
  · rintro (@⟨k', x, named', fresh, denoted⟩ | unknown)
    · obtain rfl := ConfigMember.name_injective (named.symm.trans named')
      exact ⟨fresh, x, denoted, rfl⟩
    · exact absurd named (unknown k)
  · rintro ⟨fresh, x, denoted, rfl⟩
    exact .known named fresh denoted

lemma absorbs_iff_of_unknown {m : JsonMemberText}
    (unknown : ∀ k : ConfigMember, m.name ≠ k.name) : d.Absorbs m d' ↔ d' = d := by
  constructor
  · rintro (@⟨k, _, named, _⟩ | _)
    · exact absurd named (unknown k)
    · rfl
  · rintro rfl
    exact .unknown unknown

/-- What stands behind the name of a written member is read as what the member adds. -/
lemma takes_readMember_append_iff {m : JsonMemberText} :
    Takes (d.readMember m.name) (.mark ':' :: (m.value.tokens ++ rest)) d' rest' ↔
      rest' = rest ∧ d.Absorbs m d' := by
  by_cases known : ∃ k : ConfigMember, m.name = k.name
  · obtain ⟨k, named⟩ := known
    rw [absorbs_iff_of_eq named, named, takes_readMember_name_iff]
    constructor
    · rintro ⟨fresh, _, ⟨⟩, value⟩
      obtain ⟨x, read, put⟩ := takes_readValue_iff.mp value
      obtain ⟨rfl, denoted⟩ := (ConfigMember.takes_read_append_iff m.value).mp read
      exact ⟨rfl, fresh, x, denoted, put⟩
    · rintro ⟨rfl, fresh, x, denoted, put⟩
      refine ⟨fresh, _, rfl, takes_readValue_iff.mpr ⟨x, ?_, put⟩⟩
      exact (ConfigMember.takes_read_append_iff m.value).mpr ⟨rfl, denoted⟩
  · have unknown : ∀ k : ConfigMember, m.name ≠ k.name := not_exists.mp known
    have skipped := m.value.isWhole.skipValue_append rest
    rw [absorbs_iff_of_unknown unknown, takes_readMember_unknown_iff unknown]
    constructor
    · rintro ⟨rfl, _, ⟨⟩, skipped'⟩
      rw [skipped] at skipped'
      cases skipped'
      exact ⟨rfl, rfl⟩
    · rintro ⟨rfl, rfl⟩
      exact ⟨rfl, _, rfl, skipped⟩

/-- Written members, up to the closing brace, are read as what they add. -/
theorem takes_readMembers_append_iff {first : Bool} {ms : List JsonMemberText} :
    Takes (d.readMembers first)
        (commaJoined first (ms.map JsonMemberText.tokens) ++ .mark '\x7d' :: rest) d' rest' ↔
      rest' = rest ∧ d.AbsorbsAll ms d' := by
  induction ms generalizing first d with
  | nil =>
      rw [takes_readMembers_iff]
      constructor
      · rintro (⟨same, rfl⟩ | ⟨_, _, _, _, next, -⟩)
        · cases same
          exact ⟨rfl, .nil _⟩
        · exact absurd next not_takes_nextName_close
      · rintro ⟨rfl, ⟨⟩⟩
        exact .inl ⟨rfl, rfl⟩
  | cons m ms ih =>
      have tokens : commaJoined first ((m :: ms).map JsonMemberText.tokens) ++
            .mark '\x7d' :: rest =
          leadingComma first ++ (jsonTokens m.nameText.toList ++ .mark ':' ::
            (m.value.tokens ++ (commaJoined false (ms.map JsonMemberText.tokens) ++
              .mark '\x7d' :: rest))) := by
        simp [commaJoined, JsonMemberText.tokens]
      rw [takes_readMembers_iff, tokens]
      constructor
      · rintro (⟨same, -⟩ | ⟨name, d₁, us, vs, next, member, others⟩)
        · cases ((takes_nextName_append_iff m.named).mp (takes_nextName_none_iff.mpr same)).2
        · obtain ⟨rfl, ⟨⟩⟩ := (takes_nextName_append_iff m.named).mp next
          obtain ⟨rfl, absorbed⟩ := takes_readMember_append_iff.mp member
          obtain ⟨rfl, all⟩ := ih.mp others
          exact ⟨rfl, .cons absorbed all⟩
      · rintro ⟨rfl, _ | ⟨absorbed, all⟩⟩
        exact .inr ⟨m.name, _, _, _,
          (takes_nextName_append_iff m.named).mpr ⟨rfl, rfl⟩,
          takes_readMember_append_iff.mpr ⟨rfl, absorbed⟩, ih.mpr ⟨rfl, all⟩⟩

/-! ### Each member on its own -/

lemma absorbsAll_cons_iff {m : JsonMemberText} {ms : List JsonMemberText} :
    d.AbsorbsAll (m :: ms) d' ↔ ∃ d₁, d.Absorbs m d₁ ∧ d₁.AbsorbsAll ms d' := by
  constructor
  · rintro (_ | ⟨absorbed, all⟩)
    exact ⟨_, absorbed, all⟩
  · rintro ⟨_, absorbed, all⟩
    exact .cons absorbed all

/-- One more member counts for the member of its name. -/
lemma gathers_cons_iff {m : JsonMemberText} {ms : List JsonMemberText} :
    (∀ k : ConfigMember, k.Gathers (k.valuesIn (m :: ms)) (d.get k) (d'.get k)) ↔
      ∃ d₁, d.Absorbs m d₁ ∧
        ∀ k : ConfigMember, k.Gathers (k.valuesIn ms) (d₁.get k) (d'.get k) := by
  by_cases known : ∃ k : ConfigMember, m.name = k.name
  · obtain ⟨k, named⟩ := known
    have others : ∀ j, j ≠ k → j.valuesIn (m :: ms) = j.valuesIn ms := fun j ne =>
      ConfigMember.valuesIn_cons_of_ne
        (fun h => ne (ConfigMember.name_injective (h.symm.trans named))) ms
    simp only [absorbs_iff_of_eq named]
    constructor
    · intro gathered
      have own := gathered k
      rw [ConfigMember.valuesIn_cons_of_eq named] at own
      obtain ⟨fresh, x, denoted, own⟩ := own
      -- for the other members the draft and the values stay as they are
      refine ⟨d.put k x, ⟨fresh, x, denoted, rfl⟩, fun j => ?_⟩
      by_cases eq : j = k
      · subst eq
        rwa [get_put_self]
      · rw [get_put_of_ne d x eq, ← others j eq]
        exact gathered j
    · rintro ⟨_, ⟨fresh, x, denoted, rfl⟩, gathered⟩ j
      have after := gathered j
      by_cases eq : j = k
      · subst eq
        rw [get_put_self] at after
        rw [ConfigMember.valuesIn_cons_of_eq named]
        exact ⟨fresh, x, denoted, after⟩
      · rwa [get_put_of_ne d x eq, ← others j eq] at after
  · have unknown : ∀ k : ConfigMember, m.name ≠ k.name := not_exists.mp known
    simp only [ConfigMember.valuesIn_cons_of_ne (unknown _), absorbs_iff_of_unknown unknown,
      exists_eq_left]

/-- Members add what the values for each of them add, whatever stands between these. -/
theorem absorbsAll_iff {ms : List JsonMemberText} :
    d.AbsorbsAll ms d' ↔
      ∀ k : ConfigMember, k.Gathers (k.valuesIn ms) (d.get k) (d'.get k) := by
  induction ms generalizing d with
  | nil =>
      constructor
      · rintro ⟨⟩ k
        rfl
      · intro same
        obtain rfl : d' = d := ext_get same
        exact .nil d'
  | cons m ms ih => simp only [absorbsAll_cons_iff, gathers_cons_iff, ih]

end ConfigDraft

end RowFilter
