/-
The two written forms of a configuration, and its normal form.

* `Config.ofJson_objectText_iff`: what an object with any members is read as, in whatever
  order.
* `Config.ofJson_objectText_iff_of_once`, `Config.ofJson_arrayText_iff`: an object in
  which each member stands once, and an array, say what their values say.
* `Config.readable_of_ofJson`: what is read has types that are read back.
* `Config.written`, `Config.denotes_written`: the values that are written for a
  configuration say what it says.
* `Config.ofJson_normal`: a configuration that is read is read back from what is written
  for it, and an object and an array of the same values are read alike.
-/
import RowFilter.Proofs.Config.Members
import RowFilter.Proofs.Json.Document

namespace RowFilter

/-! ### Complete drafts -/

namespace Config

/-- The configuration that says `x`. -/
def ofContent (x : (k : ConfigMember) → k.Content) : Config :=
  ⟨x .table, x .key, x .fields, x .dateFormat⟩

lemma ofContent_eq_iff {x : (k : ConfigMember) → k.Content} {c : Config} :
    ofContent x = c ↔ ∀ k, c.content k = x k := by
  constructor
  · rintro rfl k
    cases k <;> rfl
  · intro same
    rw [ofContent, ← same .table, ← same .key, ← same .fields, ← same .dateFormat]
    rfl

/-- The draft in which everything was read. -/
def draft (c : Config) : ConfigDraft where
  table := c.table
  key := c.key
  fields := c.fields
  dateFormat := c.dateFormat

lemma get_draft (c : Config) (k : ConfigMember) : c.draft.get k = some (c.content k) := by
  cases k <;> rfl

lemma complete_draft (c : Config) : c.draft.complete = .ok c := rfl

end Config

/-- A draft in which everything was read is completed to what was read. -/
lemma ConfigDraft.complete_eq_ok_iff_of_full {d : ConfigDraft}
    {x : (k : ConfigMember) → k.Content} (full : ∀ k, d.get k = some (x k)) {c : Config} :
    d.complete = .ok c ↔ ∀ k, c.content k = x k := by
  have eq : d = (Config.ofContent x).draft := ext_get fun k => by
    rw [full, Config.get_draft, Config.ofContent_eq_iff.mp rfl]
  rw [eq, Config.complete_draft, Except.ok.injEq, Config.ofContent_eq_iff]

/-- The fields of a complete draft are those that were read. -/
lemma ConfigDraft.fields_of_complete {d : ConfigDraft} {c : Config}
    (h : d.complete = .ok c) : d.fields = some c.fields := by
  unfold complete at h
  split at h
  · cases h
  · cases h
  · next fields _ known =>
      cases h
      exact known

/-! ### Objects -/

lemma readConfigObject_eq_ok_iff {ts rest : List JsonToken} {c : Config} :
    readConfigObject ts = .ok (c, rest) ↔
      ∃ d, Takes (ConfigDraft.readMembers true {}) ts d rest ∧ d.complete = .ok c := by
  simp only [readConfigObject, except_bind_eq_ok_iff]
  constructor
  · rintro ⟨⟨d, rest, h⟩, members, c, complete, done⟩
    cases done
    exact ⟨d, ⟨h, members⟩, complete⟩
  · rintro ⟨d, ⟨h, members⟩, complete⟩
    exact ⟨_, members, _, complete, rfl⟩

namespace Config

lemma ofJson_eq_ok_iff {json : String} {c : Config} :
    ofJson json = .ok c ↔ readConfig (jsonTokens json.toList) = .ok (c, []) := by
  simp only [ofJson, except_bind_eq_ok_iff]
  constructor
  · rintro ⟨⟨c, rest⟩, read, done⟩
    cases rest with
    | nil =>
        cases done
        exact read
    | cons => cases done
  · exact fun read => ⟨_, read, rfl⟩

/-- An object is read as the configuration that its members add up to. -/
theorem ofJson_objectText_iff {ms : List JsonMemberText} {c : Config} :
    ofJson (objectText ms) = .ok c ↔
      ∃ d, ConfigDraft.AbsorbsAll {} ms d ∧ d.complete = .ok c := by
  have object : ∀ ts, readConfig (.mark '\x7b' :: ts) = readConfigObject ts := fun _ => rfl
  rw [ofJson_eq_ok_iff, jsonTokens_objectText, object, readConfigObject_eq_ok_iff]
  simp only [ConfigDraft.takes_readMembers_append_iff, true_and]

/-- An object in which each member stands once says what their values say. -/
theorem ofJson_objectText_iff_of_once {ms : List JsonMemberText}
    {v : ConfigMember → JsonValueText} (once : ∀ k, k.valuesIn ms = [v k]) {c : Config} :
    ofJson (objectText ms) = .ok c ↔
      ∀ k : ConfigMember, k.Denotes (v k).tokens (c.content k) := by
  rw [ofJson_objectText_iff]
  constructor
  · rintro ⟨d, all, complete⟩
    have read : ∀ k : ConfigMember, ∃ x, k.Denotes (v k).tokens x ∧ d.get k = some x := by
      intro k
      have gathered := ConfigDraft.absorbsAll_iff.mp all k
      rw [once] at gathered
      exact gathered.2
    -- the draft is not known, but each of its members has a value
    choose x denoted full using read
    intro k
    rw [(ConfigDraft.complete_eq_ok_iff_of_full full).mp complete]
    exact denoted k
  · intro denoted
    refine ⟨c.draft, ConfigDraft.absorbsAll_iff.mpr fun k => ?_, c.complete_draft⟩
    rw [once]
    exact ⟨ConfigDraft.get_empty k, _, denoted k, c.get_draft k⟩

end Config

/-! ### Arrays -/

section Items

variable {α : Type} {read : (ts : List JsonToken) → Except ConfigFault (Taken ts α)}
  {first : Bool}

/-- A value that stands where an item is wanted is read. -/
lemma readItem_append {us : List JsonToken} (whole : IsWhole us) (rest : List JsonToken) :
    readItem first read (leadingComma first ++ (us ++ rest)) =
      (read (us ++ rest)).map fun t => (some t.value, t.rest) := by
  obtain ⟨t, us, rfl, ne⟩ := whole.exists_cons
  cases first with
  | true => simp [readItem, leadingComma, ne]
  | false => simp [readItem, leadingComma, ne]

/-- An item that is read was taken from tokens. -/
lemma exists_takes_of_readItem {ts rest : List JsonToken} {a : α}
    (h : readItem first read ts = .ok (some a, rest)) : ∃ ts', Takes read ts' a rest := by
  rcases ts with _ | ⟨t, ts⟩
  · cases h
  · simp only [readItem] at h
    split_ifs at h
    · cases h
    all_goals
      obtain ⟨⟨a, rest, shorter⟩, taken, same⟩ := except_map_eq_ok_iff.mp h
      cases same
      exact ⟨_, shorter, taken⟩

end Items

/-- The value of a member that stands where it is wanted as an item is read. -/
lemma readItem_append_eq_ok_iff {k : ConfigMember} {first : Bool} (v : JsonValueText)
    {rest rest' : List JsonToken} {x? : Option k.Content} :
    readItem first k.read (leadingComma first ++ (v.tokens ++ rest)) = .ok (x?, rest') ↔
      rest' = rest ∧ ∃ x, k.Denotes v.tokens x ∧ x? = some x := by
  rw [readItem_append v.isWhole, except_map_eq_ok_iff]
  constructor
  · rintro ⟨⟨x, rest'', h⟩, taken, same⟩
    cases same
    obtain ⟨rfl, denoted⟩ := (ConfigMember.takes_read_append_iff v).mp ⟨h, taken⟩
    exact ⟨rfl, x, denoted, rfl⟩
  · rintro ⟨rfl, x, denoted, rfl⟩
    obtain ⟨h, taken⟩ := (ConfigMember.takes_read_append_iff v).mpr ⟨rfl, denoted⟩
    exact ⟨_, taken, rfl⟩

lemma readConfigArray_eq_ok_iff {ts rest : List JsonToken} {c : Config} :
    readConfigArray ts = .ok (c, rest) ↔
      ∃ table key? fields dateFormat? ts₁ ts₂ ts₃ ts₄,
        readItem true readString ts = .ok (some table, ts₁) ∧
        readItem false readString ts₁ = .ok (key?, ts₂) ∧
        readItem false readFields ts₂ = .ok (some fields, ts₃) ∧
        readItem false readString ts₃ = .ok (dateFormat?, ts₄) ∧
        readArrayEnd ts₄ = .ok rest ∧
        ({ key := key?, dateFormat := dateFormat? } : ConfigDraft).withRequired table fields =
          c := by
  simp only [readConfigArray, except_bind_eq_ok_iff]
  constructor
  · rintro ⟨⟨table?, ts₁⟩, item₁, body⟩
    cases table? with
    | none => cases body
    | some table =>
        simp only [except_bind_eq_ok_iff] at body
        obtain ⟨⟨key?, ts₂⟩, item₂, ⟨fields?, ts₃⟩, item₃, body⟩ := body
        cases fields? with
        | none => cases body
        | some fields =>
            simp only [except_bind_eq_ok_iff] at body
            obtain ⟨⟨dateFormat?, ts₄⟩, item₄, rest, ended, done⟩ := body
            cases done
            exact ⟨table, key?, fields, dateFormat?, ts₁, ts₂, ts₃, ts₄, item₁, item₂,
              item₃, item₄, ended, rfl⟩
  · rintro ⟨table, key?, fields, dateFormat?, ts₁, ts₂, ts₃, ts₄, item₁, item₂, item₃, item₄,
      ended, rfl⟩
    refine ⟨_, item₁, ?_⟩
    simp only [except_bind_eq_ok_iff]
    refine ⟨_, item₂, _, item₃, ?_⟩
    simp only [except_bind_eq_ok_iff]
    exact ⟨_, item₄, _, ended, rfl⟩

/-- The members in the order in which an array has them. -/
def ConfigMember.inOrder : List ConfigMember := [.table, .key, .fields, .dateFormat]

namespace Config

/-- An array says what its items say. -/
theorem ofJson_arrayText_iff {v : ConfigMember → JsonValueText} {c : Config} :
    ofJson (arrayText (ConfigMember.inOrder.map v)) = .ok c ↔
      ∀ k : ConfigMember, k.Denotes (v k).tokens (c.content k) := by
  have array : ∀ ts, readConfig (.mark '[' :: ts) = readConfigArray ts := fun _ => rfl
  have items : commaJoined true ((ConfigMember.inOrder.map v).map JsonValueText.tokens) ++
        [.mark ']'] =
      leadingComma true ++ ((v .table).tokens ++ (leadingComma false ++ ((v .key).tokens ++
        (leadingComma false ++ ((v .fields).tokens ++ (leadingComma false ++
          ((v .dateFormat).tokens ++ [.mark ']']))))))) := by
    simp [ConfigMember.inOrder, commaJoined]
  rw [ofJson_eq_ok_iff, jsonTokens_arrayText, array, items, readConfigArray_eq_ok_iff]
  constructor
  · rintro ⟨table, key?, fields, dateFormat?, ts₁, ts₂, ts₃, ts₄, item₁, item₂, item₃, item₄,
      -, rfl⟩
    obtain ⟨rfl, _, table, ⟨⟩⟩ := (readItem_append_eq_ok_iff (k := .table) _).mp item₁
    obtain ⟨rfl, _, key, ⟨⟩⟩ := (readItem_append_eq_ok_iff (k := .key) _).mp item₂
    obtain ⟨rfl, _, fields, ⟨⟩⟩ := (readItem_append_eq_ok_iff (k := .fields) _).mp item₃
    obtain ⟨rfl, _, date, ⟨⟩⟩ := (readItem_append_eq_ok_iff (k := .dateFormat) _).mp item₄
    intro k
    cases k with
    | table => exact table
    | key => exact key
    | fields => exact fields
    | dateFormat => exact date
  · intro denoted
    exact ⟨c.table, some c.key, c.fields, some c.dateFormat, _, _, _, _,
      (readItem_append_eq_ok_iff (k := .table) _).mpr ⟨rfl, _, denoted .table, rfl⟩,
      (readItem_append_eq_ok_iff (k := .key) _).mpr ⟨rfl, _, denoted .key, rfl⟩,
      (readItem_append_eq_ok_iff (k := .fields) _).mpr ⟨rfl, _, denoted .fields, rfl⟩,
      (readItem_append_eq_ok_iff (k := .dateFormat) _).mpr ⟨rfl, _, denoted .dateFormat, rfl⟩,
      rfl, rfl⟩

/-! ### Fields that are read -/

/-- What is read has types that are read back. -/
theorem readable_of_ofJson {json : String} {c : Config} (h : ofJson json = .ok c) :
    c.fields.Readable := by
  rw [ofJson_eq_ok_iff] at h
  cases tokens : jsonTokens json.toList with
  | nil =>
      rw [tokens] at h
      cases h
  | cons t ts =>
      rw [tokens, readConfig] at h
      split_ifs at h
      · obtain ⟨d, taken, complete⟩ := readConfigObject_eq_ok_iff.mp h
        refine ConfigDraft.readable_of_takes_readMembers taken ?_ c.fields
          (ConfigDraft.fields_of_complete complete)
        rintro _ ⟨⟩
      · obtain ⟨_, _, fields, _, _, _, _, _, -, -, item, -, -, rfl⟩ :=
          readConfigArray_eq_ok_iff.mp h
        obtain ⟨ts, taken⟩ := exists_takes_of_readItem item
        obtain ⟨us, -, denoted⟩ := (readsExactly_readFields ts _ _).mp taken
        exact denoted.readable

end Config

/-! ### Configurations that are written -/

/-- A field as a member: its name, and the name of its type. -/
def fieldText (f : String × ValueType) : JsonMemberText :=
  .quoted f.1 (.quoted f.2.name)

/-- Fields that are written one after the other are declared one after the other. -/
lemma denotesFieldsFrom_fieldText {fs : List (String × ValueType)}
    (readable : ∀ f ∈ fs, ValueType.ofName f.2.name = .ok f.2) (first : Bool)
    (before : Fields) :
    DenotesFieldsFrom first before
      (commaJoined first (fs.map fun f => (fieldText f).tokens) ++ [.mark '\x7d'])
      (fs.foldl (fun fs f => fs.insert f.1 f.2) before) := by
  induction fs generalizing first before with
  | nil => exact .done first before
  | cons f fs ih =>
      obtain ⟨known, others⟩ := List.forall_mem_cons.mp readable
      have name := denotesText_jsonQuoted f.1
      have type : DenotesType (JsonValueText.quoted f.2.name).tokens f.2 :=
        ⟨_, JsonValueText.denotes_quoted _, known⟩
      have tokens : commaJoined first ((f :: fs).map fun f => (fieldText f).tokens) ++
            [.mark '\x7d'] =
          leadingComma first ++ (jsonTokens (jsonQuoted f.1).toList ++ .mark ':' ::
            ((JsonValueText.quoted f.2.name).tokens ++
              (commaJoined false (fs.map fun f => (fieldText f).tokens) ++
                [.mark '\x7d']))) := by
        simp [commaJoined, fieldText, JsonMemberText.tokens, JsonMemberText.quoted]
      rw [tokens]
      exact .member name type (ih others false _)

/-- The object that is written for fields declares them. -/
lemma denotesFields_object {fs : Fields} (readable : fs.Readable) :
    DenotesFields (JsonValueText.object (fs.entries.map fieldText)).tokens fs := by
  have members := denotesFieldsFrom_fieldText readable true .empty
  have declared : fs.entries.foldl (fun fs f => fs.insert f.1 f.2) .empty = fs :=
    fs.ofList_entries
  rw [declared] at members
  refine ⟨_, ?_, members⟩
  rw [← Function.comp_def JsonMemberText.tokens, ← List.map_map]
  exact jsonTokens_objectText _

namespace Config

/-- The values that are written for a configuration. -/
def written (c : Config) : ConfigMember → JsonValueText
  | .table => .quoted c.table
  | .key => .quoted c.key
  | .fields => .object (c.fields.entries.map fieldText)
  | .dateFormat => .quoted c.dateFormat

/-- What is written for a configuration says what it says. -/
lemma denotes_written {c : Config} (readable : c.fields.Readable) (k : ConfigMember) :
    k.Denotes (c.written k).tokens (c.content k) := by
  cases k with
  | fields => exact denotesFields_object readable
  | _ => exact JsonValueText.denotes_quoted _

/-- The members that are written for a configuration. -/
def members (c : Config) : List JsonMemberText :=
  ConfigMember.inOrder.map fun k => .quoted k.name (c.written k)

lemma valuesIn_members (c : Config) (k : ConfigMember) : k.valuesIn c.members = [c.written k] := by
  cases k <;> rfl

/-- The fields in a document are written as the object of their members. -/
lemma tokens_fields (fs : Fields) :
    (JsonDocument.object (fs.entries.map fun f => (f.1, .text f.2.name))).tokens =
      (JsonValueText.object (fs.entries.map fieldText)).tokens := by
  rw [JsonDocument.tokens, JsonDocument.memberTokens_eq_map, JsonValueText.tokens_object,
    List.map_map, List.map_map]
  simp only [Function.comp_def, fieldText, JsonMemberText.tokens_quoted,
    JsonValueText.tokens_quoted, JsonDocument.tokens]

/-- A configuration is written as the object of its members. -/
lemma tokens_document (c : Config) :
    c.document.tokens = jsonTokens (objectText c.members).toList := by
  rw [jsonTokens_objectText, document, JsonDocument.tokens, JsonDocument.memberTokens_eq_map]
  simp only [members, ConfigMember.inOrder, List.map_cons, List.map_nil,
    JsonMemberText.tokens_quoted, written, JsonValueText.tokens_quoted, ← tokens_fields,
    JsonDocument.tokens, ConfigMember.name]

lemma ofJson_congr {json json' : String}
    (same : jsonTokens json.toList = jsonTokens json'.toList) : ofJson json = ofJson json' := by
  rw [ofJson, ofJson, same]

/-- **The normal form**: a configuration that is read is read back from what is written for
it, in one line, over several lines and as an array. An object in which each member stands
once, in any order and among unknown ones, is read like the array of the same values. -/
theorem ofJson_normal :
    (∀ json c, ofJson json = .ok c →
      ofJson c.document.compact = .ok c ∧ ofJson c.document.pretty = .ok c ∧
        ofJson (arrayText (ConfigMember.inOrder.map c.written)) = .ok c) ∧
    ∀ (v : ConfigMember → JsonValueText) (ms : List JsonMemberText),
      (∀ k : ConfigMember, k.valuesIn ms = [v k]) → ∀ c,
        (ofJson (objectText ms) = .ok c ↔
          ofJson (arrayText (ConfigMember.inOrder.map v)) = .ok c) := by
  refine ⟨fun json c read => ?_, fun v ms once c => ?_⟩
  · have stated := denotes_written (readable_of_ofJson read)
    have object : ofJson (objectText c.members) = .ok c :=
      (ofJson_objectText_iff_of_once c.valuesIn_members).mpr stated
    refine ⟨?_, ?_, ofJson_arrayText_iff.mpr stated⟩
    · rwa [ofJson_congr (c.document.jsonTokens_compact.trans c.tokens_document)]
    · rwa [ofJson_congr (c.document.jsonTokens_pretty.trans c.tokens_document)]
  · exact (ofJson_objectText_iff_of_once once).trans ofJson_arrayText_iff.symm

/-- A table of songs with their names. -/
def songs : Config where
  table := "song"
  fields := .ofList [("name", .string)]

/-- The values of `songs`, with a table whose name is spelled with an escape. -/
def songValues : ConfigMember → JsonValueText
  | .table => ⟨" \"son\\u0067\" ", by
      rw [IsWhole]
      decide +kernel⟩
  | k => songs.written k

/-- They stand in another order, behind a member that is unknown. -/
def songMembers : List JsonMemberText := [
  .quoted "note" (.object []),
  .quoted "date_format" (songValues .dateFormat),
  .quoted "fields" (songValues .fields),
  .quoted "key" (songValues .key),
  .quoted "table" (songValues .table)]

/-- A configuration without a key, with a field that is declared again and a type that is
spelled in lower case, and one with its members in another order. -/
theorem ofJson_normal_songs :
    ofJson ("\x7b\"fields\": \x7b\"name\": \"DATE\", \"name\": \" string\"\x7d, "
        ++ "\"table\": \"song\"\x7d") = .ok songs ∧
      ofJson songs.document.compact = .ok songs ∧
      ofJson songs.document.pretty = .ok songs ∧
      ofJson (arrayText (ConfigMember.inOrder.map songs.written)) = .ok songs ∧
      (∀ k : ConfigMember, k.valuesIn songMembers = [songValues k]) ∧
      ofJson (objectText songMembers) = .ok songs ∧
      ofJson (arrayText (ConfigMember.inOrder.map songValues)) = .ok songs := by
  have read : ofJson ("\x7b\"fields\": \x7b\"name\": \"DATE\", \"name\": \" string\"\x7d, "
      ++ "\"table\": \"song\"\x7d") = .ok songs := by decide +kernel
  have once : ∀ k : ConfigMember, k.valuesIn songMembers = [songValues k] := by
    intro k
    cases k <;> rfl
  have object : ofJson (objectText songMembers) = .ok songs := by decide +kernel
  obtain ⟨line, lines, array⟩ := ofJson_normal.1 _ songs read
  exact ⟨read, line, lines, array, once, object,
    (ofJson_normal.2 songValues songMembers once songs).mp object⟩

end Config

end RowFilter
