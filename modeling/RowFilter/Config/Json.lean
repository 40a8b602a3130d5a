/-
Reading a configuration from a JSON text.

* `ConfigFault`: the text is no JSON document, or the document is no
  configuration. The first fault from the left counts.
* `Config.ofJson`: reads an object with the members `table`, `key`, `fields`
  and `date_format`, or an array of the same in this order. The key and the
  date pattern may be left out; other members of an object are passed over.
* `readFields`: reads the object of the fields; of several members of one
  name the last one counts.

Assumed of `serde` 1 and `serde_json` 1, for a record that derives its reader: it is read
from an object or from an array of its members in order; a member that is not known is
passed over, one that is there twice is refused, and one that is missing takes its default
if it has one; a map takes the last of several values for one key. The texts of faults in
the data are theirs; of the faults of a text that is no JSON document, only the kind is
kept.
-/
import RowFilter.Config
import RowFilter.Json.Token

namespace RowFilter

/-! ### Faults -/

/-- A member of a configuration. -/
inductive ConfigMember where
  | table
  | key
  | fields
  | dateFormat
deriving DecidableEq, Repr

namespace ConfigMember

/-- The name of a member. -/
def name : ConfigMember → String
  | .table => "table"
  | .key => "key"
  | .fields => "fields"
  | .dateFormat => "date_format"

/-- The member of a name. -/
def ofName? (s : String) : Option ConfigMember :=
  [table, key, fields, dateFormat].find? (·.name = s)

end ConfigMember

/-- What stands where something else was wanted. -/
inductive FoundValue where
  | null
  | bool (b : Bool)
  | numeral (v : NumeralValue)
  | text (s : String)
  | array
  | object
deriving DecidableEq, Repr

/-- The value in words. -/
def FoundValue.describe : FoundValue → String
  | .null => "null"
  | .bool b => s!"boolean `{b}`"
  | .numeral (.integer n) => s!"integer `{n}`"
  | .numeral (.float negative x) =>
    "floating point `" ++ (if negative then "-" else "") ++ x.text ++ "`"
  | .text s => "string " ++ quoted s
  | .array => "sequence"
  | .object => "map"

/-- What is wanted. -/
inductive WantedValue where
  | text
  | fields
  | config
deriving DecidableEq, Repr

/-- What is wanted, in words. -/
def WantedValue.describe : WantedValue → String
  | .text => "a string"
  | .fields => "a map"
  | .config => "struct SchemaConfig"

/-- Why a JSON document is no configuration. -/
inductive ConfigDataFault where
  /-- A value has the wrong kind. -/
  | wrongKind (found : FoundValue) (wanted : WantedValue)
  /-- A member is missing. -/
  | missing (m : ConfigMember)
  /-- A member is there twice. -/
  | duplicate (m : ConfigMember)
  /-- An array has too few items. -/
  | tooShort (length : Nat)
  /-- A type is unknown. -/
  | unknownType (u : ValueType.Unknown)
deriving DecidableEq, Repr

/-- The fault in words. -/
def ConfigDataFault.message : ConfigDataFault → String
  | .wrongKind found wanted =>
    s!"invalid type: {found.describe}, expected {wanted.describe}"
  | .missing m => s!"missing field `{m.name}`"
  | .duplicate m => s!"duplicate field `{m.name}`"
  | .tooShort n =>
    s!"invalid length {n}, expected {WantedValue.config.describe} with 4 elements"
  | .unknownType u => u.message

/-- Why a text is no configuration. -/
inductive ConfigFault where
  | json (fault : JsonFault)
  | data (fault : ConfigDataFault)
deriving DecidableEq, Repr

/-! ### Values -/

/-- What was read from the front of tokens, and the tokens behind it. -/
structure Taken (ts : List JsonToken) (α : Type) where
  value : α
  rest : List JsonToken
  shorter : rest.length < ts.length

/-- The text that units stand for. -/
def textOfUnits (units : List TextUnit) : Except ConfigFault String :=
  ((decodeUnits .malformed units).map String.ofList).mapError .json

/-- The fault of a token that is not what was wanted. -/
def misplaced (wanted : WantedValue) (t : JsonToken) : ConfigFault :=
  let wrong (found : FoundValue) : ConfigFault := .data (.wrongKind found wanted)
  match t with
  | .null => wrong .null
  | .bool b => wrong (.bool b)
  | .numeral a =>
    match a.value? with
    | some v => wrong (.numeral v)
    | none => .json .malformed
  | .text units =>
    match textOfUnits units with
    | .ok s => wrong (.text s)
    | .error f => f
  | .mark '[' => wrong .array
  | .mark '\x7b' => wrong .object
  | .mark _ => .json .malformed
  | .brokenText f _ => .json f
  | .broken f _ => .json f

/-- Reads a text. -/
def readString : (ts : List JsonToken) → Except ConfigFault (Taken ts String)
  | [] => .error (.json .cutOff)
  | .text units :: rest =>
    (textOfUnits units).map (⟨·, rest, Nat.lt_succ_self _⟩)
  | t :: _ => .error (misplaced .text t)

/-- Reads the name of a type. -/
def readType (ts : List JsonToken) : Except ConfigFault (Taken ts ValueType) := do
  let ⟨s, rest, h⟩ ← readString ts
  match ValueType.ofName s with
  | .ok t => pure ⟨t, rest, h⟩
  | .error u => throw (.data (.unknownType u))

/-! ### Members -/

/-- Reads the name of a member. -/
def readName : (ts : List JsonToken) → Except ConfigFault (Taken ts String)
  | [] => .error (.json .cutOff)
  | .text units :: rest =>
    (textOfUnits units).map (⟨·, rest, Nat.lt_succ_self _⟩)
  | .brokenText f _ :: _ => .error (.json f)
  | _ :: _ => .error (.json .malformed)

/-- Reads the name of the next member, or the end of the object. A comma has
to stand before each name but the first. -/
def nextName (first : Bool) (ts : List JsonToken) :
    Except ConfigFault (Taken ts (Option String)) :=
  match ts with
  | [] => .error (.json .cutOff)
  | t :: rest =>
    if t = .mark '\x7d' then .ok ⟨none, rest, Nat.lt_succ_self _⟩
    else if first then
      (readName (t :: rest)).map fun ⟨s, rest, h⟩ => ⟨some s, rest, h⟩
    else if t = .mark ',' then
      (readName rest).map fun ⟨s, rest, h⟩ =>
        ⟨some s, rest, Nat.lt_succ_of_lt h⟩
    else .error (.json .malformed)

/-- Reads the colon behind a name. -/
def readColon : (ts : List JsonToken) → Except ConfigFault (Taken ts Unit)
  | [] => .error (.json .cutOff)
  | .mark ':' :: rest => .ok ⟨(), rest, Nat.lt_succ_self _⟩
  | _ :: _ => .error (.json .malformed)

/-- Passes over a value. -/
def passValue (ts : List JsonToken) : Except ConfigFault (Taken ts Unit) :=
  match h : skipValue ts with
  | .ok rest => .ok ⟨(), rest, length_skipValue h⟩
  | .error f => .error (.json f)

/-! ### Fields -/

/-- Reads the members of the object of the fields. -/
def readFieldMembers (first : Bool) (fs : Fields) (ts : List JsonToken) :
    Except ConfigFault (Taken ts Fields) := do
  let ⟨name?, ts₁, h₁⟩ ← nextName first ts
  match name? with
  | none => pure ⟨fs, ts₁, h₁⟩
  | some name =>
    let ⟨_, ts₂, h₂⟩ ← readColon ts₁
    let ⟨type, ts₃, h₃⟩ ← readType ts₂
    let ⟨fs', ts₄, h₄⟩ ← readFieldMembers false (fs.insert name type) ts₃
    pure ⟨fs', ts₄, by omega⟩
termination_by ts.length

/-- Reads the object of the fields. -/
def readFields : (ts : List JsonToken) → Except ConfigFault (Taken ts Fields)
  | [] => .error (.json .cutOff)
  | t :: ts =>
    if t = .mark '\x7b' then
      (readFieldMembers true .empty ts).map fun ⟨fs, rest, h⟩ =>
        ⟨fs, rest, Nat.lt_succ_of_lt h⟩
    else .error (misplaced .fields t)

/-! ### Objects -/

/-- The members that were read so far. -/
structure ConfigDraft where
  table : Option String := none
  key : Option String := none
  fields : Option Fields := none
  dateFormat : Option String := none

namespace ConfigDraft

/-- Whether a member was read. -/
def has (d : ConfigDraft) : ConfigMember → Bool
  | .table => d.table.isSome
  | .key => d.key.isSome
  | .fields => d.fields.isSome
  | .dateFormat => d.dateFormat.isSome

/-- The configuration of a table and its fields, with what else was read. -/
def withRequired (d : ConfigDraft) (table : String) (fields : Fields) : Config :=
  let c : Config := { table, fields }
  { c with
    key := d.key.getD c.key
    dateFormat := d.dateFormat.getD c.dateFormat }

/-- The configuration of all members. -/
def complete (d : ConfigDraft) : Except ConfigFault Config :=
  match d.table, d.fields with
  | none, _ => .error (.data (.missing .table))
  | some _, none => .error (.data (.missing .fields))
  | some table, some fields => .ok (d.withRequired table fields)

/-- Reads the value of a member. -/
def readValue (d : ConfigDraft) (m : ConfigMember) (ts : List JsonToken) :
    Except ConfigFault (Taken ts ConfigDraft) :=
  match m with
  | .table => (readString ts).map fun ⟨s, rest, h⟩ =>
    ⟨{ d with table := some s }, rest, h⟩
  | .key => (readString ts).map fun ⟨s, rest, h⟩ =>
    ⟨{ d with key := some s }, rest, h⟩
  | .fields => (readFields ts).map fun ⟨fs, rest, h⟩ =>
    ⟨{ d with fields := some fs }, rest, h⟩
  | .dateFormat => (readString ts).map fun ⟨s, rest, h⟩ =>
    ⟨{ d with dateFormat := some s }, rest, h⟩

/-- Reads what follows the name of a member: a colon and a value. A member
that is there twice is refused before its colon, and the value of an unknown
member is passed over. -/
def readMember (d : ConfigDraft) (name : String) (ts : List JsonToken) :
    Except ConfigFault (Taken ts ConfigDraft) := do
  match ConfigMember.ofName? name with
  | some m =>
    if d.has m then throw (.data (.duplicate m))
    let ⟨_, ts₁, h₁⟩ ← readColon ts
    let ⟨d', ts₂, h₂⟩ ← d.readValue m ts₁
    pure ⟨d', ts₂, by omega⟩
  | none =>
    let ⟨_, ts₁, h₁⟩ ← readColon ts
    let ⟨_, ts₂, h₂⟩ ← passValue ts₁
    pure ⟨d, ts₂, by omega⟩

/-- Reads the members of an object. -/
def readMembers (first : Bool) (d : ConfigDraft) (ts : List JsonToken) :
    Except ConfigFault (Taken ts ConfigDraft) := do
  let ⟨name?, ts₁, h₁⟩ ← nextName first ts
  match name? with
  | none => pure ⟨d, ts₁, h₁⟩
  | some name =>
    let ⟨d₂, ts₂, h₂⟩ ← d.readMember name ts₁
    let ⟨d₃, ts₃, h₃⟩ ← d₂.readMembers false ts₂
    pure ⟨d₃, ts₃, by omega⟩
termination_by ts.length

end ConfigDraft

/-- Reads an object behind its opening brace. -/
def readConfigObject (ts : List JsonToken) :
    Except ConfigFault (Config × List JsonToken) := do
  let ⟨d, rest, _⟩ ← ConfigDraft.readMembers true {} ts
  return (← d.complete, rest)

/-! ### Arrays -/

/-- Reads the next item of an array, if the array does not end. A comma has
to stand before each item but the first. -/
def readItem {α : Type} (first : Bool)
    (read : (ts : List JsonToken) → Except ConfigFault (Taken ts α)) :
    List JsonToken → Except ConfigFault (Option α × List JsonToken)
  | [] => .error (.json .cutOff)
  | t :: rest =>
    if t = .mark ']' then .ok (none, t :: rest)
    else if first then
      (read (t :: rest)).map fun ⟨a, rest, _⟩ => (some a, rest)
    else if t ≠ .mark ',' then .error (.json .malformed)
    else if rest.head? = some (.mark ']') then .error (.json .malformed)
    else (read rest).map fun ⟨a, rest, _⟩ => (some a, rest)

/-- Reads the end of an array. -/
def readArrayEnd : List JsonToken → Except ConfigFault (List JsonToken)
  | [] => .error (.json .cutOff)
  | t :: rest =>
    if t = .mark ']' then .ok rest else .error (.json .malformed)

/-- Reads an array behind its opening bracket. -/
def readConfigArray (ts : List JsonToken) :
    Except ConfigFault (Config × List JsonToken) := do
  let (table, ts) ← readItem true readString ts
  let some table := table | throw (.data (.tooShort 0))
  let (key, ts) ← readItem false readString ts
  let (fields, ts) ← readItem false readFields ts
  let some fields := fields | throw (.data (.tooShort 2))
  let (dateFormat, ts) ← readItem false readString ts
  let rest ← readArrayEnd ts
  let d : ConfigDraft := { key, dateFormat }
  return (d.withRequired table fields, rest)

/-! ### Documents -/

/-- Reads a configuration from the front of tokens. -/
def readConfig : List JsonToken →
    Except ConfigFault (Config × List JsonToken)
  | [] => .error (.json .cutOff)
  | t :: rest =>
    if t = .mark '\x7b' then readConfigObject rest
    else if t = .mark '[' then readConfigArray rest
    else .error (misplaced .config t)

/-- Reads a configuration from a JSON text. Nothing may follow it. -/
def Config.ofJson (s : String) : Except ConfigFault Config := do
  let (c, rest) ← readConfig (jsonTokens s.toList)
  if rest.isEmpty then return c else throw (.json .malformed)

end RowFilter
