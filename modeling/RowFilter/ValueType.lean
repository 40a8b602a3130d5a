/-
The types of fields and expressions.

* `ValueType`: numbers, texts, dates, truth values, and arrays of any type.
* `ValueType.name`: the canonical name of a type.
* `ValueType.ofName`: reads a name. Case and outer blanks do not matter, and
  arrays of arrays are refused.
* `ValueType.isDeclarable`: the types that a field may have.
* `ofName_array`: how the name of an array is read, in terms of the name of
  its items.
-/
import RowFilter.Text.Blank
import RowFilter.Text.Quoted

namespace RowFilter

/-- The type of a field or an expression. -/
inductive ValueType where
  | number
  | string
  | date
  | bool
  | array (item : ValueType)
deriving DecidableEq, Repr

namespace ValueType

/-- The canonical name. -/
def name : ValueType → String
  | .number => "NUMBER"
  | .string => "STRING"
  | .date => "DATE"
  | .bool => "BOOL"
  | .array item => "ARRAY(" ++ item.name ++ ")"

/-- Whether the type is an array. -/
def isArray : ValueType → Bool
  | .array _ => true
  | _ => false

/-- The type of the items of an array. -/
def item? : ValueType → Option ValueType
  | .array item => some item
  | _ => none

/-- A field holds a number, a text, a date, or an array of one of these. -/
def isDeclarable : ValueType → Bool
  | .number | .string | .date => true
  | .bool => false
  | .array item => !item.isArray && item ≠ .bool

/-! ### Reading names -/

/-- A text that names no type. -/
structure Unknown where
  text : String
deriving DecidableEq, Repr

/-- The refusal in words. -/
def Unknown.message (e : Unknown) : String :=
  "unknown value type " ++ quoted e.text

/-- The type that a name in upper case stands for, arrays apart. -/
def scalarNamed? (s : List Char) : Option ValueType :=
  if s = ['N', 'U', 'M', 'B', 'E', 'R'] then some .number
  else if s = ['S', 'T', 'R', 'I', 'N', 'G'] then some .string
  else if s = ['D', 'A', 'T', 'E'] then some .date
  else if s = ['B', 'O', 'O', 'L'] then some .bool
  else none

/-- What stands between `ARRAY(`, in any case, and a final `)`. -/
def arrayBody? (s : List Char) : Option (List Char) :=
  if (s.take 6).map Char.toUpper = ['A', 'R', 'R', 'A', 'Y', '('] then
    if (s.drop 6).getLast? = some ')' then some (s.drop 6).dropLast else none
  else none

/-- The body of an array name is shorter than the name. -/
theorem length_arrayBody? {s body : List Char} (h : arrayBody? s = some body) :
    body.length < s.length := by
  unfold arrayBody? at h
  split at h
  · next hhead =>
    split at h
    · obtain rfl := Option.some.inj h
      have hlen := congrArg List.length hhead
      simp only [List.length_map, List.length_take, List.length_cons,
        List.length_nil] at hlen
      simp only [List.length_dropLast, List.length_drop]
      omega
    · cases h
  · cases h

/-- Cutting leading blanks does not make a text longer. -/
theorem length_skipBlanks_le (s : List Char) :
    (skipBlanks s).length ≤ s.length := by
  simpa [skipBlanks] using (List.dropWhile_suffix isBlank (l := s)).length_le

/-- Trimming does not make a text longer. -/
theorem length_trimBlanks_le (s : List Char) :
    (trimBlanks s).length ≤ s.length := by
  have outer := length_skipBlanks_le (skipBlanks s).reverse
  have inner := length_skipBlanks_le s
  simp only [trimBlanks, List.length_reverse] at outer ⊢
  omega

/-- Reads the name of a type. A refusal shows the innermost text that is no
name, or the text of an array whose items would be arrays. -/
def ofChars (s : List Char) : Except Unknown ValueType :=
  match scalarNamed? ((trimBlanks s).map Char.toUpper) with
  | some t => .ok t
  | none =>
    match _h : arrayBody? (trimBlanks s) with
    | none => .error ⟨String.ofList s⟩
    | some body =>
      match ofChars body with
      | .error e => .error e
      | .ok item =>
        if item.isArray then .error ⟨String.ofList s⟩ else .ok (.array item)
termination_by s.length
decreasing_by
  have body_lt := length_arrayBody? _h
  have trim_le := length_trimBlanks_le s
  omega

/-- Reads the name of a type. -/
def ofName (s : String) : Except Unknown ValueType := ofChars s.toList

/-- The name of an array is read by reading the name of its items. -/
theorem ofName_array {s body : List Char}
    (hs : scalarNamed? ((trimBlanks s).map Char.toUpper) = none)
    (hb : arrayBody? (trimBlanks s) = some body) {item : ValueType}
    (hi : ofChars body = .ok item) (hn : item.isArray = false) :
    ofChars s = .ok (.array item) := by
  rw [ofChars]
  split
  · next h => rw [hs] at h; cases h
  · split
    · next h => rw [hb] at h; cases h
    · next h =>
      rw [hb] at h
      obtain rfl := Option.some.inj h
      simp [hi, hn]

end ValueType

end RowFilter
