/-
JSON documents and how they are written.

* `JsonDocument`: the documents that are written: numbers, texts, arrays and
  objects.
* `JsonDocument.compact`: in one line without blanks.
* `JsonDocument.pretty`: one item or member a line, indented by two blanks a
  level.

Assumed of `serde_json` 1: `to_string` writes no blanks, `to_string_pretty` breaks lines
and indents by two blanks, with nothing between the brackets of what is empty; both keep
the order of the members, and escape the quote, the backslash and what lies below U+0020
only.
-/
import RowFilter.Json.Text

namespace RowFilter

/-- A JSON document. The members of an object have an order. -/
inductive JsonDocument where
  | number (n : Int)
  | text (s : String)
  | array (items : List JsonDocument)
  | object (members : List (String × JsonDocument))

namespace JsonDocument

mutual

/-- A document in one line without blanks. -/
def compact : JsonDocument → String
  | .number n => toString n
  | .text s => jsonQuoted s
  | .array items => "[" ++ ",".intercalate (compactItems items) ++ "]"
  | .object members =>
    "\x7b" ++ ",".intercalate (compactMembers members) ++ "\x7d"

/-- The items of an array. -/
def compactItems : List JsonDocument → List String
  | [] => []
  | d :: ds => d.compact :: compactItems ds

/-- The members of an object. -/
def compactMembers : List (String × JsonDocument) → List String
  | [] => []
  | (name, d) :: ms =>
    (jsonQuoted name ++ ":" ++ d.compact) :: compactMembers ms

end

/-- A line break, and the indentation of a level. -/
def newLine (level : Nat) : String :=
  "\n" ++ String.ofList (List.replicate (2 * level) ' ')

/-- Lines between brackets; nothing between them if there are none. -/
def bracketed (level : Nat) (left right : String) (lines : List String) :
    String :=
  if lines.isEmpty then left ++ right
  else
    left ++ newLine (level + 1)
      ++ ("," ++ newLine (level + 1)).intercalate lines
      ++ newLine level ++ right

mutual

/-- A document at a level of indentation. -/
def prettyAt (level : Nat) : JsonDocument → String
  | .number n => toString n
  | .text s => jsonQuoted s
  | .array items => bracketed level "[" "]" (prettyItems (level + 1) items)
  | .object members =>
    bracketed level "\x7b" "\x7d" (prettyMembers (level + 1) members)

/-- The items of an array at a level. -/
def prettyItems (level : Nat) : List JsonDocument → List String
  | [] => []
  | d :: ds => d.prettyAt level :: prettyItems level ds

/-- The members of an object at a level. -/
def prettyMembers (level : Nat) : List (String × JsonDocument) → List String
  | [] => []
  | (name, d) :: ms =>
    (jsonQuoted name ++ ": " ++ d.prettyAt level) :: prettyMembers level ms

end

/-- A document with one item or member a line. -/
def pretty (d : JsonDocument) : String := d.prettyAt 0

end JsonDocument

end RowFilter
