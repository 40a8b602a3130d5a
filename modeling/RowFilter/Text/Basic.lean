/-
Texts as lists of characters.

* `byteLength`: the number of bytes of the UTF-8 form of a text.
* `cutAt`: the pieces of a text between the occurrences of a character.
-/

namespace RowFilter

/-- The number of bytes of the UTF-8 form of a text. -/
def byteLength : List Char → Nat
  | [] => 0
  | c :: cs => c.utf8Size + byteLength cs

/-- The pieces of a text between the occurrences of a character. -/
def cutAt (sep : Char) : List Char → List (List Char)
  | [] => [[]]
  | c :: cs =>
    match cutAt sep cs with
    | [] => [[c]]
    | first :: rest =>
      if c = sep then [] :: first :: rest else (c :: first) :: rest

end RowFilter
