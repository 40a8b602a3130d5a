/-
Text files, and what paths lead to.

* `FileFault`: why a file cannot be read.
* `FileTree`: text files in folders.
* `Place`: where a path has led to, with the folders above.
* `Place.read`: the text that a path leads to. A path is followed name after
  name; an empty name stays in the folder, as a point does.
-/
import RowFilter.Text.Basic

namespace RowFilter

/-! ### Faults -/

/-- Why a file cannot be read. -/
inductive FileFault where
  /-- There is nothing at the path. -/
  | notFound
  /-- The path goes on behind a file. -/
  | notDirectory
  /-- The path leads to a folder. -/
  | isDirectory
  /-- The path or a name in it is too long. -/
  | nameTooLong
  /-- The file may not be read. -/
  | denied
  /-- The file holds no text. -/
  | notText
  /-- Another reason, in words. -/
  | other (reason : String)
deriving DecidableEq, Repr

/-- The fault in words. -/
def FileFault.message : FileFault → String
  | .notFound => "No such file or directory (os error 2)"
  | .notDirectory => "Not a directory (os error 20)"
  | .isDirectory => "Is a directory (os error 21)"
  | .nameTooLong => "File name too long (os error 36)"
  | .denied => "Permission denied (os error 13)"
  | .notText => "stream did not contain valid UTF-8"
  | .other reason => reason

/-- Reads the file at a path. -/
abbrev FileReader := String → Except FileFault String

/-! ### Files in folders -/

/-- A text file or a folder. -/
inductive FileTree where
  | file (text : String)
  | folder (entries : List (String × FileTree))

/-- What a folder holds. -/
abbrev Folder := List (String × FileTree)

/-- Where a path has led to. -/
inductive Place where
  | file (text : String)
  /-- A folder, and the folders above, the nearest first. -/
  | folder (here : Folder) (above : List Folder)

namespace Place

/-- The largest number of bytes of a name. -/
def longestName : Nat := 255

/-- The largest number of bytes of a path. -/
def longestPath : Nat := 4095

/-- The place that an entry is, seen from its folder. -/
def enter (here : Folder) (above : List Folder) : FileTree → Place
  | .file text => .file text
  | .folder entries => .folder entries (here :: above)

/-- The folder that contains a folder; the topmost one contains itself. -/
def parent (here : Folder) : List Folder → Place
  | [] => .folder here []
  | f :: above => .folder f above

/-- Follows one name. -/
def step (p : Place) (name : List Char) : Except FileFault Place :=
  match p with
  | .file _ => .error .notDirectory
  | .folder here above =>
    if name = [] ∨ name = ['.'] then .ok p
    else if name = ['.', '.'] then .ok (parent here above)
    else if longestName < byteLength name then .error .nameTooLong
    else
      match here.lookup (String.ofList name) with
      | some entry => .ok (enter here above entry)
      | none => .error .notFound

/-- Follows names, one after the other. -/
def follow (p : Place) : List (List Char) → Except FileFault Place
  | [] => .ok p
  | name :: names => (p.step name).bind (·.follow names)

/-- The topmost folder. -/
def top : Place → Place
  | .file text => .file text
  | .folder here above => .folder ((here :: above).getLastD here) []

/-- The text of a file. -/
def text : Place → Except FileFault String
  | .file text => .ok text
  | .folder _ _ => .error .isDirectory

/-- The text that a path leads to. A path that starts with a slash starts at
the topmost folder. -/
def read (p : Place) : FileReader := fun path =>
  let names := cutAt '/' path.toList
  let start := if path.toList.head? = some '/' then p.top else p
  if path.isEmpty then .error .notFound
  else if longestPath < byteLength path.toList then .error .nameTooLong
  else (start.follow names).bind text

end Place

end RowFilter
