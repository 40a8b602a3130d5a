/-
Keyword tables: a prefix tree in which a node says which keyword ends there.

* `Keywords.ofList`: the table of a list of words. The word at position `i` is
  stored with the number `i + 1`, so that zero, which is the default value, is
  left for the nodes that are only on the way to some keyword.
* `Keywords.indexAt?`: the position of the keyword that ends at a node.
-/
import RowFilter.Trie

namespace RowFilter

/-- A keyword table. A node holds the position of the keyword that ends
there, plus one, and zero if its path is only a beginning of keywords. -/
abbrev Keywords := Trie Char Nat

namespace Keywords

/-- Enters words from position `i` on. Of two equal words the later one
stays. -/
def insertFrom (table : Keywords) (i : Nat) : List String → Keywords
  | [] => table
  | w :: ws => insertFrom (table.insert w.toList (i + 1)) (i + 1) ws

/-- The table of a list of words; a word's index is its position. -/
def ofList (words : List String) : Keywords :=
  insertFrom Trie.empty 0 words

/-- The position of the keyword that ends at a node. -/
def indexAt? (node : Keywords) : Option Nat :=
  match node.value with
  | 0 => none
  | n + 1 => some n

end Keywords

end RowFilter
