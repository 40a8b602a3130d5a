/-
Placeholders renumbered in an SQL text.

* `SqlPiece.chars`, `SqlText.write`: the characters of pieces, and their text.
* `write_pieces`: a text is what its pieces are written as.
* `SqlPiece.renumber`, `SqlText.renumber`: placeholders whose numbers are higher,
  while identifiers and all other characters stay.
* `renumber_textsAfter`: what legible parts are written as behind some values,
  renumbered, is what they are written as behind more values.
-/
import RowFilter.Proofs.Lexing.Layout
import RowFilter.Proofs.Sql.Pieces

namespace RowFilter

/-! ### The text of pieces -/

namespace SqlPiece

/-- The inside of an identifier, with its quotes written twice. -/
def inside (name : List Char) : List Char :=
  name.flatMap fun c => if c = '"' then ['"', '"'] else [c]

/-- The characters of a piece. -/
def chars : SqlPiece String → List Char
  | .char c => [c]
  | .name s => (quoteName s).toList
  | .bound p => p.toList
  | .unclosed s => '"' :: inside s.toList

/-- A placeholder whose number is higher. -/
def renumber (k : Nat) : SqlPiece String → SqlPiece String
  | .bound p => .bound (placeholder (ofDigits (p.toList.drop 1) + k))
  | .char c => .char c
  | .name s => .name s
  | .unclosed s => .unclosed s

end SqlPiece

namespace SqlText

/-- The text of pieces. -/
def write (ps : List (SqlPiece String)) : String := String.ofList (ps.flatMap SqlPiece.chars)

/-- A text whose placeholders have higher numbers. -/
def renumber (k : Nat) (text : String) : String := write ((pieces text).map (.renumber k))

namespace Pending

/-- The characters that are pending. -/
def chars : Pending → List Char
  | .text => []
  | .name read => '"' :: SqlPiece.inside read.reverse
  | .quote read => '"' :: SqlPiece.inside read.reverse ++ ['"']
  | .dollar => ['$']
  | .placeholder read => '$' :: read.reverse

/-- What is complete has the characters that were pending. -/
lemma chars_close (p : Pending) : p.close.flatMap SqlPiece.chars = p.chars := by
  cases p <;> simp [close, chars, SqlPiece.chars, SqlPiece.inside, quoteName]

/-- A character that belongs to what is pending joins it. -/
lemma chars_extend? {p q : Pending} {c : Char} (h : p.extend? c = some q) :
    q.chars = p.chars ++ [c] := by
  cases p with
  | text => cases h
  | name read =>
      obtain rfl := Option.some.inj h
      split
      · next hc => rw [hc, chars, chars]
      · next hc => simp [chars, SqlPiece.inside, hc]
  | quote read =>
      simp only [extend?, Option.ite_none_right_eq_some, Option.some.injEq] at h
      obtain ⟨rfl, rfl⟩ := h
      simp [chars, SqlPiece.inside]
  | dollar | placeholder read =>
      simp only [extend?, Option.ite_none_right_eq_some, Option.some.injEq] at h
      obtain ⟨-, rfl⟩ := h
      simp [chars]

end Pending

/-- No character is lost behind what is pending. -/
lemma chars_scan (p : Pending) (cs : List Char) :
    (scan p cs).flatMap SqlPiece.chars = p.chars ++ cs := by
  induction cs generalizing p with
  | nil => rw [scan, p.chars_close, List.append_nil]
  | cons c cs ih =>
      rw [scan]
      cases next : p.extend? c with
      | some q => rw [ih, p.chars_extend? next, List.append_assoc, List.singleton_append]
      | none =>
          rw [List.flatMap_append, p.chars_close]
          congr 1
          split
          · next hc =>
            rw [ih, hc]
            rfl
          · split
            · next hc =>
              rw [ih, hc]
              rfl
            · exact congrArg (c :: ·) (ih .text)

/-- A text is what its pieces are written as. -/
theorem write_pieces (text : String) : write (pieces text) = text := by
  rw [write, pieces, chars_scan]
  exact String.ofList_toList

end SqlText

/-! ### Higher numbers -/

namespace SqlPiece

lemma renumber_placeholder (k n : Nat) :
    renumber k (.bound (placeholder n)) = .bound (placeholder (n + k)) := by
  rw [renumber, SqlText.toList_placeholder, List.drop_one, List.tail_cons, ofDigits_toDigits]

/-- Placeholders that are numbered behind more values have higher numbers. -/
lemma map_renumber_number (k n : Nat) (ps : List (SqlPiece SqlValue)) :
    (number n ps).map (renumber k) = number (n + k) ps := by
  induction ps generalizing n with
  | nil => rfl
  | cons p ps ih =>
      cases p with
      | bound v =>
          have later : n + 1 + k = n + k + 1 := by omega
          rw [number, number, List.map_cons, renumber_placeholder, ih, later]
      | _ => exact congrArg (_ :: ·) (ih n)

end SqlPiece

/-- What legible parts are written as behind more values is what they are written as
behind fewer of them, with placeholders of higher numbers. -/
theorem SqlText.renumber_textsAfter {ps : List SqlPart} (h : SqlPart.Legible ps) (k n : Nat) :
    renumber k (SqlPart.textsAfter n ps) = SqlPart.textsAfter (n + k) ps := by
  calc renumber k (SqlPart.textsAfter n ps)
      = write ((SqlPiece.number n (SqlPart.glyphs ps)).map (.renumber k)) := by
        rw [renumber, pieces, scan_textsAfter h]
    _ = write (SqlPiece.number (n + k) (SqlPart.glyphs ps)) := by rw [SqlPiece.map_renumber_number]
    _ = write (pieces (SqlPart.textsAfter (n + k) ps)) := by rw [pieces, scan_textsAfter h]
    _ = SqlPart.textsAfter (n + k) ps := write_pieces _

end RowFilter
