/-
Parentheses and joining words in an SQL text.

* `SqlOutline`: the characters of a text outside of identifiers and
  placeholders, with a gap where one of these stands.
* `SqlOutline.depth`, `SqlOutline.Balanced`: the parentheses that are left
  open, and outlines that close what they open, all of it and nothing else.
* `SqlOutline.wordsFrom`: the words, each with the number of parentheses that
  are open at it.
* `SqlOutline.junctionsAt`: the words `AND` and `OR` at a number of open
  parentheses.
* `SqlOutline.Sheltered`: balanced outlines with no such word outside of
  parentheses. They can be put side by side (`Sheltered.append`), and what is
  balanced becomes one in parentheses (`Balanced.enclosed`).
* `SqlText.junctions`: the words `AND` and `OR` of a text outside of
  identifiers and parentheses.
* `SqlPart.outline_textsAfter`: the outline of the text of legible parts.
-/
import Mathlib.Algebra.BigOperators.Group.List.Basic
import Mathlib.Algebra.Order.Ring.Int
import RowFilter.Expr
import RowFilter.Proofs.Sql.Pieces

namespace RowFilter

/-! ### Outlines -/

/-- The characters of an SQL text outside of identifiers and placeholders.
Where an identifier or a placeholder stands, there is a gap. -/
abbrev SqlOutline := List (Option Char)

/-- The character that a piece is, if it is one. -/
def SqlPiece.char? {α : Type} : SqlPiece α → Option Char
  | .char c => some c
  | _ => none

/-- The outline of a text. -/
def SqlText.outline (text : String) : SqlOutline :=
  (pieces text).map SqlPiece.char?

/-- Whether every identifier of a text has its closing quote. -/
def SqlText.Closed (text : String) : Prop :=
  ∀ s, SqlPiece.unclosed s ∉ pieces text

/-- The junction that a word stands for, whatever its case. -/
def Junction.ofWord? (word : List Char) : Option Junction :=
  if word.map Char.toUpper = ['A', 'N', 'D'] then some .and
  else if word.map Char.toUpper = ['O', 'R'] then some .or
  else none

namespace SqlOutline

variable {cs ds : SqlOutline}

/-! ### Parentheses -/

/-- The number of parentheses that a character opens. -/
def opens (c : Option Char) : Int :=
  if c = some '(' then 1 else if c = some ')' then -1 else 0

/-- The number of parentheses that are opened and not closed. -/
def depth (cs : SqlOutline) : Int := (cs.map opens).sum

/-- All parentheses that are opened are closed, and no others. -/
structure Balanced (cs : SqlOutline) : Prop where
  closes_opened : ∀ before, before <+: cs → 0 ≤ depth before
  closes_all : depth cs = 0

@[simp] lemma depth_nil : depth [] = 0 := rfl

@[simp] lemma depth_cons (c : Option Char) (cs : SqlOutline) :
    depth (c :: cs) = opens c + depth cs := by
  simp [depth]

@[simp] lemma depth_append (cs ds : SqlOutline) :
    depth (cs ++ ds) = depth cs + depth ds := by
  simp [depth]

namespace Balanced

/-- Without parentheses there is nothing to close. -/
lemma of_plain (h : ∀ c ∈ cs, opens c = 0) : Balanced cs := by
  have plain : ∀ ds : SqlOutline, (∀ c ∈ ds, opens c = 0) → depth ds = 0 := by
    intro ds hds
    exact List.sum_eq_zero (by simpa using hds)
  refine ⟨fun before hb => ?_, plain cs h⟩
  exact (plain before fun c hc => h c (hb.subset hc)).ge

/-- Balanced outlines stay balanced side by side. -/
lemma append (hc : Balanced cs) (hd : Balanced ds) : Balanced (cs ++ ds) := by
  refine ⟨?_, by rw [depth_append, hc.closes_all, hd.closes_all, zero_add]⟩
  rintro before ⟨after, split⟩
  rcases List.append_eq_append_iff.mp split with ⟨rest, rfl, -⟩ | ⟨rest, rfl, tail⟩
  · exact hc.closes_opened before (List.prefix_append ..)
  · rw [depth_append, hc.closes_all, zero_add]
    exact hd.closes_opened rest ⟨after, tail.symm⟩

/-- Balanced outlines stay balanced in parentheses. -/
lemma enclose (h : Balanced cs) : Balanced (some '(' :: (cs ++ [some ')'])) := by
  have opening : opens (some '(') = 1 := rfl
  have closing : opens (some ')') = -1 := rfl
  refine ⟨?_, by simp [h.closes_all, opening, closing]⟩
  intro before hb
  rcases List.prefix_cons_iff.mp hb with rfl | ⟨inner, rfl, hinner⟩
  · simp
  · rcases List.prefix_concat_iff.mp hinner with rfl | hinner
    · simp [h.closes_all, opening, closing]
    · have := h.closes_opened inner hinner
      rw [depth_cons, opening]
      omega

end Balanced

/-! ### Words -/

/-- A character that words consist of. -/
def isWordChar (c : Char) : Bool := c.isAlphanum || c = '_'

/-- What stands between words. -/
def isGap (c : Option Char) : Bool := !c.any isWordChar

/-- The word that is complete when nothing more belongs to it. The characters
that were read are kept latest first. -/
def endWord (depth : Int) (read : List Char) : List (Int × List Char) :=
  if read.isEmpty then [] else [(depth, read.reverse)]

/-- The words of an outline, each with the number of parentheses that are open
at it. Before the outline there are `depth` open ones, and `read` is the
beginning of a word. -/
def wordsFrom (depth : Int) (read : List Char) :
    SqlOutline → List (Int × List Char)
  | [] => endWord depth read
  | c :: cs =>
    match c.filter isWordChar with
    | some d => wordsFrom depth (d :: read) cs
    | none => endWord depth read ++ wordsFrom (depth + opens c) [] cs

/-- The joining words where `depth` parentheses are open. -/
def junctionsAt (depth : Int) (cs : SqlOutline) : List Junction :=
  (wordsFrom 0 [] cs).filterMap fun w =>
    if w.1 = depth then Junction.ofWord? w.2 else none

/-- What stands between words ends the word before it. -/
lemma wordsFrom_gap {c : Option Char} (h : isGap c = true) (d : Int)
    (read : List Char) (cs : SqlOutline) :
    wordsFrom d read (c :: cs) = endWord d read ++ wordsFrom (d + opens c) [] cs := by
  cases c with
  | none => rfl
  | some c => simp_all [wordsFrom, isGap, Option.filter]

/-- A word is continued. -/
lemma wordsFrom_wordChar {c : Char} (h : isWordChar c = true) (d : Int)
    (read : List Char) (cs : SqlOutline) :
    wordsFrom d read (some c :: cs) = wordsFrom d (c :: read) cs := by
  simp [wordsFrom, Option.filter, h]

/-- Words consist of no parentheses. -/
lemma opens_wordChar {c : Char} (h : isWordChar c = true) : opens (some c) = 0 := by
  have ho : c ≠ '(' := by rintro rfl; exact absurd h (by decide)
  have hc : c ≠ ')' := by rintro rfl; exact absurd h (by decide)
  simp [opens, ho, hc]

/-- The words of two outlines are those of one after those of the other, when
the second one begins with no word. -/
lemma wordsFrom_append_of_head (h : ∀ c ∈ ds.head?, isGap c = true) (d : Int)
    (read : List Char) (cs : SqlOutline) :
    wordsFrom d read (cs ++ ds) =
      wordsFrom d read cs ++ wordsFrom (d + depth cs) [] ds := by
  induction cs generalizing d read with
  | nil =>
      cases ds with
      | nil => simp [wordsFrom, endWord]
      | cons c ds =>
          have gap := h c rfl
          rw [List.nil_append, wordsFrom_gap gap, wordsFrom_gap gap]
          simp [wordsFrom, endWord]
  | cons c cs ih =>
      by_cases gap : isGap c = true
      · rw [List.cons_append, wordsFrom_gap gap, wordsFrom_gap gap, ih,
          depth_cons, List.append_assoc, Int.add_assoc]
      · obtain ⟨c, rfl, word⟩ : ∃ c', c = some c' ∧ isWordChar c' = true := by
          simpa [isGap, Option.any_eq_true] using gap
        rw [List.cons_append, wordsFrom_wordChar word, wordsFrom_wordChar word,
          ih, depth_cons, opens_wordChar word, Int.zero_add]

/-- Outlines that no word runs through when they stand side by side. -/
def Apart (cs ds : SqlOutline) : Prop :=
  (∀ c ∈ cs.getLast?, isGap c = true) ∨ ∀ c ∈ ds.head?, isGap c = true

/-- What begins with no word stands apart from all that is before it. -/
lemma apart_cons {c : Option Char} (h : isGap c = true) (cs ds : SqlOutline) :
    Apart cs (c :: ds) := by
  refine .inr fun d hd => ?_
  obtain rfl := Option.some.inj hd
  exact h

/-- The words of two outlines that stand apart are those of one after those of
the other. -/
lemma wordsFrom_append (h : Apart cs ds) (d : Int) :
    wordsFrom d [] (cs ++ ds) = wordsFrom d [] cs ++ wordsFrom (d + depth cs) [] ds := by
  rcases h with last | first
  · rcases List.eq_nil_or_concat' cs with rfl | ⟨cs, c, rfl⟩
    · simp [wordsFrom, endWord]
    · have gap : isGap c = true := last c (by simp)
      have head : ∀ (es : SqlOutline), ∀ b ∈ (c :: es).head?, isGap b = true := by
        intro es b hb
        obtain rfl := Option.some.inj hb
        exact gap
      rw [List.append_assoc, List.singleton_append,
        wordsFrom_append_of_head (head ds), wordsFrom_append_of_head (head []),
        wordsFrom_gap gap, wordsFrom_gap gap, List.append_assoc]
      simp [endWord, wordsFrom, Int.add_assoc]
  · exact wordsFrom_append_of_head first d [] cs

/-- Joining words of two outlines that stand apart, the first of which closes
what it opens. -/
lemma junctionsAt_append (h : Apart cs ds) (closed : depth cs = 0) (d : Int) :
    junctionsAt d (cs ++ ds) = junctionsAt d cs ++ junctionsAt d ds := by
  rw [junctionsAt, wordsFrom_append h, closed, List.filterMap_append]
  rfl

/-- A word is as deep as the place where it ends. -/
lemma mem_endWord {d : Int} {read : List Char} {w : Int × List Char}
    (h : w ∈ endWord d read) : w.1 = d := by
  rw [endWord] at h
  split at h
  · cases h
  · obtain rfl := List.mem_singleton.mp h
    rfl

/-- Where all places of an outline are `d` deep or more, so are the words. -/
lemma le_of_mem_wordsFrom {d e : Int} {read : List Char}
    (h : ∀ before, before <+: cs → d ≤ e + depth before) :
    ∀ w ∈ wordsFrom e read cs, d ≤ w.1 := by
  have ended : ∀ w ∈ endWord e read, d ≤ w.1 := by
    intro w hw
    simpa [mem_endWord hw] using h [] (List.nil_prefix ..)
  induction cs generalizing e read with
  | nil => exact ended
  | cons c cs ih =>
      have deeper : ∀ before, before <+: cs → d ≤ e + opens c + depth before := by
        intro before hb
        have := h (c :: before) ((List.prefix_cons_inj c).mpr hb)
        rwa [depth_cons, ← Int.add_assoc] at this
      have start : ∀ read', ∀ w ∈ endWord (e + opens c) read', d ≤ w.1 := by
        intro read' w hw
        simpa [mem_endWord hw] using deeper [] (List.nil_prefix ..)
      by_cases gap : isGap c = true
      · rw [wordsFrom_gap gap]
        intro w hw
        rcases List.mem_append.mp hw with hw | hw
        · exact ended w hw
        · exact ih deeper (start _) w hw
      · obtain ⟨c, rfl, word⟩ : ∃ c', c = some c' ∧ isWordChar c' = true := by
          simpa [isGap, Option.any_eq_true] using gap
        rw [opens_wordChar word, Int.add_zero] at deeper start
        rw [wordsFrom_wordChar word]
        exact ih deeper (start _)

/-! ### Shelter -/

/-- Balanced outlines with no joining word outside of parentheses. -/
structure Sheltered (cs : SqlOutline) : Prop where
  balanced : Balanced cs
  junctionsAt_zero : junctionsAt 0 cs = []

namespace Sheltered

/-- Sheltered outlines stay sheltered side by side. -/
lemma append (hc : Sheltered cs) (hd : Sheltered ds) (h : Apart cs ds) :
    Sheltered (cs ++ ds) := by
  refine ⟨hc.balanced.append hd.balanced, ?_⟩
  rw [junctionsAt_append h hc.balanced.closes_all, hc.junctionsAt_zero, hd.junctionsAt_zero]
  rfl

/-- A text without parentheses and joining words is sheltered. -/
lemma of_plain (h : ∀ c ∈ cs, opens c = 0) (joins : junctionsAt 0 cs = []) :
    Sheltered cs := ⟨.of_plain h, joins⟩

end Sheltered

/-- In parentheses, what is balanced is sheltered, whatever its words. -/
lemma Balanced.sheltered (h : Balanced cs) :
    Sheltered (some '(' :: (cs ++ [some ')'])) := by
  refine ⟨h.enclose, List.filterMap_eq_nil_iff.mpr ?_⟩
  have inside : ∀ w ∈ wordsFrom 1 [] cs, 1 ≤ w.1 := by
    refine le_of_mem_wordsFrom fun before hb => ?_
    have := h.closes_opened before hb
    omega
  have closing : ∀ c ∈ [some ')'].head?, isGap c = true := by decide
  have shown : wordsFrom 0 [] (some '(' :: (cs ++ [some ')'])) = wordsFrom 1 [] cs := by
    have opening : isGap (some '(') = true := rfl
    rw [wordsFrom_gap opening]
    change wordsFrom 1 [] (cs ++ [some ')']) = _
    rw [wordsFrom_append_of_head closing]
    exact List.append_nil _
  intro w hw
  rw [shown] at hw
  have := inside w hw
  exact if_neg (by omega)

end SqlOutline

/-- The joining words of a text outside of identifiers and parentheses. -/
def SqlText.junctions (text : String) : List Junction :=
  SqlOutline.junctionsAt 0 (outline text)

/-! ### Outlines of parts -/

namespace SqlPart

/-- The outline of the text of parts. -/
def outline (ps : List SqlPart) : SqlOutline := (glyphs ps).map SqlPiece.char?

/-- The outline of a raw text, which is the text itself. -/
def rawOutline (s : String) : SqlOutline := s.toList.map some

@[simp] lemma outline_nil : outline [] = [] := rfl

@[simp] lemma outline_raw_cons (s : String) (ps : List SqlPart) :
    outline (.raw s :: ps) = rawOutline s ++ outline ps := by
  have chars : s.toList.map (SqlPiece.char? ∘ (SqlPiece.char : Char → SqlPiece SqlValue)) =
      rawOutline s := rfl
  rw [outline, glyphs_raw_cons, List.map_append, List.map_map, chars]
  rfl

@[simp] lemma outline_name_cons (s : String) (ps : List SqlPart) :
    outline (.name s :: ps) = none :: outline ps := rfl

@[simp] lemma outline_value_cons (v : SqlValue) (ps : List SqlPart) :
    outline (.value v :: ps) = none :: outline ps := rfl

@[simp] lemma outline_append (ps qs : List SqlPart) :
    outline (ps ++ qs) = outline ps ++ outline qs := by
  simp [outline]

/-- Placeholders leave gaps, whatever their numbers. -/
lemma map_char?_number (n : Nat) (ps : List (SqlPiece SqlValue)) :
    (SqlPiece.number n ps).map SqlPiece.char? = ps.map SqlPiece.char? := by
  induction ps generalizing n with
  | nil => rfl
  | cons p ps ih =>
      cases p with
      | bound v => exact congrArg (none :: ·) (ih (n + 1))
      | char c => exact congrArg (some c :: ·) (ih n)
      | name s => exact congrArg (none :: ·) (ih n)
      | unclosed s => exact congrArg (none :: ·) (ih n)

/-- The outline of the text of legible parts is that of the parts. -/
lemma outline_textsAfter {ps : List SqlPart} (h : Legible ps) (n : Nat) :
    SqlText.outline (textsAfter n ps) = outline ps := by
  rw [SqlText.outline, SqlText.pieces, SqlText.scan_textsAfter h, map_char?_number]
  rfl

/-- In the text of legible parts, all identifiers have their closing
quotes. -/
lemma closed_textsAfter {ps : List SqlPart} (h : Legible ps) (n : Nat) :
    SqlText.Closed (textsAfter n ps) := by
  have none : ∀ s, SqlPiece.unclosed s ∉ glyphs ps := by
    intro s hs
    obtain ⟨p, -, hp⟩ := List.mem_flatMap.mp hs
    cases p <;> simp at hp
  have kept : ∀ (gs : List (SqlPiece SqlValue)) (m : Nat) (s : String),
      SqlPiece.unclosed s ∉ gs → SqlPiece.unclosed s ∉ SqlPiece.number m gs := by
    intro gs
    induction gs with
    | nil => exact fun _ _ _ => List.not_mem_nil
    | cons g gs ih =>
        intro m s hs
        rw [List.mem_cons, not_or] at hs
        cases g <;> simp_all [SqlPiece.number]
  intro s
  rw [SqlText.pieces, SqlText.scan_textsAfter h]
  exact kept _ n s (none s)

end SqlPart

end RowFilter
