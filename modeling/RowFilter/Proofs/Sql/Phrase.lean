/-
Conditions as their text shows them: terms in a row, with relations between
them.

* `SqlTerm`, `SqlPhrase`, `SqlPhrases`: terms, terms in a row, and rows of
  terms in parentheses. Comparisons stand in a row, however they are grouped.
* `SqlMark.append_inj`: what may stand behind a term is told apart by its
  first characters.
* `SqlTerm.append_inj`, `SqlPhrase.append_inj`: terms and rows of terms are
  told apart by their pieces, whatever stands behind them.
* `Expr.phrase`: the condition of an expression as a row of terms.
* `phrase_eq_of_toSql_eq`: conditions with the same text and the same values
  are the same rows of terms.
-/
import Mathlib.Tactic.Common
import RowFilter.Proofs.Sql.Placeholders

namespace RowFilter

/-! ### Marks -/

/-- What stands between two terms. -/
inductive SqlRelation where
  | compared (op : Comparison)
  /-- Membership in a list. -/
  | within
  /-- A match with a pattern. -/
  | matched
deriving DecidableEq

/-- What stands between two rows of terms. -/
inductive SqlSeparator where
  | comma
  | joined (kind : Junction)
deriving DecidableEq

/-- What may stand behind a term. -/
inductive SqlMark where
  | relation (r : SqlRelation)
  | separator (s : SqlSeparator)
  | closing
deriving DecidableEq

/-- The spelling of a relation. -/
def SqlRelation.text : SqlRelation → String
  | .compared op => " " ++ op.symbol ++ " "
  | .within => " IN "
  | .matched => " ILIKE "

/-- The spelling of a separator. -/
def SqlSeparator.text : SqlSeparator → String
  | .comma => ", "
  | .joined kind => kind.separator

namespace SqlMark

/-- The spelling of a mark. -/
def text : SqlMark → String
  | .relation r => r.text
  | .separator s => s.text
  | .closing => ")"

/-- The pieces of a mark. -/
def pieces (m : SqlMark) : List (SqlPiece SqlValue) := m.text.toList.map .char

/-- All marks. -/
def all : List SqlMark :=
  [.relation (.compared .equal), .relation (.compared .greater),
    .relation (.compared .less), .relation (.compared .greaterOrEqual),
    .relation (.compared .lessOrEqual), .relation .within, .relation .matched,
    .separator .comma, .separator (.joined .and), .separator (.joined .or),
    .closing]

lemma mem_all (m : SqlMark) : m ∈ all := by
  cases m with
  | relation r =>
      cases r with
      | compared op => cases op <;> decide
      | _ => decide
  | separator s =>
      cases s with
      | joined kind => cases kind <;> decide
      | comma => decide
  | closing => decide

/-- No mark begins with another one. -/
lemma prefix_code {m n : SqlMark} (h : m.pieces <+: n.pieces) : m = n := by
  have code : ∀ m ∈ all, ∀ n ∈ all, m.pieces <+: n.pieces → m = n := by decide
  exact code m m.mem_all n n.mem_all h

/-- Marks are told apart, whatever stands behind them. -/
lemma append_inj {m n : SqlMark} {xs ys : List (SqlPiece SqlValue)}
    (h : m.pieces ++ xs = n.pieces ++ ys) : m = n ∧ xs = ys := by
  have same : m = n := by
    rcases List.append_eq_append_iff.mp h with
      ⟨rest, longer, -⟩ | ⟨rest, longer, -⟩
    · exact prefix_code ⟨rest, longer.symm⟩
    · exact (prefix_code ⟨rest, longer.symm⟩).symm
  subst same
  exact ⟨rfl, List.append_cancel_left h⟩

/-- A mark begins with a blank, a comma or a closing parenthesis. -/
lemma exists_pieces (m : SqlMark) :
    ∃ x ∈ [.char ' ', .char ',', .char ')'], ∃ rest, m.pieces = x :: rest := by
  have heads : ∀ m ∈ all, ∃ x ∈ [.char ' ', .char ',', .char ')'],
      m.pieces = x :: m.pieces.tail := by decide
  obtain ⟨x, hx, h⟩ := heads m m.mem_all
  exact ⟨x, hx, _, h⟩

end SqlMark

/-! ### Terms and rows of terms -/

mutual

/-- A term of a condition. -/
inductive SqlTerm where
  | value (v : SqlValue)
  | column (table name : String)
  /-- Some element of an array field. -/
  | anyOf (table name : String)
  /-- An array field with an element that matches a pattern. -/
  | anyLike (table name : String) (pattern : SqlValue)
  | not (condition : SqlPhrase)
  /-- Rows of terms in parentheses. -/
  | group (rows : SqlPhrases)

/-- Terms in a row. -/
inductive SqlPhrase where
  | last (term : SqlTerm)
  | next (term : SqlTerm) (relation : SqlRelation) (rest : SqlPhrase)

/-- Rows of terms, with separators between them. -/
inductive SqlPhrases where
  | none
  | last (row : SqlPhrase)
  | next (row : SqlPhrase) (separator : SqlSeparator) (rest : SqlPhrases)

end

mutual

/-- The parts of a term. -/
def SqlTerm.parts : SqlTerm → List SqlPart
  | .value v => [.value v]
  | .column table name => SqlPart.qualified table name
  | .anyOf table name =>
    .raw "ANY(" :: SqlPart.qualified table name ++ [.raw ")"]
  | .anyLike table name pattern =>
    .raw "EXISTS (SELECT 1 FROM unnest(" :: SqlPart.qualified table name ++
      [.raw ") AS element WHERE element ILIKE ", .value pattern, .raw ")"]
  | .not condition => .raw "NOT (" :: condition.parts ++ [.raw ")"]
  | .group rows => .raw "(" :: rows.parts ++ [.raw ")"]

/-- The parts of terms in a row. -/
def SqlPhrase.parts : SqlPhrase → List SqlPart
  | .last term => term.parts
  | .next term relation rest => term.parts ++ .raw relation.text :: rest.parts

/-- The parts of rows of terms. -/
def SqlPhrases.parts : SqlPhrases → List SqlPart
  | .none => []
  | .last row => row.parts
  | .next row separator rest => row.parts ++ .raw separator.text :: rest.parts

end

/-! ### Telling terms apart -/

open SqlPart (glyphs glyphs_append qualified)

variable {xs ys : List (SqlPiece SqlValue)}

/-- The first piece of a term. -/
def SqlTerm.first : SqlTerm → SqlPiece SqlValue
  | .value v => .bound v
  | .column table _ => .name table
  | .anyOf .. => .char 'A'
  | .anyLike .. => .char 'E'
  | .not _ => .char 'N'
  | .group _ => .char '('

lemma SqlTerm.exists_glyphs (t : SqlTerm) :
    ∃ rest, glyphs t.parts = t.first :: rest := by
  cases t <;> exact ⟨_, rfl⟩

lemma SqlPhrase.exists_glyphs (p : SqlPhrase) :
    ∃ (t : SqlTerm) (rest : List (SqlPiece SqlValue)),
      glyphs p.parts = t.first :: rest := by
  cases p with
  | last t => exact ⟨t, t.exists_glyphs⟩
  | next t r p =>
      obtain ⟨rest, h⟩ := t.exists_glyphs
      rw [parts, glyphs_append, h]
      exact ⟨t, _, rfl⟩

/-- No row of terms begins with a mark. -/
lemma SqlMark.append_ne (m : SqlMark) (p : SqlPhrase) :
    m.pieces ++ xs ≠ glyphs p.parts ++ ys := by
  intro h
  obtain ⟨x, hx, _, mark⟩ := m.exists_pieces
  obtain ⟨t, _, term⟩ := p.exists_glyphs
  rw [mark, term] at h
  rw [(List.cons.inj h).1] at hx
  cases t <;> simp [SqlTerm.first] at hx

/-- Parts on both sides of a raw text. -/
lemma glyphs_beside (ps : List SqlPart) (s : String) (qs : List SqlPart) :
    glyphs (ps ++ .raw s :: qs) ++ xs =
      glyphs ps ++ (s.toList.map .char ++ (glyphs qs ++ xs)) := by
  rw [glyphs_append, SqlPart.glyphs_raw_cons, List.append_assoc,
    List.append_assoc]

/-- Parts between a raw text and a closing parenthesis. -/
lemma glyphs_enclosed (s : String) (ps : List SqlPart) :
    glyphs (.raw s :: ps ++ [.raw ")"]) ++ xs =
      s.toList.map .char ++ (glyphs ps ++ (SqlMark.closing.pieces ++ xs)) := by
  rw [List.cons_append, SqlPart.glyphs_raw_cons, List.append_assoc,
    glyphs_beside]
  rfl

lemma glyphs_anyLike (table name : String) (v : SqlValue) :
    glyphs (SqlTerm.anyLike table name v).parts ++ xs =
      "EXISTS (SELECT 1 FROM unnest(".toList.map .char ++
        (glyphs (qualified table name) ++
          (") AS element WHERE element ILIKE ".toList.map .char ++
            .bound v :: (SqlMark.closing.pieces ++ xs))) := by
  rw [SqlTerm.parts, List.cons_append, SqlPart.glyphs_raw_cons,
    List.append_assoc, glyphs_beside]
  rfl

lemma glyphs_next (t : SqlTerm) (r : SqlRelation) (p : SqlPhrase) :
    glyphs (SqlPhrase.next t r p).parts ++ xs =
      glyphs t.parts ++
        ((SqlMark.relation r).pieces ++ (glyphs p.parts ++ xs)) :=
  glyphs_beside t.parts r.text p.parts

lemma glyphs_next_row (p : SqlPhrase) (s : SqlSeparator) (ps : SqlPhrases) :
    glyphs (SqlPhrases.next p s ps).parts ++ xs =
      glyphs p.parts ++
        ((SqlMark.separator s).pieces ++ (glyphs ps.parts ++ xs)) :=
  glyphs_beside p.parts s.text ps.parts

/-- Columns are told apart, whatever stands behind them. -/
lemma qualified_append_inj {t u n m : String}
    (h : glyphs (qualified t n) ++ xs = glyphs (qualified u m) ++ ys) :
    t = u ∧ n = m ∧ xs = ys := by
  have pieces : SqlPiece.name t :: .char '.' :: .name n :: xs =
      .name u :: .char '.' :: .name m :: ys := h
  cases pieces
  exact ⟨rfl, rfl, rfl⟩

/-- What may stand behind a row of terms: nothing, or a mark that is no
relation. -/
def EndsPhrase (xs : List (SqlPiece SqlValue)) : Prop :=
  xs = [] ∨ ∃ m : SqlMark, (∀ r, m ≠ .relation r) ∧ ∃ ys, xs = m.pieces ++ ys

namespace EndsPhrase

lemma closing (xs : List (SqlPiece SqlValue)) :
    EndsPhrase (SqlMark.closing.pieces ++ xs) :=
  .inr ⟨.closing, ⟨fun _ h => (nomatch h), xs, rfl⟩⟩

lemma separator (s : SqlSeparator) (xs : List (SqlPiece SqlValue)) :
    EndsPhrase ((SqlMark.separator s).pieces ++ xs) :=
  .inr ⟨.separator s, ⟨fun _ h => (nomatch h), xs, rfl⟩⟩

lemma ne_relation (h : EndsPhrase xs) (r : SqlRelation) :
    xs ≠ (SqlMark.relation r).pieces ++ ys := by
  rintro rfl
  rcases h with h | ⟨m, hm, zs, h⟩
  · obtain ⟨x, -, rest, mark⟩ := (SqlMark.relation r).exists_pieces
    rw [mark] at h
    cases h
  · exact hm r (SqlMark.append_inj h).1.symm

end EndsPhrase

mutual

/-- Terms are told apart, whatever stands behind them. -/
theorem SqlTerm.append_inj (t : SqlTerm) {u : SqlTerm}
    {xs ys : List (SqlPiece SqlValue)}
    (h : glyphs t.parts ++ xs = glyphs u.parts ++ ys) : t = u ∧ xs = ys := by
  have first : t.first = u.first := by
    obtain ⟨_, ht⟩ := t.exists_glyphs
    obtain ⟨_, hu⟩ := u.exists_glyphs
    rw [ht, hu] at h
    exact (List.cons.inj h).1
  cases t <;> cases u <;> simp [SqlTerm.first] at first
  case value.value v w =>
      cases h
      exact ⟨rfl, rfl⟩
  case column.column =>
      obtain ⟨rfl, rfl, rest⟩ := qualified_append_inj h
      exact ⟨rfl, rest⟩
  case anyOf.anyOf =>
      simp only [SqlTerm.parts, glyphs_enclosed] at h
      obtain ⟨rfl, rfl, rest⟩ := qualified_append_inj (List.append_cancel_left h)
      exact ⟨rfl, List.append_cancel_left rest⟩
  case anyLike.anyLike =>
      simp only [glyphs_anyLike] at h
      have fields := List.append_cancel_left h
      obtain ⟨rfl, rfl, behind⟩ := qualified_append_inj fields
      obtain ⟨same, rest⟩ := List.cons.inj (List.append_cancel_left behind)
      cases same
      exact ⟨rfl, List.append_cancel_left rest⟩
  case not.not p q =>
      simp only [SqlTerm.parts, glyphs_enclosed] at h
      obtain ⟨rfl, rest⟩ := p.append_inj (List.append_cancel_left h)
        (.closing xs) (.closing ys)
      exact ⟨rfl, List.append_cancel_left rest⟩
  case group.group ps qs =>
      simp only [SqlTerm.parts, glyphs_enclosed] at h
      obtain ⟨rfl, rest⟩ := ps.append_inj (List.append_cancel_left h)
      exact ⟨rfl, rest⟩

/-- Rows of terms are told apart in front of what may stand behind them. -/
theorem SqlPhrase.append_inj (p : SqlPhrase) {q : SqlPhrase}
    {xs ys : List (SqlPiece SqlValue)}
    (h : glyphs p.parts ++ xs = glyphs q.parts ++ ys) (hx : EndsPhrase xs)
    (hy : EndsPhrase ys) : p = q ∧ xs = ys := by
  cases p with
  | last t =>
      cases q with
      | last u =>
          obtain ⟨rfl, rest⟩ := t.append_inj h
          exact ⟨rfl, rest⟩
      | next u r q =>
          rw [glyphs_next] at h
          exact absurd (t.append_inj h).2 (hx.ne_relation r)
  | next t r p =>
      rw [glyphs_next] at h
      cases q with
      | last u => exact absurd (t.append_inj h).2.symm (hy.ne_relation r)
      | next u r' q =>
          rw [glyphs_next] at h
          obtain ⟨rfl, behind⟩ := t.append_inj h
          obtain ⟨same, behind⟩ := SqlMark.append_inj behind
          obtain ⟨rfl, rest⟩ := p.append_inj behind hx hy
          cases same
          exact ⟨rfl, rest⟩

/-- Rows of terms in parentheses are told apart, whatever stands behind the
parentheses. -/
theorem SqlPhrases.append_inj (ps : SqlPhrases) {qs : SqlPhrases}
    {xs ys : List (SqlPiece SqlValue)}
    (h : glyphs ps.parts ++ (SqlMark.closing.pieces ++ xs) =
      glyphs qs.parts ++ (SqlMark.closing.pieces ++ ys)) : ps = qs ∧ xs = ys := by
  have ends : EndsPhrase (SqlMark.closing.pieces ++ xs) := .closing xs
  have ends' : EndsPhrase (SqlMark.closing.pieces ++ ys) := .closing ys
  cases ps with
  | none =>
      cases qs with
      | none => exact ⟨rfl, List.append_cancel_left h⟩
      | last q => exact absurd h (SqlMark.closing.append_ne q)
      | next q s qs =>
          rw [glyphs_next_row] at h
          exact absurd h (SqlMark.closing.append_ne q)
  | last p =>
      cases qs with
      | none => exact absurd h.symm (SqlMark.closing.append_ne p)
      | last q =>
          obtain ⟨rfl, rest⟩ := p.append_inj h ends ends'
          exact ⟨rfl, List.append_cancel_left rest⟩
      | next q s qs =>
          rw [glyphs_next_row] at h
          obtain ⟨-, rest⟩ := p.append_inj h ends (.separator s _)
          cases (SqlMark.append_inj rest).1
  | next p s ps =>
      rw [glyphs_next_row] at h
      cases qs with
      | none => exact absurd h.symm (SqlMark.closing.append_ne p)
      | last q =>
          obtain ⟨-, rest⟩ := p.append_inj h (.separator s _) ends'
          cases (SqlMark.append_inj rest).1
      | next q s' qs =>
          rw [glyphs_next_row] at h
          obtain ⟨rfl, behind⟩ := p.append_inj h (.separator s _) (.separator s' _)
          obtain ⟨same, behind⟩ := SqlMark.append_inj behind
          obtain ⟨rfl, rest⟩ := ps.append_inj behind
          cases same
          exact ⟨rfl, rest⟩

end

/-! ### Conditions in a row -/

namespace SqlPhrase

/-- Two rows of terms with a relation between them. -/
def join : SqlPhrase → SqlRelation → SqlPhrase → SqlPhrase
  | .last t, r, q => .next t r q
  | .next t r' p, r, q => .next t r' (join p r q)

lemma glyphs_join : (p : SqlPhrase) → (r : SqlRelation) → (q : SqlPhrase) →
    glyphs (p.join r q).parts =
      glyphs p.parts ++ ((SqlMark.relation r).pieces ++ glyphs q.parts)
  | .last t, r, q => glyphs_append ..
  | .next t r' p, r, q => by
      have rest := glyphs_join p r q
      rw [join, parts, glyphs_append, SqlPart.glyphs_raw_cons, rest, parts,
        glyphs_append, SqlPart.glyphs_raw_cons, List.append_assoc,
        List.append_assoc]

end SqlPhrase

namespace Expr

/-- A condition in front of the right side of a membership. -/
def memberPhrase (left : SqlPhrase) : Expr → SqlPhrase → SqlPhrase
  | .column c _, _ =>
    left.join (.compared .equal) (.last (.anyOf c.table c.name))
  | _, right => left.join .within right

mutual

/-- The condition of an expression as terms in a row. -/
def phrase : Expr → SqlPhrase
  | .literal v _ => .last (.value v)
  | .list _ items _ => .last (.group (phrases .comma items))
  | .column c _ => .last (.column c.table c.name)
  | .not arg _ => .last (.not arg.phrase)
  | .compare op left right _ => left.phrase.join (.compared op) right.phrase
  | .isIn left right _ => memberPhrase left.phrase right right.phrase
  | .like c pattern _ =>
    .next (.column c.table c.name) .matched (.last (.value (.text pattern)))
  | .anyLike c pattern _ => .last (.anyLike c.table c.name (.text pattern))
  | .junction kind args _ => .last (.group (phrases (.joined kind) args))

/-- The conditions of expressions with a separator between them. -/
def phrases (s : SqlSeparator) : List Expr → SqlPhrases
  | [] => .none
  | [e] => .last e.phrase
  | e :: f :: es => .next e.phrase s (phrases s (f :: es))

end

lemma glyphs_memberPhrase (left : SqlPhrase) (right : Expr) {q : SqlPhrase}
    (h : glyphs q.parts = glyphs right.parts) :
    glyphs (memberPhrase left right q).parts =
      glyphs left.parts ++ glyphs (memberParts right right.parts) := by
  cases right with
  | column c span => exact SqlPhrase.glyphs_join ..
  | _ =>
      exact (SqlPhrase.glyphs_join ..).trans (congrArg _ (congrArg _ h))

lemma glyphs_phrases (s : SqlSeparator) {es : List Expr}
    (h : ∀ e ∈ es, glyphs e.phrase.parts = glyphs e.parts) :
    glyphs (phrases s es).parts =
      glyphs (SqlPart.sepBy s.text (partsOfAll es)) := by
  induction es with
  | nil => rfl
  | cons e es ih =>
      have first := h e (by simp)
      have rest := ih fun d hd => h d (by simp [hd])
      cases es with
      | nil => exact first
      | cons f es =>
          rw [phrases, SqlPhrases.parts, glyphs_append, SqlPart.glyphs_raw_cons,
            first, rest, sepBy_partsOfAll_cons, glyphs_append,
            SqlPart.glyphs_raw_cons]

/-- Parts in parentheses have the same pieces if those inside do. -/
lemma glyphs_enclosed_congr (s : String) {ps qs : List SqlPart}
    (h : glyphs ps = glyphs qs) :
    glyphs (.raw s :: ps ++ [.raw ")"]) = glyphs (.raw s :: qs ++ [.raw ")"]) := by
  simp only [glyphs_append, SqlPart.glyphs_raw_cons, h]

/-- The row of terms is made of the pieces of the condition. -/
theorem glyphs_phrase (e : Expr) : glyphs e.phrase.parts = glyphs e.parts := by
  induction e using Expr.ind with
  | literal v span => rfl
  | list t items span ih =>
      exact glyphs_enclosed_congr "(" (glyphs_phrases .comma ih)
  | column c span => rfl
  | not arg span ih => exact glyphs_enclosed_congr "NOT (" ih
  | compare op left right span ihl ihr =>
      rw [phrase, SqlPhrase.glyphs_join, ihl, ihr, parts, glyphs_append]
      cases op <;> rfl
  | isIn left right span ihl ihr =>
      rw [phrase, glyphs_memberPhrase _ right ihr, ihl, parts, glyphs_append]
  | like c pattern span => rfl
  | anyLike c pattern span => rfl
  | junction kind args span ih =>
      exact glyphs_enclosed_congr "(" (glyphs_phrases (.joined kind) ih)

/-- Conditions with the same text and the same values are made of the same
pieces. -/
lemma glyphs_eq_of_toSql_eq {e f : Expr} (h : e.toSql = f.toSql) :
    glyphs e.parts = glyphs f.parts := by
  have text : SqlPart.textsAfter 0 e.parts = SqlPart.textsAfter 0 f.parts := by
    have texts := congrArg Statement.text h
    rw [toSql, toSql, renderInto, renderInto, Statement.text_writeAll,
      Statement.text_writeAll] at texts
    simpa using texts
  have values : SqlPart.values e.parts = SqlPart.values f.parts := by
    have params := congrArg (fun st => st.params.toList) h
    simpa [toSql, renderInto, Statement.params_writeAll] using params
  refine SqlPiece.number_injective (n := 0) ?_ ?_
  · calc SqlPiece.number 0 (glyphs e.parts)
        = SqlText.scan .text (SqlPart.textsAfter 0 e.parts).toList :=
          (SqlText.scan_textsAfter e.legible_parts 0).symm
      _ = SqlText.scan .text (SqlPart.textsAfter 0 f.parts).toList := by rw [text]
      _ = SqlPiece.number 0 (glyphs f.parts) :=
          SqlText.scan_textsAfter f.legible_parts 0
  · rw [SqlPart.bounds_glyphs, SqlPart.bounds_glyphs, values]

/-- Conditions with the same text and the same values are the same terms in a
row. -/
theorem phrase_eq_of_toSql_eq {e f : Expr} (h : e.toSql = f.toSql) :
    e.phrase = f.phrase := by
  have same : glyphs e.phrase.parts ++ [] = glyphs f.phrase.parts ++ [] := by
    rw [glyphs_phrase, glyphs_phrase, glyphs_eq_of_toSql_eq h]
  exact (e.phrase.append_inj same (.inl rfl) (.inl rfl)).1

end Expr

end RowFilter
