/-
What a reader of an SQL text sees: identifiers, placeholders and other
characters.

* `SqlPiece`: an identifier, a placeholder, or a character outside of both.
* `SqlText.scan`, `SqlText.pieces`: the pieces of a text. Between double
  quotes stands an identifier, in which a quote is written twice; outside of
  identifiers, a dollar sign with digits behind it is a placeholder.
* `scan_quoteName`, `scan_placeholder`, `scan_raw`: how what a statement is
  made of is read.
* `SqlPart.glyphs`, `SqlPiece.number`: the pieces of parts, with the values
  in place of the placeholders, and the placeholders put in.
* `SqlPart.Legible`: parts that can be told apart in the text, because raw
  texts keep names and values apart.
* `scan_textsAfter`: the text of legible parts is read as those parts, with
  the placeholders numbered in order.
-/
import Mathlib.Tactic.Common
import RowFilter.Sql.Statement

namespace RowFilter

/-! ### Pieces -/

/-- A piece of an SQL text, in which a placeholder stands for an `α`. -/
inductive SqlPiece (α : Type) where
  /-- A character outside of identifiers and placeholders. -/
  | char (c : Char)
  /-- An identifier, without its quotes. -/
  | name (s : String)
  /-- A placeholder. -/
  | bound (a : α)
  /-- An identifier whose closing quote is missing. -/
  | unclosed (s : String)
deriving DecidableEq

namespace SqlPiece

variable {α : Type}

/-- What a placeholder stands for. -/
def bound? : SqlPiece α → Option α
  | .bound a => some a
  | _ => none

/-- What the placeholders stand for, in order. -/
def bounds (ps : List (SqlPiece α)) : List α := ps.filterMap bound?

@[simp] lemma bounds_nil : bounds ([] : List (SqlPiece α)) = [] := rfl

@[simp] lemma bounds_append (ps qs : List (SqlPiece α)) :
    bounds (ps ++ qs) = bounds ps ++ bounds qs := List.filterMap_append ..

@[simp] lemma bounds_bound_cons (a : α) (ps : List (SqlPiece α)) :
    bounds (.bound a :: ps) = a :: bounds ps := rfl

@[simp] lemma bounds_name_cons (s : String) (ps : List (SqlPiece α)) :
    bounds (.name s :: ps) = bounds ps := rfl

/-- Characters hold no placeholder. -/
@[simp] lemma bounds_map_char (cs : List Char) :
    bounds (cs.map (char : Char → SqlPiece α)) = [] := by
  induction cs with
  | nil => rfl
  | cons c cs ih => exact ih

/-- The pieces with placeholders for the values, of which `n` stand before
them. -/
def number : Nat → List (SqlPiece SqlValue) → List (SqlPiece String)
  | _, [] => []
  | n, .char c :: ps => .char c :: number n ps
  | n, .name s :: ps => .name s :: number n ps
  | n, .unclosed s :: ps => .unclosed s :: number n ps
  | n, .bound _ :: ps => .bound (placeholder (n + 1)) :: number (n + 1) ps

/-- Characters stay as they are. -/
lemma number_map_char (n : Nat) (cs : List Char)
    (ps : List (SqlPiece SqlValue)) :
    number n (cs.map char ++ ps) = cs.map char ++ number n ps := by
  induction cs with
  | nil => rfl
  | cons c cs ih => rw [List.map_cons, List.cons_append, number, ih]; rfl

/-- The placeholders are numbered in order. -/
lemma bounds_number (n : Nat) (ps : List (SqlPiece SqlValue)) :
    bounds (number n ps) =
      (List.range' (n + 1) (bounds ps).length).map placeholder := by
  induction ps generalizing n with
  | nil => rfl
  | cons p ps ih =>
      cases p with
      | char c => exact ih n
      | name s => exact ih n
      | unclosed s => exact ih n
      | bound v =>
          rw [number, bounds_bound_cons, bounds_bound_cons, ih,
            List.length_cons, List.range'_succ, List.map_cons]

/-- Pieces with the same values that agree once the placeholders are put in
are the same. -/
lemma number_injective {n : Nat} {ps qs : List (SqlPiece SqlValue)}
    (shown : number n ps = number n qs) (values : bounds ps = bounds qs) :
    ps = qs := by
  induction ps generalizing n qs with
  | nil =>
      cases qs with
      | nil => rfl
      | cons q qs => cases q <;> simp [number] at shown
  | cons p ps ih =>
      cases qs with
      | nil => cases p <;> simp [number] at shown
      | cons q qs =>
          cases p <;> cases q <;>
            simp only [number, List.cons.injEq, reduceCtorEq, false_and]
              at shown
          case bound.bound v w =>
            simp only [bounds_bound_cons, List.cons.injEq] at values
            rw [values.1, ih shown.2 values.2]
          all_goals
            obtain ⟨head, tail⟩ := shown
            injection head with head
            rw [head, ih tail values]

end SqlPiece

/-! ### Scanning -/

namespace SqlText

/-- What the characters since the last piece amount to. The characters that
were read are kept latest first. -/
inductive Pending where
  /-- Nothing. -/
  | text
  /-- The inside of an identifier. -/
  | name (read : List Char)
  /-- The inside of an identifier and a quote, which ends the identifier
  unless it is the first of two. -/
  | quote (read : List Char)
  /-- A dollar sign. -/
  | dollar
  /-- A dollar sign and digits. -/
  | placeholder (read : List Char)

namespace Pending

/-- The piece that is complete when nothing more belongs to it. -/
def close : Pending → List (SqlPiece String)
  | .text => []
  | .name read => [.unclosed (String.ofList read.reverse)]
  | .quote read => [.name (String.ofList read.reverse)]
  | .dollar => [.char '$']
  | .placeholder read => [.bound (String.ofList ('$' :: read.reverse))]

/-- What is pending with a character that belongs to it, if the character
does. -/
def extend? : Pending → Char → Option Pending
  | .text, _ => none
  | .name read, c => some (if c = '"' then .quote read else .name (c :: read))
  | .quote read, c => if c = '"' then some (.name ('"' :: read)) else none
  | .dollar, c => if c.isDigit then some (.placeholder [c]) else none
  | .placeholder read, c =>
    if c.isDigit then some (.placeholder (c :: read)) else none

end Pending

/-- The pieces of a text behind what is pending. -/
def scan : Pending → List Char → List (SqlPiece String)
  | p, [] => p.close
  | p, c :: cs =>
    match p.extend? c with
    | some q => scan q cs
    | none =>
      p.close ++
        (if c = '"' then scan (.name []) cs
        else if c = '$' then scan .dollar cs
        else .char c :: scan .text cs)

/-- The pieces of a text. -/
def pieces (text : String) : List (SqlPiece String) := scan .text text.toList

/-- The placeholders of a text. -/
def placeholders (text : String) : List String := SqlPiece.bounds (pieces text)

/-! ### Reading back what is written -/

/-- A character outside of identifiers that is neither a quote nor a dollar
sign stands for itself. -/
lemma scan_char {c : Char} (hq : c ≠ '"') (hd : c ≠ '$') (cs : List Char) :
    scan .text (c :: cs) = .char c :: scan .text cs := by
  rw [scan, Pending.extend?, Pending.close]
  simp [hq, hd]

/-- A text without quotes and dollar signs stands for itself. -/
lemma scan_raw {raw : List Char} (h : ∀ c ∈ raw, c ≠ '"' ∧ c ≠ '$')
    (cs : List Char) :
    scan .text (raw ++ cs) = raw.map .char ++ scan .text cs := by
  induction raw with
  | nil => rfl
  | cons c raw ih =>
      obtain ⟨hq, hd⟩ := h c (by simp)
      have rest := ih fun d hd => h d (by simp [hd])
      rw [List.cons_append, scan_char hq hd, rest, List.map_cons,
        List.cons_append]

/-- What is pending is a complete piece in front of a character that does not
belong to it. -/
lemma scan_eq_close {p : Pending} {cs : List Char}
    (h : ∀ c ∈ cs.head?, p.extend? c = none) :
    scan p cs = p.close ++ scan .text cs := by
  cases cs with
  | nil => simp [scan, Pending.close]
  | cons c cs =>
      rw [scan, h c rfl, scan, Pending.extend?, Pending.close]
      rfl

/-- The inside of an identifier is read up to its closing quote. -/
lemma scan_name (read name cs : List Char) :
    scan (.name read)
      (name.flatMap (fun c => if c = '"' then ['"', '"'] else [c]) ++ '"' :: cs) =
    scan (.quote (name.reverse ++ read)) cs := by
  induction name generalizing read with
  | nil => rw [List.flatMap_nil, List.nil_append, scan, Pending.extend?]; rfl
  | cons c name ih =>
      have next := ih (c :: read)
      rw [List.reverse_cons, List.append_assoc, List.singleton_append, ← next,
        List.flatMap_cons, List.append_assoc]
      by_cases hc : c = '"'
      · subst hc
        rfl
      · rw [if_neg hc, List.singleton_append, scan, Pending.extend?, if_neg hc]

/-- A quoted identifier is read as the name that was quoted, unless another
quote follows. -/
lemma scan_quoteName (s : String) {cs : List Char} (h : cs.head? ≠ some '"') :
    scan .text ((quoteName s).toList ++ cs) = .name s :: scan .text cs := by
  have opened : (quoteName s).toList ++ cs = '"' :: (s.toList.flatMap
      (fun c => if c = '"' then ['"', '"'] else [c]) ++ '"' :: cs) := by
    simp [quoteName, String.toList_ofList]
  have entered : ∀ ds, scan .text ('"' :: ds) = scan (.name []) ds := fun ds => rfl
  have ends : ∀ c ∈ cs.head?,
      (Pending.quote (s.toList.reverse ++ [])).extend? c = none := by
    intro c hc
    refine if_neg ?_
    rintro rfl
    exact h hc
  rw [opened, entered, scan_name, scan_eq_close ends]
  simp [Pending.close]

lemma toList_placeholder (n : Nat) :
    (placeholder n).toList = '$' :: Nat.toDigits 10 n := by
  have dollar : (toString "$").toList = ['$'] := rfl
  simp [placeholder, String.toList_append, dollar]

/-- Digits behind a dollar sign and digits are read up to the first character
that is none. -/
lemma scan_digits {digits : List Char} (h : ∀ c ∈ digits, c.isDigit = true)
    (read cs : List Char) :
    scan (.placeholder read) (digits ++ cs) =
      scan (.placeholder (digits.reverse ++ read)) cs := by
  induction digits generalizing read with
  | nil => rfl
  | cons c digits ih =>
      have hc := h c (by simp)
      have next := ih (fun d hd => h d (by simp [hd])) (c :: read)
      rw [List.reverse_cons, List.append_assoc, List.singleton_append, ← next,
        List.cons_append, scan, Pending.extend?, if_pos hc]

/-- A placeholder is read as itself, unless another digit follows. -/
lemma scan_placeholder (n : Nat) {cs : List Char}
    (h : ∀ c ∈ cs.head?, c.isDigit = false) :
    scan .text ((placeholder n).toList ++ cs) =
      .bound (placeholder n) :: scan .text cs := by
  have digits : ∀ c ∈ Nat.toDigits 10 n, c.isDigit = true :=
    fun _ => isDigit_of_mem_toDigits
  have shown := toList_placeholder n
  rw [shown]
  obtain ⟨d, ds, hds⟩ := List.exists_cons_of_ne_nil (Nat.toDigits_ne_nil (n := n) (b := 10))
  rw [hds] at digits shown ⊢
  have hd := digits d (by simp)
  have ends : ∀ c ∈ cs.head?,
      (Pending.placeholder (ds.reverse ++ [d])).extend? c = none := by
    intro c hc
    simp [Pending.extend?, h c hc]
  have entered : scan .text ('$' :: d :: (ds ++ cs)) =
      scan (.placeholder [d]) (ds ++ cs) := by
    rw [scan, Pending.extend?, Pending.close]
    simp [scan, Pending.extend?, hd]
  rw [List.cons_append, List.cons_append, entered,
    scan_digits fun c hc => digits c (by simp [hc]), scan_eq_close ends]
  simp [Pending.close, ← shown]

end SqlText

/-! ### Legible parts -/

namespace SqlPart

/-- The pieces of parts, with the values themselves in place of the
placeholders. -/
def glyphs (ps : List SqlPart) : List (SqlPiece SqlValue) :=
  ps.flatMap fun
    | .raw s => s.toList.map .char
    | .name s => [.name s]
    | .value v => [.bound v]

@[simp] lemma glyphs_nil : glyphs [] = [] := rfl

@[simp] lemma glyphs_raw_cons (s : String) (ps : List SqlPart) :
    glyphs (.raw s :: ps) = s.toList.map .char ++ glyphs ps := rfl

@[simp] lemma glyphs_name_cons (s : String) (ps : List SqlPart) :
    glyphs (.name s :: ps) = .name s :: glyphs ps := rfl

@[simp] lemma glyphs_value_cons (v : SqlValue) (ps : List SqlPart) :
    glyphs (.value v :: ps) = .bound v :: glyphs ps := rfl

@[simp] lemma glyphs_append (ps qs : List SqlPart) :
    glyphs (ps ++ qs) = glyphs ps ++ glyphs qs := List.flatMap_append ..

/-- The values among the pieces are those of the parts. -/
lemma bounds_glyphs (ps : List SqlPart) :
    SqlPiece.bounds (glyphs ps) = values ps := by
  induction ps with
  | nil => rfl
  | cons p ps ih => cases p <;> simp [ih]

/-- A raw text that neither belongs to an identifier or a placeholder before
it nor begins one. -/
def Plain (s : String) : Prop :=
  (s.toList.head?.any fun c => !c.isDigit) = true ∧
    (s.toList.all fun c => c != '"' && c != '$') = true

instance (s : String) : Decidable (Plain s) := inferInstanceAs (Decidable (_ ∧ _))

namespace Plain

variable {s : String}

lemma head (h : Plain s) : ∃ c, s.toList.head? = some c ∧ c.isDigit = false := by
  obtain ⟨c, hc, hd⟩ := Option.any_eq_true _ _ |>.mp h.1
  exact ⟨c, hc, by simpa using hd⟩

lemma ne (h : Plain s) : ∀ c ∈ s.toList, c ≠ '"' ∧ c ≠ '$' := by
  intro c hc
  simpa using List.all_eq_true.mp h.2 c hc

end Plain

/-- Raw texts keep names and values apart, and hold none themselves. -/
inductive Legible : List SqlPart → Prop where
  | nil : Legible []
  | raw {s : String} {ps : List SqlPart} :
      Plain s → Legible ps → Legible (.raw s :: ps)
  | last (p : SqlPart) : (∀ s, p ≠ .raw s) → Legible [p]
  | before {p : SqlPart} {s : String} {ps : List SqlPart} :
      (∀ s, p ≠ .raw s) → Legible (.raw s :: ps) →
      Legible (p :: .raw s :: ps)

namespace Legible

variable {ps qs : List SqlPart} {s : String}

lemma plain (h : Legible (.raw s :: ps)) : Plain s := by
  cases h with
  | raw hs _ => exact hs
  | last _ hp => exact absurd rfl (hp s)
  | before hp _ => exact absurd rfl (hp s)

/-- Legible parts stay legible behind others when a raw text comes first. -/
lemma append (hp : Legible ps) (hq : Legible (.raw s :: qs)) :
    Legible (ps ++ .raw s :: qs) := by
  induction hp with
  | nil => exact hq
  | raw ht _ ih => exact .raw ht ih
  | last p hp => exact .before hp hq
  | before hp _ ih => exact .before hp ih

/-- Legible lists of parts are legible with a plain separator between them. -/
lemma sepBy (hs : Plain s) {pss : List (List SqlPart)}
    (h : ∀ ps ∈ pss, Legible ps) : Legible (SqlPart.sepBy s pss) := by
  induction pss with
  | nil => exact .nil
  | cons ps pss ih =>
      have first := h ps (by simp)
      cases pss with
      | nil => exact first
      | cons qs pss =>
          have rest := ih fun ps hp => h ps (by simp [hp])
          exact first.append (.raw hs rest)

/-- A character after which a name and a placeholder are complete. -/
lemma head_textsAfter (hp : Legible (.raw s :: ps)) (n : Nat) :
    ∀ c ∈ (textsAfter n (.raw s :: ps)).toList.head?,
      c ≠ '"' ∧ c.isDigit = false := by
  obtain ⟨c, first, digit⟩ := hp.plain.head
  intro d hd
  have shown : d ∈ s.toList.head? := by
    rw [textsAfter, textAfter, String.toList_append, List.head?_append,
      first] at hd
    rwa [first]
  obtain rfl : c = d := Option.mem_unique first shown
  exact ⟨(hp.plain.ne c (List.mem_of_mem_head? first)).1, digit⟩

end Legible

end SqlPart

open SqlPart in
/-- The text of legible parts is read as those parts, with the placeholders
numbered in order. -/
theorem SqlText.scan_textsAfter {ps : List SqlPart} (h : Legible ps) (n : Nat) :
    scan .text (textsAfter n ps).toList = SqlPiece.number n (glyphs ps) := by
  induction h generalizing n with
  | nil => rfl
  | @raw s ps hs _ ih =>
      have rest := ih n
      rw [textsAfter, textAfter, String.toList_append, scan_raw hs.ne,
        glyphs_raw_cons, SqlPiece.number_map_char]
      exact congrArg _ rest
  | last p hp =>
      cases p with
      | raw s => exact absurd rfl (hp s)
      | name s =>
          have shown := @scan_quoteName s [] (by simp)
          simpa [textsAfter, textAfter, scan, Pending.close, SqlPiece.number]
            using shown
      | value v =>
          have shown := @scan_placeholder (n + 1) [] (by simp)
          simpa [textsAfter, textAfter, scan, Pending.close, SqlPiece.number]
            using shown
  | @before p s ps hp hq ih =>
      cases p with
      | raw s => exact absurd rfl (hp s)
      | name t =>
          have ends : (textsAfter n (.raw s :: ps)).toList.head? ≠ some '"' :=
            fun head => (hq.head_textsAfter n _ head).1 rfl
          rw [textsAfter, textAfter, String.toList_append, glyphs_name_cons,
            SqlPiece.number, ← ih n]
          exact scan_quoteName t ends
      | value v =>
          have ends := fun c hc => (hq.head_textsAfter (n + 1) c hc).2
          rw [textsAfter, textAfter, String.toList_append, glyphs_value_cons,
            SqlPiece.number, ← ih (n + 1)]
          exact scan_placeholder (n + 1) ends

end RowFilter
