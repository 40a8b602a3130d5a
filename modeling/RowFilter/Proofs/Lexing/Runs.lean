/-
The tokens of a text by maximal runs.

* `Vocabulary`: the words and the separator characters of a language, and
  `Vocabulary.Apart`: those in which neither gets in the way of the other.
* `splitQuoted`, `unescape`: the inside of a quoted text up to the quote that
  closes it, and the text that it stands for.
* `Vocabulary.classify`: what a run of characters is, as a whole.
* `Vocabulary.read`: the token stream of a text. Blanks are passed over, a
  separator is a token, a quote opens a quoted text, and anything else begins
  a run, which ends in front of the next blank or separator.
* `read_of_isBlank`, `read_of_contains`, `read_unclosed`, `read_closed`,
  `read_refused`, `read_known`: what a text begins with.
* `countP_separator_read_le`: each separator token is a character of the
  text.
-/
import Mathlib.Data.List.Basic
import RowFilter.Token.Scan

namespace RowFilter

/-- The words and the separator characters of a language. -/
structure Vocabulary where
  words : List String
  separators : List Char

/-! ### Quoted texts -/

/-- The inside of a quoted text, up to the first quote that is not escaped,
and what follows that quote. A backslash escapes the next character. -/
def splitQuoted : List Char → Option (List Char × List Char)
  | [] => none
  | c :: cs =>
    if c = '"' then some ([], cs)
    else if c = '\\' then
      match cs with
      | [] => none
      | d :: ds => (splitQuoted ds).map fun p => (c :: d :: p.1, p.2)
    else (splitQuoted cs).map fun p => (c :: p.1, p.2)

/-- A quote that is not escaped closes a quoted text. -/
lemma splitQuoted_quote (cs : List Char) : splitQuoted ('"' :: cs) = some ([], cs) := by
  rw [splitQuoted.eq_def]
  rfl

/-- An escaped character does not close a quoted text. -/
lemma splitQuoted_escaped (c : Char) (cs : List Char) :
    splitQuoted ('\\' :: c :: cs) =
      (splitQuoted cs).map fun p => ('\\' :: c :: p.1, p.2) := by
  rw [splitQuoted.eq_def]
  rfl

/-- Other characters do not close a quoted text. -/
lemma splitQuoted_cons {c : Char} (hq : c ≠ '"') (hb : c ≠ '\\') (cs : List Char) :
    splitQuoted (c :: cs) = (splitQuoted cs).map fun p => (c :: p.1, p.2) := by
  rw [splitQuoted.eq_def]
  exact (if_neg hq).trans (if_neg hb)

/-- The text that the inside of a quoted text stands for: each backslash that
escapes a character is dropped. -/
def unescape : List Char → List Char
  | [] => []
  | c :: cs =>
    if c = '\\' then
      match cs with
      | [] => []
      | d :: ds => d :: unescape ds
    else c :: unescape cs

/-- An escaped character stands for itself. -/
lemma unescape_escaped (c : Char) (cs : List Char) :
    unescape ('\\' :: c :: cs) = c :: unescape cs := by
  rw [unescape, if_pos rfl]

/-- A character that is no backslash stands for itself. -/
lemma unescape_cons {c : Char} (h : c ≠ '\\') (cs : List Char) :
    unescape (c :: cs) = c :: unescape cs := by
  rw [unescape.eq_def]
  exact if_neg h

/-- A quoted text is its inside, the closing quote, and what follows. -/
lemma eq_of_splitQuoted {cs body rest : List Char}
    (h : splitQuoted cs = some (body, rest)) : cs = body ++ '"' :: rest := by
  fun_induction splitQuoted cs generalizing body rest with
  | case1 => cases h
  | case2 cs => cases h; rfl
  | case3 => cases h
  | case4 d ds _ ih =>
      obtain ⟨⟨b, r⟩, hp, heq⟩ := Option.map_eq_some_iff.mp h
      cases heq
      rw [ih hp]
      rfl
  | case5 c cs hq hb ih =>
      obtain ⟨⟨b, r⟩, hp, heq⟩ := Option.map_eq_some_iff.mp h
      cases heq
      rw [ih hp]
      rfl

namespace Vocabulary

variable (v : Vocabulary)

/-- The lexicon with the keyword table of the words. -/
def lexicon : Lexicon := ⟨Keywords.ofList v.words, v.separators⟩

/-- Separators are no digits and no blanks, and words have neither blanks nor
separators in them. -/
structure Apart : Prop where
  separators : ∀ c ∈ v.separators, c.isDigit = false ∧ isBlank c = false
  words : ∀ w ∈ v.words, ∀ c ∈ w.toList, isBlank c = false ∧ c ∉ v.separators

/-- Whether words and separators keep apart. -/
def isApart : Bool :=
  v.separators.all (fun c => !c.isDigit && !isBlank c) &&
    v.words.all fun w => w.toList.all fun c => !isBlank c && !v.separators.contains c

variable {v} in
lemma Apart.of_isApart (h : v.isApart = true) : v.Apart := by
  simp only [isApart, Bool.and_eq_true, List.all_eq_true, Bool.not_eq_true',
    List.contains_eq_mem, decide_eq_false_iff_not] at h
  exact ⟨h.1, h.2⟩

/-! ### Runs -/

/-- Whether a character belongs to the run that it stands in. -/
def inRun (c : Char) : Bool := !isBlank c && !v.separators.contains c

/-- What a run of characters is: a numeral if it has digits only, a keyword if
it is a word, which then counts by its last position, and a symbol otherwise.
No run may begin with a zero. -/
def classify (run : List Char) : Except NumeralFault Lexeme :=
  if run.head? = some '0' then .error .leadingZero
  else if run.all Char.isDigit then
    if ofDigits run ≤ int64Max then .ok (.number (Int64.ofNat (ofDigits run)))
    else .error .tooLarge
  else if run.head?.any Char.isDigit then .ok (.symbol (String.ofList run))
  else
    match (v.words.idxsOf (String.ofList run)).getLast? with
    | some i => .ok (.operator i)
    | none => .ok (.symbol (String.ofList run))

/-- The token stream of the characters from place `pos` on. -/
def read (pos : Nat) : List Char → TokenStream
  | [] => .done
  | c :: cs =>
    if isBlank c then read (pos + 1) cs
    else if v.separators.contains c then
      .token ⟨.separator c, ⟨pos, pos + 1⟩⟩ (read (pos + 1) cs)
    else if c = '"' then
      match _h : splitQuoted cs with
      | none => .fault (.unclosed pos)
      | some (body, rest) =>
        .token ⟨.string (String.ofList (unescape body)),
          ⟨pos, pos + body.length + 2⟩⟩ (read (pos + body.length + 2) rest)
    else
      let run := c :: cs.takeWhile v.inRun
      match v.classify run with
      | .error f => .fault (.numeral f pos)
      | .ok lexeme =>
        .token ⟨lexeme, ⟨pos, pos + run.length⟩⟩
          (read (pos + run.length) (cs.dropWhile v.inRun))
termination_by cs => cs.length
decreasing_by
  · simp
  · simp
  · have split := congrArg List.length (eq_of_splitQuoted _h)
    simp only [List.length_append, List.length_cons] at split ⊢
    omega
  · have le := (List.dropWhile_suffix v.inRun (l := cs)).length_le
    simp only [List.length_cons]
    omega

/-! ### One token at a time -/

variable {v : Vocabulary} {c : Char} {cs : List Char}

/-- A blank is passed over. -/
lemma read_of_isBlank (blank : isBlank c = true) (pos : Nat) :
    v.read pos (c :: cs) = v.read (pos + 1) cs := by
  rw [read, if_pos blank]

/-- A separator is a token. -/
lemma read_of_contains (blank : ¬isBlank c = true) (sep : v.separators.contains c = true)
    (pos : Nat) :
    v.read pos (c :: cs) =
      .token ⟨.separator c, ⟨pos, pos + 1⟩⟩ (v.read (pos + 1) cs) := by
  rw [read, if_neg blank, if_pos sep]

/-- A quote that is never closed is a fault. -/
lemma read_unclosed (sep : ¬v.separators.contains '"' = true)
    (h : splitQuoted cs = none) (pos : Nat) :
    v.read pos ('"' :: cs) = .fault (.unclosed pos) := by
  rw [read, if_neg (by decide), if_neg sep, if_pos rfl]
  split
  · rfl
  · next closed =>
    rw [h] at closed
    cases closed

/-- A quote that is closed opens a text. -/
lemma read_closed {body rest : List Char} (sep : ¬v.separators.contains '"' = true)
    (h : splitQuoted cs = some (body, rest)) (pos : Nat) :
    v.read pos ('"' :: cs) =
      .token ⟨.string (String.ofList (unescape body)), ⟨pos, pos + body.length + 2⟩⟩
        (v.read (pos + body.length + 2) rest) := by
  rw [read, if_neg (by decide), if_neg sep, if_pos rfl]
  split
  · next closed =>
    rw [h] at closed
    cases closed
  · next closed =>
    rw [h] at closed
    cases closed
    rfl

/-- A run that is refused is a fault. -/
lemma read_refused {f : NumeralFault} (blank : ¬isBlank c = true)
    (sep : ¬v.separators.contains c = true) (hq : c ≠ '"')
    (h : v.classify (c :: cs.takeWhile v.inRun) = .error f) (pos : Nat) :
    v.read pos (c :: cs) = .fault (.numeral f pos) := by
  rw [read, if_neg blank, if_neg sep, if_neg hq]
  simp only [h]

/-- Any other run is what it is as a whole. -/
lemma read_known {l : Lexeme} (blank : ¬isBlank c = true)
    (sep : ¬v.separators.contains c = true) (hq : c ≠ '"')
    (h : v.classify (c :: cs.takeWhile v.inRun) = .ok l) (pos : Nat) :
    v.read pos (c :: cs) =
      .token ⟨l, ⟨pos, pos + (c :: cs.takeWhile v.inRun).length⟩⟩
        (v.read (pos + (c :: cs.takeWhile v.inRun).length) (cs.dropWhile v.inRun)) := by
  rw [read, if_neg blank, if_neg sep, if_neg hq]
  simp only [h]

/-- Behind a maximal run stands no character of a run. -/
lemma head?_dropWhile_inRun (cs : List Char) :
    ∀ d ∈ (cs.dropWhile v.inRun).head?, v.inRun d = false := by
  intro d hd
  have stop := List.head?_dropWhile_not v.inRun cs
  rwa [Option.mem_def.mp hd] at stop

/-- A run is no separator. -/
lemma classify_ne_separator {run : List Char} {lexeme : Lexeme} (c : Char)
    (h : v.classify run = .ok lexeme) : lexeme ≠ .separator c := by
  rintro rfl
  unfold classify at h
  split_ifs at h
  · cases h
  · cases h
  · split at h <;> cases h

/-- Each separator token is a character of the text. -/
lemma countP_separator_read_le (c : Char) (pos : Nat) (cs : List Char) :
    (v.read pos cs).tokens.countP (·.lexeme = .separator c) ≤ cs.count c := by
  fun_induction read v pos cs with
  | case1 => exact Nat.le_refl 0
  | case2 pos d cs _ ih => exact Nat.le_trans ih List.count_le_count_cons
  | case3 pos d cs _ _ ih =>
      rw [TokenStream.tokens, List.countP_cons, List.count_cons]
      by_cases h : d = c
      · simp [h, ih]
      · simp [h, ih]
  | case4 => exact Nat.zero_le _
  | case5 pos cs body rest closed _ _ ih =>
      have suffix : rest <:+ '"' :: cs :=
        ⟨'"' :: body ++ ['"'], by rw [eq_of_splitQuoted closed]; simp⟩
      rw [TokenStream.tokens, List.countP_cons_of_neg (by simp)]
      exact Nat.le_trans ih (suffix.sublist.count_le c)
  | case6 => exact Nat.zero_le _
  | case7 pos d cs _ _ _ run lexeme known ih =>
      have suffix : cs.dropWhile v.inRun <:+ d :: cs :=
        (List.dropWhile_suffix _).trans (List.suffix_cons d cs)
      rw [TokenStream.tokens,
        List.countP_cons_of_neg (by simpa using classify_ne_separator c known)]
      exact Nat.le_trans ih (suffix.sublist.count_le c)

end Vocabulary

end RowFilter
