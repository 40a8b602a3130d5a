/-
Scanning finds maximal runs.

* `scan_quotation`: a quoted text is scanned up to its closing quote.
* `Vocabulary.Runs`, `scan_eq_close`: what is pending inside a run becomes a
  token where the run ends.
* `scan_symbol`, `scan_numeral`, `scan_walk`: the characters of a run, one
  after the other.
* `scan_run`: a run becomes what it is as a whole.
* `tokenize_eq_read`: scanning a text finds its tokens by maximal runs, or the
  same fault.
-/
import RowFilter.Operator
import RowFilter.Proofs.Keywords
import RowFilter.Proofs.Lexing.Runs

namespace RowFilter

open Lexicon (scan)

/-! ### Quoted texts -/

/-- A quoted text is scanned up to its closing quote. -/
lemma scan_quotation (lex : Lexicon) (start pos : Nat) (read cs : List Char) :
    lex.scan (.quotation start read false) pos cs =
      match splitQuoted cs with
      | none => .fault (.unclosed start)
      | some (body, rest) =>
        .token ⟨.string (Pending.textOf ((unescape body).reverse ++ read)),
          ⟨start, pos + body.length + 1⟩⟩
          (lex.scan .idle (pos + body.length + 1) rest) := by
  fun_induction splitQuoted cs generalizing pos read with
  | case1 => rfl
  | case2 cs => simp [scan, unescape]
  | case3 => simp [scan, Pending.close]
  | case4 d ds _ ih =>
      have next : lex.scan (.quotation start read false) pos ('\\' :: d :: ds) =
          lex.scan (.quotation start (d :: read) false) (pos + 2) ds := by
        simp [scan]
      rw [next, ih]
      cases splitQuoted ds with
      | none => rfl
      | some p =>
          have shift : pos + 2 + p.1.length + 1 = pos + ('\\' :: d :: p.1).length + 1 := by
            simp only [List.length_cons]
            omega
          simp [unescape_escaped, shift]
  | case5 c cs hq hb ih =>
      have next : lex.scan (.quotation start read false) pos (c :: cs) =
          lex.scan (.quotation start (c :: read) false) (pos + 1) cs := by
        simp [scan, hq, hb]
      rw [next, ih]
      cases splitQuoted cs with
      | none => rfl
      | some p =>
          have shift : pos + 1 + p.1.length + 1 = pos + (c :: p.1).length + 1 := by
            simp only [List.length_cons]
            omega
          simp [unescape_cons hb, shift]

/-! ### The end of a run -/

namespace Pending

/-- A run that has led to a node of the keyword table, or out of the table. -/
def ofWalk (start : Nat) (read : List Char) : Option Keywords → Pending
  | some node => .keyword start read node
  | none => .symbol start read

/-- At its end, such a run becomes the keyword that it leads to, or a
symbol. -/
lemma close_ofWalk (start stop : Nat) (read : List Char) (node : Option Keywords)
    (rest : TokenStream) :
    (ofWalk start read node).close stop rest =
      .token ⟨match node.bind Keywords.indexAt? with
        | some i => .operator i
        | none => .symbol (textOf read), ⟨start, stop⟩⟩ rest := by
  cases node with
  | none => rfl
  | some node =>
      rw [ofWalk, close, Option.bind_some]
      cases Keywords.indexAt? node <;> rfl

end Pending

namespace Vocabulary

variable {v : Vocabulary}

/-- The keyword table leads on by characters of runs only. -/
lemma Apart.spelledIn (hv : v.Apart) :
    v.lexicon.keywords.SpelledIn (v.inRun · = true) := by
  refine Keywords.spelledIn_ofList fun w hw c hc => ?_
  obtain ⟨blank, sep⟩ := hv.words w hw c hc
  simp [inRun, blank, sep]

/-- What is pending inside a run. -/
def Runs (v : Vocabulary) : Pending → Prop
  | .numeral _ _ | .symbol _ _ => True
  | .keyword _ _ node => node.SpelledIn (v.inRun · = true)
  | .idle | .quotation _ _ _ => False

/-- What ends a run is a blank or a separator, and none of both is a digit. -/
lemma Apart.cases_of_not_inRun (hv : v.Apart) {c : Char} (h : v.inRun c = false) :
    c.isDigit = false ∧
      ((isBlank c = true ∧ v.lexicon.isSeparator c = false) ∨
        (isBlank c = false ∧ v.lexicon.isSeparator c = true)) := by
  by_cases sep : c ∈ v.separators
  · obtain ⟨digit, blank⟩ := hv.separators c sep
    exact ⟨digit, .inr ⟨blank, by simpa [Lexicon.isSeparator, lexicon] using sep⟩⟩
  · have blank : isBlank c = true := by simpa [inRun, sep] using h
    refine ⟨?_, .inl ⟨blank, by simpa [Lexicon.isSeparator, lexicon] using sep⟩⟩
    cases digit : c.isDigit with
    | false => rfl
    | true => rw [isBlank_eq_false_of_isDigit digit] at blank; cases blank

/-- No character outside of runs leads on from a table whose paths are in
runs. -/
lemma child?_eq_none {node : Keywords} (h : node.SpelledIn (v.inRun · = true))
    {c : Char} (hc : v.inRun c = false) : node.child? c = none := by
  cases child : node.child? c with
  | none => rfl
  | some u =>
      have inside := (h.child child).1
      rw [hc] at inside
      cases inside

/-- What is pending inside a run becomes a token where the run ends, and what
ends the run is scanned next. -/
lemma scan_eq_close (hv : v.Apart) {p : Pending} (hp : v.Runs p) (pos : Nat)
    {cs : List Char} (h : ∀ c ∈ cs.head?, v.inRun c = false) :
    v.lexicon.scan p pos cs = p.close pos (v.lexicon.scan .idle pos cs) := by
  cases cs with
  | nil => cases p <;> rfl
  | cons c cs =>
      have outside := h c rfl
      obtain ⟨digit, ⟨blank, sep⟩ | ⟨blank, sep⟩⟩ := hv.cases_of_not_inRun outside
      · have none := child?_eq_none hv.spelledIn outside
        rw [v.lexicon.scan_idle_blank blank sep none]
        cases p with
        | idle | quotation => exact hp.elim
        | numeral start read => simp [scan, digit, blank]
        | symbol start read => simp [scan, sep, blank]
        | keyword start read node =>
            simp [scan, child?_eq_none hp outside, blank]
      · rw [v.lexicon.scan_idle_separator sep]
        cases p with
        | idle | quotation => exact hp.elim
        | numeral start read => simp [scan, digit, blank, sep]
        | symbol start read => simp [scan, sep]
        | keyword start read node =>
            simp [scan, child?_eq_none hp outside, blank, sep]

/-! ### The characters of a run -/

/-- The characters of runs are neither blanks nor separators. -/
lemma inRun_iff {c : Char} :
    v.inRun c = true ↔ isBlank c = false ∧ v.lexicon.isSeparator c = false := by
  simp [inRun, Lexicon.isSeparator, lexicon]

/-- A symbol goes on to the end of its run. -/
lemma scan_symbol {run : List Char} (h : ∀ c ∈ run, v.inRun c = true)
    (start pos : Nat) (read cs : List Char) :
    v.lexicon.scan (.symbol start read) pos (run ++ cs) =
      v.lexicon.scan (.symbol start (run.reverse ++ read)) (pos + run.length) cs := by
  induction run generalizing pos read with
  | nil => rfl
  | cons c run ih =>
      obtain ⟨blank, sep⟩ := inRun_iff.mp (h c (by simp))
      have next : v.lexicon.scan (.symbol start read) pos (c :: (run ++ cs)) =
          v.lexicon.scan (.symbol start (c :: read)) (pos + 1) (run ++ cs) := by
        simp [scan, blank, sep]
      rw [List.cons_append, next, ih fun d hd => h d (by simp [hd])]
      simp [Nat.add_assoc, Nat.add_comm 1]

/-- A numeral goes on to the end of its run if only digits are left there, and
becomes a symbol otherwise. -/
lemma scan_numeral {run : List Char} (h : ∀ c ∈ run, v.inRun c = true)
    (start pos : Nat) (read cs : List Char) :
    v.lexicon.scan (.numeral start read) pos (run ++ cs) =
      v.lexicon.scan
        (if run.all Char.isDigit then .numeral start (run.reverse ++ read)
          else .symbol start (run.reverse ++ read)) (pos + run.length) cs := by
  induction run generalizing pos read with
  | nil => rfl
  | cons c run ih =>
      obtain ⟨blank, sep⟩ := inRun_iff.mp (h c (by simp))
      have rest := fun d hd => h d (List.mem_cons_of_mem c hd)
      cases digit : c.isDigit with
      | true =>
          have next : v.lexicon.scan (.numeral start read) pos (c :: (run ++ cs)) =
              v.lexicon.scan (.numeral start (c :: read)) (pos + 1) (run ++ cs) := by
            simp [scan, digit]
          rw [List.cons_append, next, ih rest]
          simp [digit, Nat.add_assoc, Nat.add_comm 1]
      | false =>
          have next : v.lexicon.scan (.numeral start read) pos (c :: (run ++ cs)) =
              v.lexicon.scan (.symbol start (c :: read)) (pos + 1) (run ++ cs) := by
            simp [scan, digit, blank, sep]
          rw [List.cons_append, next, scan_symbol rest]
          simp [digit, Nat.add_assoc, Nat.add_comm 1]

/-- A run that has led to a node of the keyword table or out of the table
leads on from there. -/
lemma scan_walk {run : List Char} (h : ∀ c ∈ run, v.inRun c = true)
    (start pos : Nat) (read cs : List Char) (node : Option Keywords) :
    v.lexicon.scan (.ofWalk start read node) pos (run ++ cs) =
      v.lexicon.scan (.ofWalk start (run.reverse ++ read) (node.bind (·.find? run)))
        (pos + run.length) cs := by
  cases node with
  | none => exact scan_symbol h start pos read cs
  | some node =>
      induction run generalizing pos read node with
      | nil => rfl
      | cons c run ih =>
          obtain ⟨blank, sep⟩ := inRun_iff.mp (h c (by simp))
          have rest := fun d hd => h d (List.mem_cons_of_mem c hd)
          have next : v.lexicon.scan (.ofWalk start read (some node)) pos (c :: (run ++ cs)) =
              v.lexicon.scan (.ofWalk start (c :: read) (node.child? c)) (pos + 1)
                (run ++ cs) := by
            cases hc : node.child? c <;> simp [Pending.ofWalk, scan, hc, blank, sep]
          rw [List.cons_append, next]
          cases hc : node.child? c with
          | none =>
              have out := scan_symbol rest start (pos + 1) (c :: read) cs
              simpa [Pending.ofWalk, Trie.find?, hc, Nat.add_assoc, Nat.add_comm 1] using out
          | some u =>
              rw [ih rest]
              simp [Trie.find?, hc, Nat.add_assoc, Nat.add_comm 1]

/-- A run that begins with no digit becomes the keyword that it leads to, or a
symbol. -/
lemma scan_word (hv : v.Apart) {c : Char} {run : List Char}
    (h : ∀ d ∈ c :: run, v.inRun d = true) (hq : c ≠ '"') (digit : c.isDigit = false)
    (pos : Nat) {cs : List Char} (hcs : ∀ d ∈ cs.head?, v.inRun d = false) :
    v.lexicon.scan .idle pos (c :: (run ++ cs)) =
      .token ⟨match (v.lexicon.keywords.find? (c :: run)).bind Keywords.indexAt? with
          | some i => .operator i
          | none => .symbol (String.ofList (c :: run)), ⟨pos, pos + run.length + 1⟩⟩
        (v.lexicon.scan .idle (pos + run.length + 1) cs) := by
  obtain ⟨blank, sep⟩ := inRun_iff.mp (h c (by simp))
  have first : v.lexicon.scan .idle pos (c :: (run ++ cs)) =
      v.lexicon.scan (.ofWalk pos [c] (v.lexicon.keywords.child? c)) (pos + 1)
        (run ++ cs) := by
    cases hc : v.lexicon.keywords.child? c <;>
      simp [Pending.ofWalk, scan, hc, sep, hq, digit, blank]
  have walk : (v.lexicon.keywords.child? c).bind (·.find? run) =
      v.lexicon.keywords.find? (c :: run) := rfl
  have runs : v.Runs (.ofWalk pos (run.reverse ++ [c])
      (v.lexicon.keywords.find? (c :: run))) := by
    cases hu : v.lexicon.keywords.find? (c :: run) with
    | none => trivial
    | some u => exact hv.spelledIn.find hu
  have rest := fun d hd => h d (List.mem_cons_of_mem c hd)
  rw [first, scan_walk rest, walk, scan_eq_close hv runs _ hcs, Pending.close_ofWalk]
  simp [Pending.textOf, Nat.add_right_comm _ 1]

/-- A run that begins with a digit other than zero becomes a numeral or a
symbol. -/
lemma scan_digit (hv : v.Apart) {c : Char} {run : List Char}
    (h : ∀ d ∈ c :: run, v.inRun d = true) (digit : c.isDigit = true) (hz : c ≠ '0')
    (pos : Nat) {cs : List Char} (hcs : ∀ d ∈ cs.head?, v.inRun d = false) :
    v.lexicon.scan .idle pos (c :: (run ++ cs)) =
      (if run.all Char.isDigit then Pending.numeral pos (run.reverse ++ [c])
        else .symbol pos (run.reverse ++ [c])).close (pos + run.length + 1)
        (v.lexicon.scan .idle (pos + run.length + 1) cs) := by
  obtain ⟨blank, sep⟩ := inRun_iff.mp (h c (by simp))
  have hq : c ≠ '"' := by rintro rfl; exact absurd digit (by decide)
  have first : v.lexicon.scan .idle pos (c :: (run ++ cs)) =
      v.lexicon.scan (.numeral pos [c]) (pos + 1) (run ++ cs) := by
    simp [scan, sep, hq, digit, hz]
  have runs : v.Runs (if run.all Char.isDigit then .numeral pos (run.reverse ++ [c])
      else .symbol pos (run.reverse ++ [c])) := by
    split <;> trivial
  have rest := fun d hd => h d (List.mem_cons_of_mem c hd)
  rw [first, scan_numeral rest, scan_eq_close hv runs _ hcs, Nat.add_right_comm]

/-- A run becomes what it is as a whole. -/
lemma scan_run (hv : v.Apart) {c : Char} {run : List Char}
    (h : ∀ d ∈ c :: run, v.inRun d = true) (hq : c ≠ '"') (pos : Nat) {cs : List Char}
    (hcs : ∀ d ∈ cs.head?, v.inRun d = false) :
    v.lexicon.scan .idle pos (c :: (run ++ cs)) =
      match v.classify (c :: run) with
      | .error f => .fault (.numeral f pos)
      | .ok lexeme =>
        .token ⟨lexeme, ⟨pos, pos + run.length + 1⟩⟩
          (v.lexicon.scan .idle (pos + run.length + 1) cs) := by
  cases digit : c.isDigit with
  | false =>
      have hz : c ≠ '0' := by rintro rfl; exact absurd digit (by decide)
      have known : (v.lexicon.keywords.find? (c :: run)).bind Keywords.indexAt? =
          (v.words.idxsOf (String.ofList (c :: run))).getLast? :=
        Keywords.find?_bind_indexAt?
      rw [scan_word hv h hq digit pos hcs, known, classify]
      cases (v.words.idxsOf (String.ofList (c :: run))).getLast? <;> simp [digit, hz]
  | true =>
      by_cases hz : c = '0'
      · subst hz
        obtain ⟨_, sep⟩ := inRun_iff.mp (h '0' (by simp))
        simp [scan, classify, sep]
      · rw [scan_digit hv h digit hz pos hcs, classify]
        by_cases all : run.all Char.isDigit = true
        · by_cases fits : ofDigits (c :: run) ≤ int64Max <;>
            simp [all, digit, hz, Pending.close, fits]
        · simp [all, digit, hz, Pending.close, Pending.textOf]

/-! ### Whole texts -/

/-- A run becomes a token at its greatest length. -/
lemma scan_maximal (hv : v.Apart) {c : Char} {cs : List Char}
    (blank : ¬isBlank c = true) (sep : ¬v.separators.contains c = true) (hq : c ≠ '"')
    (pos : Nat) :
    v.lexicon.scan .idle pos (c :: cs) =
      match v.classify (c :: cs.takeWhile v.inRun) with
      | .error f => .fault (.numeral f pos)
      | .ok lexeme =>
        .token ⟨lexeme, ⟨pos, pos + (cs.takeWhile v.inRun).length + 1⟩⟩
          (v.lexicon.scan .idle (pos + (cs.takeWhile v.inRun).length + 1)
            (cs.dropWhile v.inRun)) := by
  have inside : ∀ d ∈ c :: cs.takeWhile v.inRun, v.inRun d = true := by
    intro d hd
    cases hd with
    | head => simpa [inRun, blank] using sep
    | tail _ hd => exact List.all_eq_true.mp List.all_takeWhile d hd
  have scanned := scan_run hv inside hq pos (head?_dropWhile_inRun cs)
  rwa [List.takeWhile_append_dropWhile] at scanned

/-- Between tokens, scanning finds the tokens by maximal runs. -/
lemma scan_eq_read (hv : v.Apart) (pos : Nat) (cs : List Char) :
    v.lexicon.scan .idle pos cs = v.read pos cs := by
  fun_induction v.read pos cs with
  | case1 => rfl
  | case2 pos c cs blank ih =>
      have outside : v.inRun c = false := by simp [inRun, blank]
      have sep : v.lexicon.isSeparator c = false := by
        obtain ⟨_, ⟨_, sep⟩ | ⟨none, _⟩⟩ := hv.cases_of_not_inRun outside
        · exact sep
        · rw [blank] at none; cases none
      rw [Lexicon.scan_idle_blank _ blank sep (child?_eq_none hv.spelledIn outside), ih]
  | case3 pos c cs _ sep ih =>
      rw [v.lexicon.scan_idle_separator sep, ih]
      rfl
  | case4 pos cs unclosed _ sep =>
      have opening : v.lexicon.scan .idle pos ('"' :: cs) =
          v.lexicon.scan (.quotation pos [] false) (pos + 1) cs := by
        simp_all [scan, Lexicon.isSeparator, lexicon]
      rw [opening, scan_quotation, unclosed]
  | case5 pos cs body rest closed _ sep ih =>
      have opening : v.lexicon.scan .idle pos ('"' :: cs) =
          v.lexicon.scan (.quotation pos [] false) (pos + 1) cs := by
        simp_all [scan, Lexicon.isSeparator, lexicon]
      have shift : pos + 1 + body.length + 1 = pos + body.length + 2 := by omega
      rw [opening, scan_quotation, closed]
      simp [shift, ih, Pending.textOf]
  | case6 pos c cs blank sep hq run f hf =>
      have refused : v.classify (c :: cs.takeWhile v.inRun) = .error f := hf
      rw [scan_maximal hv blank sep hq, refused]
  | case7 pos c cs blank sep hq run lexeme hl ih =>
      have known : v.classify (c :: cs.takeWhile v.inRun) = .ok lexeme := hl
      rw [scan_maximal hv blank sep hq, known]
      exact congrArg _ ih

/-- Scanning a text finds its tokens by maximal runs, each at its span, or the
same fault after the same tokens. -/
theorem tokenize_eq_read (hv : v.Apart) (text : String) :
    v.lexicon.tokenize text = v.read 0 text.toList :=
  scan_eq_read hv 0 text.toList

/-- A vocabulary in which one word begins another, and one stands twice. -/
def membership : Vocabulary := ⟨["IN", "INTO", "IN"], ['(', ')', ',']⟩

/-- Of equal words the last counts, and a run that goes on beyond a word or
after digits is a symbol. -/
theorem tokenize_membership :
    membership.Apart ∧
      membership.lexicon.tokenize "INT IN(7, 7a" =
        membership.read 0 "INT IN(7, 7a".toList ∧
      membership.lexicon.tokenize "INT IN(7, 7a" =
        .token ⟨.symbol "INT", ⟨0, 3⟩⟩
          (.token ⟨.operator 2, ⟨4, 6⟩⟩
            (.token ⟨.separator '(', ⟨6, 7⟩⟩
              (.token ⟨.number 7, ⟨7, 8⟩⟩
                (.token ⟨.separator ',', ⟨8, 9⟩⟩
                  (.token ⟨.symbol "7a", ⟨10, 12⟩⟩ .done))))) := by
  have apart : membership.Apart := .of_isApart (by decide)
  exact ⟨apart, tokenize_eq_read apart "INT IN(7, 7a", by decide⟩

end Vocabulary

/-! ### Filters -/

/-- The words and separators of the filter language. -/
def filterVocabulary : Vocabulary :=
  ⟨Operator.all.map Operator.keyword, filterSeparators⟩

lemma filterVocabulary_apart : filterVocabulary.Apart := .of_isApart (by decide)

/-- The token stream of a filter by maximal runs. -/
lemma filterLexicon_tokenize (text : String) :
    filterLexicon.tokenize text = filterVocabulary.read 0 text.toList :=
  Vocabulary.scan_eq_read filterVocabulary_apart 0 text.toList

end RowFilter
