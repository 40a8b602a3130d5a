/-
Writing tokens with blanks between them, and reading them back.

* `escape`, `Vocabulary.spell`: how a character of a quoted text and a lexeme
  are written.
* `Vocabulary.LaidOut`: lexemes written one after the other, with any blanks
  before and behind each of them.
* `Vocabulary.Spells`: the runs that are read as a given lexeme, among them
  positive numerals (`spells_number`) and the runs of symbols
  (`spells_of_mem_read`).
* `read_blanks`, `read_quoted`, `read_run`: reading what is written in front of
  other characters.
* `LaidOut.read`: lexemes that are laid out are read back, if a separator
  stands behind every run.
-/
import Mathlib.Data.List.Chain
import RowFilter.Proofs.Lexing.Runs

namespace RowFilter

/-! ### Escapes -/

/-- A character inside a quoted text: a quote and a backslash have a backslash
in front of them. -/
def escape (c : Char) : List Char := if c = '"' ∨ c = '\\' then ['\\', c] else [c]

/-- The inside of a quoted text ends where it was written to end. -/
lemma splitQuoted_escape (s rest : List Char) :
    splitQuoted (s.flatMap escape ++ '"' :: rest) = some (s.flatMap escape, rest) := by
  induction s with
  | nil => exact splitQuoted_quote rest
  | cons c s ih =>
      rw [List.flatMap_cons, escape]
      split_ifs with special
      · simp [splitQuoted_escaped, ih]
      · obtain ⟨quote, backslash⟩ := not_or.mp special
        simp [splitQuoted_cons quote backslash, ih]

/-- What is escaped stands for itself. -/
lemma unescape_escape (s : List Char) : unescape (s.flatMap escape) = s := by
  induction s with
  | nil => rfl
  | cons c s ih =>
      rw [List.flatMap_cons, escape]
      split_ifs with special
      · exact (unescape_escaped c _).trans (congrArg (c :: ·) ih)
      · exact (unescape_cons (not_or.mp special).2 _).trans (congrArg (c :: ·) ih)

/-! ### Numerals -/

/-- The digits of a positive number begin with no zero. -/
lemma head?_toDigits_ne {n : Nat} (h : 0 < n) : (Nat.toDigits 10 n).head? ≠ some '0' := by
  induction n using Nat.strongRecOn with
  | _ n ih =>
      rw [Nat.toDigits_eq_if (by decide)]
      split_ifs with small
      · simp [Nat.digitChar_eq_zero, Nat.ne_of_gt h]
      · rw [List.head?_append_of_ne_nil _ Nat.toDigits_ne_nil]
        exact ih (n / 10) (by omega) (by omega)

/-! ### Layout -/

/-- Behind a run stands a separator. Anything may stand behind other lexemes. -/
def Lexeme.Parted : Lexeme → Lexeme → Prop
  | .separator _, _ | .string _, _ => True
  | .number _, l | .operator _, l | .symbol _, l => ∃ c, l = .separator c

namespace Vocabulary

/-- How a lexeme is written: a number in decimal digits, a text in quotes, a
keyword as its word. -/
def spell (v : Vocabulary) : Lexeme → List Char
  | .number n => (toString n.toInt).toList
  | .string s => '"' :: (s.toList.flatMap escape ++ ['"'])
  | .separator c => [c]
  | .operator i => (v.words.getD i "").toList
  | .symbol s => s.toList

/-- Lexemes that are written one after the other, with any blanks before and
behind each of them. -/
inductive LaidOut (v : Vocabulary) : List Lexeme → List Char → Prop where
  | nil {blanks : List Char} :
      (∀ c ∈ blanks, isBlank c = true) → LaidOut v [] blanks
  | cons {blanks cs : List Char} {l : Lexeme} {ls : List Lexeme} :
      (∀ c ∈ blanks, isBlank c = true) → LaidOut v ls cs →
      LaidOut v (l :: ls) (blanks ++ (v.spell l ++ cs))

/-- The runs of characters that are read as a lexeme. -/
structure Spells (v : Vocabulary) (run : List Char) (l : Lexeme) : Prop where
  known : v.classify run = .ok l
  inside : ∀ c ∈ run, v.inRun c = true
  unquoted : run.head?.any (· ≠ '"') = true

variable {v : Vocabulary}

/-- Lexemes can be written without blanks in front of others. -/
lemma LaidOut.append_left {ms : List Lexeme} {cs : List Char} (h : v.LaidOut ms cs)
    (ls : List Lexeme) : v.LaidOut (ls ++ ms) (ls.flatMap v.spell ++ cs) := by
  induction ls with
  | nil => exact h
  | cons l ls ih =>
      rw [List.flatMap_cons, List.append_assoc]
      exact @LaidOut.cons v [] _ l _ (List.forall_mem_nil _) ih

/-- Lexemes can be written without blanks. -/
lemma laidOut_flatMap (ls : List Lexeme) : v.LaidOut ls (ls.flatMap v.spell) := by
  simpa using (LaidOut.nil (v := v) (List.forall_mem_nil _)).append_left ls

/-! ### Reading what is written -/

/-- Blanks are passed over. -/
lemma read_blanks {blanks : List Char} (h : ∀ c ∈ blanks, isBlank c = true)
    (pos : Nat) (cs : List Char) :
    v.read pos (blanks ++ cs) = v.read (pos + blanks.length) cs := by
  induction blanks generalizing pos with
  | nil => rfl
  | cons c blanks ih =>
      rw [List.cons_append, read_of_isBlank (h c (by simp)),
        ih fun d hd => h d (by simp [hd])]
      simp [Nat.add_assoc, Nat.add_comm 1]

/-- A separator is a token. -/
lemma read_separator (hv : v.Apart) {c : Char} (h : c ∈ v.separators) (pos : Nat)
    (cs : List Char) :
    v.read pos (c :: cs) =
      .token ⟨.separator c, ⟨pos, pos + 1⟩⟩ (v.read (pos + 1) cs) :=
  read_of_contains (by simp [(hv.separators c h).2]) (by simpa using h) pos

/-- A quoted text is a token. -/
lemma read_quoted (hq : '"' ∉ v.separators) (s : String) (pos : Nat) (cs : List Char) :
    ∃ span stop, v.read pos (v.spell (.string s) ++ cs) =
      .token ⟨.string s, span⟩ (v.read stop cs) := by
  have closed := splitQuoted_escape s.toList cs
  refine ⟨⟨pos, pos + (s.toList.flatMap escape).length + 2⟩,
    pos + (s.toList.flatMap escape).length + 2, ?_⟩
  have written : v.spell (.string s) ++ cs =
      '"' :: (s.toList.flatMap escape ++ '"' :: cs) := by
    simp [spell]
  rw [written, read_closed (by simpa using hq) closed, unescape_escape,
    String.ofList_toList]

/-- A run in front of a blank, a separator or nothing is a token. -/
lemma read_run {run : List Char} {l : Lexeme} (h : v.Spells run l) (pos : Nat)
    {cs : List Char} (hcs : ∀ d ∈ cs.head?, v.inRun d = false) :
    v.read pos (run ++ cs) =
      .token ⟨l, ⟨pos, pos + run.length⟩⟩ (v.read (pos + run.length) cs) := by
  obtain ⟨c, hc, hq⟩ := (Option.any_eq_true _ _).mp h.unquoted
  obtain ⟨run, rfl⟩ := List.head?_eq_some_iff.mp hc
  obtain ⟨first, rest⟩ := List.forall_mem_cons.mp h.inside
  have ends : cs.takeWhile v.inRun = [] ∧ cs.dropWhile v.inRun = cs := by
    cases cs with
    | nil => exact ⟨rfl, rfl⟩
    | cons d cs => simp [hcs d rfl]
  have taken : (run ++ cs).takeWhile v.inRun = run := by
    rw [List.takeWhile_append_of_pos rest, ends.1, List.append_nil]
  have dropped : (run ++ cs).dropWhile v.inRun = cs := by
    rw [List.dropWhile_append_of_pos rest, ends.2]
  have blank : ¬isBlank c = true ∧ ¬v.separators.contains c = true := by
    simpa [inRun] using first
  have known : v.classify (c :: (run ++ cs).takeWhile v.inRun) = .ok l := by
    rw [taken, h.known]
  rw [List.cons_append, read_known blank.1 blank.2 (by simpa using hq) known, taken,
    dropped]

/-! ### Runs that are one token -/

/-- A positive number is written as a run. -/
lemma spells_number (hv : v.Apart) {n : Int64} (h : 0 < n.toInt) :
    v.Spells (v.spell (.number n)) (.number n) := by
  obtain ⟨k, hk⟩ := Int.eq_ofNat_of_zero_le (Int.le_of_lt h)
  have positive : 0 < k := by omega
  have written : v.spell (.number n) = Nat.toDigits 10 k := by
    rw [spell, hk]
    exact toList_toString k
  have digits : ∀ c ∈ Nat.toDigits 10 k, c.isDigit = true :=
    fun _ => isDigit_of_mem_toDigits
  have fits : k ≤ int64Max := by
    have bound := n.toInt_lt
    rw [int64Max]
    omega
  have back : Int64.ofNat k = n := by
    rw [← Int64.ofInt_eq_ofNat, ← hk, Int64.ofInt_toInt]
  rw [written]
  refine ⟨?_, ?_, ?_⟩
  · have all : (Nat.toDigits 10 k).all Char.isDigit = true := List.all_eq_true.mpr digits
    rw [classify, if_neg (head?_toDigits_ne positive), if_pos all, ofDigits_toDigits,
      if_pos fits, back]
  · intro c hc
    have digit := digits c hc
    have sep : c ∉ v.separators := by
      intro hmem
      rw [(hv.separators c hmem).1] at digit
      cases digit
    simp [inRun, isBlank_eq_false_of_isDigit digit, sep]
  · obtain ⟨c, cs, hcs⟩ :=
      List.exists_cons_of_ne_nil (Nat.toDigits_ne_nil (n := k) (b := 10))
    have hq : c ≠ '"' := by
      rintro rfl
      exact absurd (digits '"' (by simp [hcs])) (by decide)
    simp [hcs, hq]

/-- A run that is classified as a symbol is that symbol. -/
lemma eq_of_classify_symbol {run : List Char} {name : String}
    (h : v.classify run = .ok (.symbol name)) : name = String.ofList run := by
  unfold classify at h
  split_ifs at h
  · cases h
  · cases h
    rfl
  · split at h
    · cases h
    · cases h
      rfl

/-- A run that is known, as a whole, spells what it is known as. -/
lemma spells_takeWhile {c : Char} {cs : List Char} {l : Lexeme} (blank : ¬isBlank c = true)
    (sep : ¬v.separators.contains c = true) (hq : c ≠ '"')
    (known : v.classify (c :: cs.takeWhile v.inRun) = .ok l) :
    v.Spells (c :: cs.takeWhile v.inRun) l where
  known := known
  inside := List.forall_mem_cons.mpr
    ⟨by simpa [inRun, blank] using sep, List.all_eq_true.mp List.all_takeWhile⟩
  unquoted := by simp [hq]

/-- A symbol among the tokens of a text is read from a run of that symbol. -/
lemma spells_of_mem_read {name : String} {span : Span} {pos : Nat} {cs : List Char}
    (h : ⟨.symbol name, span⟩ ∈ (v.read pos cs).tokens) :
    v.Spells name.toList (.symbol name) := by
  fun_induction read v pos cs with
  | case1 | case4 | case6 => cases h
  | case2 pos c cs blank ih => exact ih h
  | case3 pos c cs _ _ ih => exact ih (List.mem_of_ne_of_mem (by simp) h)
  | case5 pos cs body rest _ _ _ ih => exact ih (List.mem_of_ne_of_mem (by simp) h)
  | case7 pos c cs blank sep hq run lexeme known ih =>
      rcases List.mem_cons.mp h with first | later
      · obtain rfl : lexeme = .symbol name := by
          cases first
          rfl
        have spelled : name.toList = run := by simp [eq_of_classify_symbol known]
        rw [spelled]
        exact spells_takeWhile blank sep hq known
      · exact ih later

/-- What is read as a symbol is a run of that symbol, wherever it stands. -/
lemma spells_of_read {name : String} {span : Span} {rest : TokenStream} {pos : Nat}
    {cs : List Char} (h : v.read pos cs = .token ⟨.symbol name, span⟩ rest) :
    v.Spells (v.spell (.symbol name)) (.symbol name) := by
  have listed : ⟨.symbol name, span⟩ ∈ (v.read pos cs).tokens := by
    rw [h]
    exact List.mem_cons_self
  exact spells_of_mem_read listed

/-! ### Reading back -/

/-- Lexemes that are written so that they can be read. -/
def Legible (v : Vocabulary) : Lexeme → Prop
  | .separator c => c ∈ v.separators
  | .string _ => '"' ∉ v.separators
  | l => v.Spells (v.spell l) l

/-- In front of nothing, and of a separator, a run ends. -/
lemma LaidOut.not_inRun_head {ls : List Lexeme} {cs : List Char} (h : v.LaidOut ls cs)
    (hls : ∀ l ∈ ls.head?, ∃ c ∈ v.separators, l = .separator c) :
    ∀ d ∈ cs.head?, v.inRun d = false := by
  have blank_head : ∀ {blanks rest : List Char},
      (∀ c ∈ blanks, isBlank c = true) → (∀ d ∈ rest.head?, v.inRun d = false) →
      ∀ d ∈ (blanks ++ rest).head?, v.inRun d = false := by
    intro blanks rest hblanks hrest
    cases blanks with
    | nil => exact hrest
    | cons c blanks =>
        rintro d ⟨⟩
        simp [inRun, hblanks c (by simp)]
  cases h with
  | @nil blanks hblanks =>
      rw [← List.append_nil cs]
      exact blank_head hblanks (by simp)
  | cons hblanks _ =>
      obtain ⟨c, hc, rfl⟩ := hls _ rfl
      refine blank_head hblanks ?_
      rintro d ⟨⟩
      simp [inRun, hc]

/-- Lexemes that are laid out are read back. -/
theorem LaidOut.read (hv : v.Apart) {ls : List Lexeme} {cs : List Char}
    (h : v.LaidOut ls cs) (legible : ∀ l ∈ ls, v.Legible l)
    (parted : ls.IsChain Lexeme.Parted) (pos : Nat) :
    (v.read pos cs).fault? = none ∧ (v.read pos cs).tokens.map Token.lexeme = ls := by
  induction h generalizing pos with
  | @nil blanks hblanks =>
      have none : v.read pos blanks = .done := by
        rw [← List.append_nil blanks, read_blanks hblanks, Vocabulary.read]
      rw [none]
      exact ⟨rfl, rfl⟩
  | @cons blanks cs l ls hblanks hrest ih =>
      obtain ⟨first, others⟩ := List.forall_mem_cons.mp legible
      have next := ih others parted.tail
      rw [read_blanks hblanks]
      -- whatever the lexeme is, its token comes first, and the others follow
      suffices ∃ span stop, v.read (pos + blanks.length) (v.spell l ++ cs) =
          .token ⟨l, span⟩ (v.read stop cs) by
        obtain ⟨span, stop, hread⟩ := this
        obtain ⟨whole, tokens⟩ := next stop
        rw [hread]
        exact ⟨whole, by rw [TokenStream.tokens, List.map_cons, tokens]⟩
      cases l with
      | separator c => exact ⟨_, _, read_separator hv first _ cs⟩
      | string s => exact read_quoted first s _ cs
      | number | operator | symbol =>
          refine ⟨_, _, read_run first _ (hrest.not_inRun_head fun l hl => ?_)⟩
          obtain ⟨c, rfl⟩ := parted.rel_head? hl
          have known : v.Legible (.separator c) := others _ (List.mem_of_mem_head? hl)
          exact ⟨c, known, rfl⟩

end Vocabulary

end RowFilter
