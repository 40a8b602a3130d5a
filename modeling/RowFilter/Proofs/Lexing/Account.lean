/-
Every character of a text is accounted for, whatever its words and separators.

* `Vocabulary.Matches`: what a lexeme looks like in a text.
* `Vocabulary.Begins`, `Vocabulary.IsRun`: beginnings of words, and the runs of
  characters that numerals, keywords and symbols are read from.
* `Vocabulary.TakesBlank`: lexemes with which a blank behind them is read.
* `Vocabulary.Covers`: a lexeme and the characters that it is read from.
* `Vocabulary.Pends`: what is pending behind the characters of a run.
* `Pends.close_cases`, `Pends.scan_cases`, `scan_idle_cases`: what becomes of it
  where the run ends, and what one more character does.
* `Vocabulary.Accounts`: a stream that accounts for each character of a text.
* `accounts_tokenize`: the token stream of a text does.
-/
import RowFilter.Proofs.Lexing.Scan
import RowFilter.Proofs.Lexing.Spacing

namespace RowFilter

open Lexicon (scan)

/-- Whether a lexeme is read from a run of characters. -/
def Lexeme.isRun : Lexeme → Bool
  | .number _ | .operator _ | .symbol _ => true
  | .separator _ | .string _ => false

/-- Whether a blank that ends what is pending is read with it, even if the blank is a
separator. -/
def Pending.takesBlank : Pending → Bool
  | .numeral _ _ | .keyword _ _ _ => true
  | .idle | .quotation _ _ _ | .symbol _ _ => false

/-- A fault at a character: a numeral begins with a digit, and with zero if that is
what is wrong with it; a text that is never closed begins with a quote. -/
def LexFault.Begins : LexFault → Char → Prop
  | .numeral fault _, c => c.isDigit = true ∧ (c = '0' ↔ fault = .leadingZero)
  | .unclosed _, c => c = '"'

namespace Vocabulary

/-! ### Lexemes and what they are read from -/

section Specification

variable (v : Vocabulary)

/-- What a lexeme looks like in a text. -/
def Matches : Lexeme → List Char → Prop
  | .symbol s, here => here = s.toList
  | .operator i, here =>
    v.words[i]? = some (String.ofList here) ∧
      ∀ j, i < j → v.words[j]? ≠ some (String.ofList here)
  | .separator c, here => c ∈ v.separators ∧ here = [c]
  | .number n, here =>
    (∀ d ∈ here, d.isDigit = true) ∧ here.head? ≠ some '0' ∧ n.toInt = ofDigits here
  | .string s, here =>
    ∃ body, here = '"' :: (body ++ ['"']) ∧
      splitQuoted (body ++ ['"']) = some (body, []) ∧ s = String.ofList (unescape body)

/-- Some word begins with the characters. -/
def Begins (cs : List Char) : Prop := ∃ w ∈ v.words, cs <+: w.toList

/-- The runs of characters. No run begins with a separator, and a separator further
back in it is one of its first digits, or goes on with a word. -/
structure IsRun (run : List Char) : Prop where
  nonempty : run ≠ []
  first : ∀ c ∈ run.head?, c ∉ v.separators
  later : ∀ front c, front ++ [c] <+: run → c ∈ v.separators →
    (∀ d ∈ front ++ [c], d.isDigit = true) ∨ v.Begins (front ++ [c])

/-- The lexemes with which a blank behind them is read, even if the blank is a
separator: numbers, keywords, and symbols that some word begins with. -/
def TakesBlank : Lexeme → Prop
  | .number _ | .operator _ => True
  | .symbol s => s.toList.head?.any Char.isDigit = false ∧ v.Begins s.toList
  | .separator _ | .string _ => False

/-- A lexeme and the characters that it is read from. -/
structure Covers (l : Lexeme) (here : List Char) : Prop where
  nonempty : here ≠ []
  spelled : v.Matches l here
  run : l.isRun = true → v.IsRun here

/-- What is pending behind the characters of a run: a numeral behind digits, a keyword
on the way to some word, and otherwise a symbol. -/
inductive Pends (start : Nat) : Pending → List Char → Prop
  | numeral {run : List Char} :
      (∀ d ∈ run, d.isDigit = true) → run.head? ≠ some '0' →
      Pends start (.numeral start run.reverse) run
  | keyword {run : List Char} {node : Keywords} :
      run.head?.any Char.isDigit = false → v.lexicon.keywords.find? run = some node →
      Pends start (.keyword start run.reverse node) run
  | symbol {run : List Char} :
      run.head?.any Char.isDigit = true ∨ ¬v.Begins run →
      Pends start (.symbol start run.reverse) run

/-- What is read with a lexeme: the blank behind it, if it takes one. -/
def Gap (l : Lexeme) (gap cs : List Char) : Prop :=
  (gap = [] ∧ (v.TakesBlank l → ∀ b ∈ cs.head?, isBlank b = false)) ∨
    ∃ b, gap = [b] ∧ isBlank b = true ∧ v.TakesBlank l

/-- A stream that accounts for the characters from a place on: blanks are passed over,
tokens stand at their spans, and a fault stands where it starts. -/
inductive Accounts : Nat → List Char → TokenStream → Prop
  | done (pos : Nat) : Accounts pos [] .done
  | fault {f : LexFault} {c : Char} (cs : List Char) :
      f.Begins c → Accounts f.position (c :: cs) (.fault f)
  | blank {pos : Nat} {c : Char} {cs : List Char} {s : TokenStream} :
      isBlank c = true → c ∉ v.separators → Accounts (pos + 1) cs s →
      Accounts pos (c :: cs) s
  | token {pos : Nat} {l : Lexeme} {here cs : List Char} {s : TokenStream}
      (gap : List Char) :
      v.Covers l here → v.Gap l gap cs →
      Accounts (pos + here.length + gap.length) cs s →
      Accounts pos (here ++ (gap ++ cs)) (.token ⟨l, ⟨pos, pos + here.length⟩⟩ s)

end Specification

variable {v : Vocabulary} {start : Nat} {p : Pending} {run : List Char} {c : Char}

/-! ### Runs -/

lemma isSeparator_iff : v.lexicon.isSeparator c = true ↔ c ∈ v.separators := by
  simp [Lexicon.isSeparator, lexicon]

lemma isSeparator_eq_false_iff : v.lexicon.isSeparator c = false ↔ c ∉ v.separators := by
  simp [Lexicon.isSeparator, lexicon]

/-- A way from the root of the keyword table is the beginning of a word. -/
lemma isSome_find?_iff (h : run ≠ []) :
    (v.lexicon.keywords.find? run).isSome = true ↔ v.Begins run := by
  rw [lexicon, Keywords.isSome_find?_ofList, or_iff_right h, Begins]

/-- A character that is no separator is a run. -/
lemma IsRun.single (h : c ∉ v.separators) : v.IsRun [c] where
  nonempty := List.cons_ne_nil c []
  first := by simpa using h
  later front d hd sep := by
    obtain ⟨rfl, rfl⟩ : front = [] ∧ d = c := by
      cases front <;> simp_all
    exact absurd sep h

/-- A run goes on with a character that is no separator, with a digit behind digits,
and on the way to a word. -/
lemma IsRun.concat (h : v.IsRun run)
    (hc : c ∈ v.separators → (∀ d ∈ run ++ [c], d.isDigit = true) ∨ v.Begins (run ++ [c])) :
    v.IsRun (run ++ [c]) where
  nonempty := by simp
  first := by
    rw [List.head?_append_of_ne_nil _ h.nonempty]
    exact h.first
  later front d hd sep := by
    rcases List.prefix_concat_iff.mp hd with whole | inside
    · obtain ⟨rfl, last⟩ := List.append_inj' whole rfl
      obtain rfl := List.singleton_inj.mp last
      exact hc sep
    · exact h.later front d inside sep

/-! ### The end of a run -/

/-- What becomes of the characters of a run where it ends. -/
inductive Ends (v : Vocabulary) (start stop : Nat) (p : Pending) (run : List Char) : Prop
  /-- It becomes a lexeme that covers the run. -/
  | lexeme (l : Lexeme) (covers : v.Covers l run)
      (takes : v.TakesBlank l ↔ p.takesBlank = true)
      (closes : ∀ s, p.close stop s = .token ⟨l, ⟨start, stop⟩⟩ s)
  /-- It is a numeral that is too large. -/
  | fault (f : LexFault) (place : f.position = start)
      (begins : ∃ c cs, run = c :: cs ∧ f.Begins c) (closes : ∀ s, p.close stop s = .fault f)

/-- Digits of a number that fits make a number, and of any other one a fault. -/
lemma ends_numeral (hr : v.IsRun run) (digits : ∀ d ∈ run, d.isDigit = true)
    (zero : run.head? ≠ some '0') (stop : Nat) :
    v.Ends start stop (.numeral start run.reverse) run := by
  by_cases fits : ofDigits run ≤ int64Max
  · have bound : FitsInt64 (ofDigits run) := by
      simp only [FitsInt64, int64Max] at fits ⊢
      omega
    have value : (Int64.ofNat (ofDigits run)).toInt = ofDigits run := by
      rw [← Int64.ofInt_eq_ofNat, toInt_ofInt_of_fits bound]
    exact .lexeme (.number (Int64.ofNat (ofDigits run)))
      ⟨hr.nonempty, ⟨digits, zero, value⟩, fun _ => hr⟩ ⟨fun _ => rfl, fun _ => trivial⟩
      fun s => by simp [Pending.close, fits]
  · obtain ⟨c, cs, rfl⟩ := List.exists_cons_of_ne_nil hr.nonempty
    have begins : (LexFault.numeral .tooLarge start).Begins c :=
      ⟨digits c (by simp), by simpa using zero⟩
    exact .fault (.numeral .tooLarge start) rfl ⟨c, cs, rfl, begins⟩
      fun s => by simp [Pending.close, fits]

/-- The way to a node of the keyword table makes the word that ends there, and
otherwise a symbol. -/
lemma ends_keyword (hr : v.IsRun run) (first : run.head?.any Char.isDigit = false)
    {node : Keywords} (found : v.lexicon.keywords.find? run = some node) (stop : Nat) :
    v.Ends start stop (.keyword start run.reverse node) run := by
  have known : Keywords.indexAt? node = (v.words.idxsOf (String.ofList run)).getLast? :=
    Keywords.indexAt?_eq found
  cases index : Keywords.indexAt? node with
  | some i =>
      have word := getLast?_idxsOf_eq_some_iff.mp (known.symm.trans index)
      exact .lexeme (.operator i) ⟨hr.nonempty, word, fun _ => hr⟩
        ⟨fun _ => rfl, fun _ => trivial⟩ fun s => by simp [Pending.close, index]
  | none =>
      have begins : v.Begins run := (isSome_find?_iff hr.nonempty).mp (by rw [found]; rfl)
      have takes : v.TakesBlank (.symbol (String.ofList run)) := by
        rw [TakesBlank, String.toList_ofList]
        exact ⟨first, begins⟩
      exact .lexeme (.symbol (String.ofList run))
        ⟨hr.nonempty, String.toList_ofList.symm, fun _ => hr⟩
        ⟨fun _ => rfl, fun _ => takes⟩
        fun s => by simp [Pending.close, index, Pending.textOf]

/-- Any other run makes a symbol. -/
lemma ends_symbol (hr : v.IsRun run)
    (plain : run.head?.any Char.isDigit = true ∨ ¬v.Begins run) (stop : Nat) :
    v.Ends start stop (.symbol start run.reverse) run := by
  have takes : ¬v.TakesBlank (.symbol (String.ofList run)) := by
    rw [TakesBlank, String.toList_ofList]
    rintro ⟨first, begins⟩
    rcases plain with digit | none
    · rw [first] at digit
      cases digit
    · exact none begins
  exact .lexeme (.symbol (String.ofList run))
    ⟨hr.nonempty, String.toList_ofList.symm, fun _ => hr⟩ (iff_of_false takes nofun)
    fun s => by simp [Pending.close, Pending.textOf]

/-- Every run ends in a lexeme or in a fault. -/
lemma Pends.ends (h : v.Pends start p run) (hr : v.IsRun run) (stop : Nat) :
    v.Ends start stop p run := by
  cases h with
  | numeral digits zero => exact ends_numeral hr digits zero stop
  | keyword first found => exact ends_keyword hr first found stop
  | symbol plain => exact ends_symbol hr plain stop

/-! ### One more character -/

/-- What one more character does to what is pending behind a run. -/
inductive Moves (v : Vocabulary) (start : Nat) (p : Pending) (run : List Char) (c : Char) :
    Prop
  /-- The run goes on with it. -/
  | on (q : Pending) (pends : v.Pends start q (run ++ [c])) (isRun : v.IsRun (run ++ [c]))
      (scans : ∀ pos cs, v.lexicon.scan p pos (c :: cs) = v.lexicon.scan q (pos + 1) cs)
  /-- It is a blank, and is read with the run that it ends, though it may be a separator
  only behind what takes a blank. -/
  | blank (blank : isBlank c = true) (takes : p.takesBlank = true ∨ c ∉ v.separators)
      (scans : ∀ pos cs, v.lexicon.scan p pos (c :: cs) =
        p.close pos (v.lexicon.scan .idle (pos + 1) cs))
  /-- The run ends in front of it. -/
  | stop (takes : p.takesBlank = true → isBlank c = false)
      (scans : ∀ pos cs, v.lexicon.scan p pos (c :: cs) =
        p.close pos (v.lexicon.scan .idle pos (c :: cs)))

/-- In front of a separator a run ends, if a blank would be read with it only where
the separator is none. -/
lemma moves_separator (sep : v.lexicon.isSeparator c = true)
    (takes : p.takesBlank = true → isBlank c = false)
    (scans : ∀ pos cs, v.lexicon.scan p pos (c :: cs) =
      p.close pos (.token (Lexicon.separatorAt c pos) (v.lexicon.scan .idle (pos + 1) cs))) :
    v.Moves start p run c :=
  .stop takes fun pos cs => by rw [scans, v.lexicon.scan_idle_separator sep]

/-- Behind digits, another digit goes on with the numeral, whether or not it is a
separator. -/
lemma moves_numeral (hr : v.IsRun run) (digits : ∀ d ∈ run, d.isDigit = true)
    (zero : run.head? ≠ some '0') (c : Char) :
    v.Moves start (.numeral start run.reverse) run c := by
  by_cases digit : c.isDigit = true
  · have all : ∀ d ∈ run ++ [c], d.isDigit = true := by
      simpa [or_imp, forall_and] using ⟨digits, digit⟩
    have zero : (run ++ [c]).head? ≠ some '0' := by
      rwa [List.head?_append_of_ne_nil _ hr.nonempty]
    exact .on _ (.numeral all zero) (hr.concat fun _ => .inl all)
      fun pos cs => by simp [scan, digit]
  · by_cases blank : isBlank c = true
    · exact .blank blank (.inl rfl) fun pos cs => by simp [scan, digit, blank]
    · cases sep : v.lexicon.isSeparator c with
      | true =>
          exact moves_separator sep (fun _ => by simpa using blank)
            fun pos cs => by simp [scan, digit, blank, sep]
      | false =>
          have first : (run ++ [c]).head?.any Char.isDigit = true := by
            obtain ⟨d, ds, rfl⟩ := List.exists_cons_of_ne_nil hr.nonempty
            simpa using digits d (by simp)
          have other := isSeparator_eq_false_iff.mp sep
          exact .on _ (.symbol (.inl first)) (hr.concat fun h => absurd h other)
            fun pos cs => by simp [scan, digit, blank, sep]

/-- On the way to a word, a character that leads on in the keyword table goes on with
the word, whether or not it is a separator. -/
lemma moves_keyword (hr : v.IsRun run) (first : run.head?.any Char.isDigit = false)
    {node : Keywords} (found : v.lexicon.keywords.find? run = some node) (c : Char) :
    v.Moves start (.keyword start run.reverse node) run c := by
  have further : v.lexicon.keywords.find? (run ++ [c]) = node.child? c := by
    rw [Trie.find?_concat, found, Option.bind_some]
  have nonempty : run ++ [c] ≠ [] := by simp
  have first : (run ++ [c]).head?.any Char.isDigit = false := by
    rwa [List.head?_append_of_ne_nil _ hr.nonempty]
  have begins := isSome_find?_iff (v := v) nonempty
  rw [further] at begins
  cases child : node.child? c with
  | some next =>
      rw [child] at further begins
      exact .on _ (.keyword first further) (hr.concat fun _ => .inr (begins.mp rfl))
        fun pos cs => by simp [scan, child]
  | none =>
      rw [child] at begins
      by_cases blank : isBlank c = true
      · exact .blank blank (.inl rfl) fun pos cs => by simp [scan, child, blank]
      · cases sep : v.lexicon.isSeparator c with
        | true =>
            exact moves_separator sep (fun _ => by simpa using blank)
              fun pos cs => by simp [scan, child, blank, sep]
        | false =>
            have none : ¬v.Begins (run ++ [c]) := fun h => by simpa using begins.mpr h
            have other := isSeparator_eq_false_iff.mp sep
            exact .on _ (.symbol (.inr none)) (hr.concat fun h => absurd h other)
              fun pos cs => by simp [scan, child, blank, sep]

/-- A symbol goes on with what is neither a separator nor a blank. -/
lemma moves_symbol (hr : v.IsRun run)
    (plain : run.head?.any Char.isDigit = true ∨ ¬v.Begins run) (c : Char) :
    v.Moves start (.symbol start run.reverse) run c := by
  cases sep : v.lexicon.isSeparator c with
  | true => exact moves_separator sep nofun fun pos cs => by simp [scan, sep]
  | false =>
      have other := isSeparator_eq_false_iff.mp sep
      by_cases blank : isBlank c = true
      · exact .blank blank (.inr other) fun pos cs => by simp [scan, sep, blank]
      · refine .on _ (.symbol ?_) (hr.concat fun h => absurd h other)
          fun pos cs => by simp [scan, sep, blank]
        rw [List.head?_append_of_ne_nil _ hr.nonempty]
        refine plain.imp_right fun none => ?_
        rintro ⟨w, hw, longer⟩
        exact none ⟨w, hw, (List.prefix_append run [c]).trans longer⟩

/-- One more character goes on with a run or ends it. -/
lemma Pends.moves (h : v.Pends start p run) (hr : v.IsRun run) (c : Char) :
    v.Moves start p run c := by
  cases h with
  | numeral digits zero => exact moves_numeral hr digits zero c
  | keyword first found => exact moves_keyword hr first found c
  | symbol plain => exact moves_symbol hr plain c

/-! ### Between tokens -/

/-- What a character does between tokens. -/
inductive Opens (v : Vocabulary) (c : Char) : Prop
  /-- It is a separator, and a token. -/
  | separator (sep : c ∈ v.separators)
  /-- It is a quote, and opens a quoted text. -/
  | quote (hq : c = '"') (other : '"' ∉ v.separators)
  /-- It is a zero, with which no numeral begins. -/
  | zero (hz : c = '0') (other : '0' ∉ v.separators)
  /-- It is a blank, and is passed over. -/
  | blank (blank : isBlank c = true) (other : c ∉ v.separators)
      (scans : ∀ pos cs, v.lexicon.scan .idle pos (c :: cs) =
        v.lexicon.scan .idle (pos + 1) cs)
  /-- A run begins with it. -/
  | run (other : c ∉ v.separators) (scans : ∀ pos, ∃ p, v.Pends pos p [c] ∧
      ∀ cs, v.lexicon.scan .idle pos (c :: cs) = v.lexicon.scan p (pos + 1) cs)

/-- Whatever a character is, it does one of these. -/
lemma opens (v : Vocabulary) (c : Char) : v.Opens c := by
  by_cases listed : c ∈ v.separators
  · exact .separator listed
  have sep := isSeparator_eq_false_iff.mpr listed
  by_cases hq : c = '"'
  · exact .quote hq (hq ▸ listed)
  by_cases digit : c.isDigit = true
  · by_cases hz : c = '0'
    · exact .zero hz (hz ▸ listed)
    · have digits : ∀ d ∈ [c], d.isDigit = true := by simpa using digit
      have zero : [c].head? ≠ some '0' := by simpa using hz
      refine .run listed fun pos => ⟨_, .numeral digits zero, fun cs => ?_⟩
      simp [scan, sep, hq, digit, hz]
  have first : [c].head?.any Char.isDigit = false := by simpa using digit
  have found : v.lexicon.keywords.find? [c] = v.lexicon.keywords.child? c :=
    Trie.find?_concat v.lexicon.keywords [] c
  cases child : v.lexicon.keywords.child? c with
  | some node =>
      refine .run listed fun pos => ⟨_, .keyword first (found.trans child), ?_⟩
      exact fun cs => by simp [scan, sep, hq, digit, child]
  | none =>
      by_cases blank : isBlank c = true
      · exact .blank blank listed fun pos cs => by simp [scan, sep, hq, digit, child, blank]
      · have none : ¬v.Begins [c] := by
          rw [← isSome_find?_iff (List.cons_ne_nil c []), found, child]
          simp
        refine .run listed fun pos => ⟨_, .symbol (.inr none), ?_⟩
        exact fun cs => by simp [scan, sep, hq, digit, child, blank]

/-! ### Whole texts -/

/-- A token that takes no blank with it, in front of what is accounted for. -/
lemma Accounts.cons {pos stop : Nat} {l : Lexeme} {here cs : List Char} {s : TokenStream}
    (covers : v.Covers l here) (hstop : stop = pos + here.length)
    (takes : v.TakesBlank l → ∀ b ∈ cs.head?, isBlank b = false) (h : v.Accounts stop cs s) :
    v.Accounts pos (here ++ cs) (.token ⟨l, ⟨pos, stop⟩⟩ s) := by
  subst hstop
  exact .token [] covers (.inl ⟨rfl, takes⟩) h

/-- A quoted text is accounted for, when what stands behind it is. -/
lemma accounts_quote {pos : Nat} {cs : List Char} (other : '"' ∉ v.separators)
    (rest : ∀ body rest, splitQuoted cs = some (body, rest) → ∀ pos,
      v.Accounts pos rest (v.lexicon.scan .idle pos rest)) :
    v.Accounts pos ('"' :: cs) (v.lexicon.scan .idle pos ('"' :: cs)) := by
  have opening : v.lexicon.scan .idle pos ('"' :: cs) =
      v.lexicon.scan (.quotation pos [] false) (pos + 1) cs := by
    simp [scan, isSeparator_eq_false_iff.mpr other]
  rw [opening, scan_quotation]
  cases closed : splitQuoted cs with
  | none => exact .fault (f := .unclosed pos) cs rfl
  | some p =>
      obtain ⟨body, behind⟩ := p
      have covers : v.Covers (.string (String.ofList (unescape body)))
          ('"' :: (body ++ ['"'])) :=
        ⟨List.cons_ne_nil _ _, ⟨body, rfl, splitQuoted_body closed [], rfl⟩,
          by simp [Lexeme.isRun]⟩
      have whole : '"' :: cs = '"' :: (body ++ ['"']) ++ behind := by
        simp [eq_of_splitQuoted closed]
      rw [whole]
      simpa [Pending.textOf] using
        Accounts.cons covers (by simp; omega) (by simp [TakesBlank])
          (rest body behind closed _)

/-- A run that ends is accounted for, when the lexeme that it becomes is accounted for
with what stands behind it. -/
lemma Pends.accounts_close (h : v.Pends start p run) (hr : v.IsRun run) {cs : List Char}
    {s : TokenStream} (stop : Nat)
    (token : ∀ l, v.Covers l run → (v.TakesBlank l ↔ p.takesBlank = true) →
      v.Accounts start (run ++ cs) (.token ⟨l, ⟨start, stop⟩⟩ s)) :
    v.Accounts start (run ++ cs) (p.close stop s) := by
  cases h.ends hr stop with
  | lexeme l covers takes closes =>
      rw [closes]
      exact token l covers takes
  | fault f place begins closes =>
      obtain ⟨c, ds, rfl, begins⟩ := begins
      rw [closes, ← place]
      exact .fault _ begins

/-- What is pending behind a run is accounted for with the run, when what stands behind
it is. -/
lemma Pends.accounts (h : v.Pends start p run) (hr : v.IsRun run) {cs : List Char}
    (rest : ∀ ds, ds <:+ cs → ∀ pos, v.Accounts pos ds (v.lexicon.scan .idle pos ds)) :
    v.Accounts start (run ++ cs) (v.lexicon.scan p (start + run.length) cs) := by
  induction cs generalizing p run with
  | nil =>
      rw [scan]
      exact h.accounts_close hr _ fun l covers _ => .cons covers rfl (fun _ => by simp) (.done _)
  | cons c cs ih =>
      cases h.moves hr c with
      | on q pends isRun scans =>
          have next := ih pends isRun fun ds hds => rest ds (hds.trans (List.suffix_cons c cs))
          rw [scans]
          simpa [Nat.add_assoc] using next
      | blank blank takes scans =>
          have behind := rest cs (List.suffix_cons c cs) (start + run.length + 1)
          rw [scans]
          refine h.accounts_close hr _ fun l covers hl => ?_
          by_cases taken : p.takesBlank = true
          · exact .token [c] covers (.inr ⟨c, rfl, blank, hl.mpr taken⟩) behind
          · refine .cons covers rfl (fun h => absurd (hl.mp h) taken) ?_
            exact .blank blank (takes.resolve_left taken) behind
      | stop takes scans =>
          have behind := rest (c :: cs) (List.suffix_refl _) (start + run.length)
          rw [scans]
          refine h.accounts_close hr _ fun l covers hl => ?_
          exact .cons covers rfl (fun h => by simpa using takes (hl.mp h)) behind

/-- Between tokens, the stream of a text accounts for what is left of it. -/
theorem accounts_scan (v : Vocabulary) (pos : Nat) (cs : List Char) :
    v.Accounts pos cs (v.lexicon.scan .idle pos cs) := by
  induction hn : cs.length using Nat.strongRecOn generalizing pos cs with
  | _ n ih =>
  cases cs with
  | nil => exact .done pos
  | cons c cs =>
      have shorter : ∀ ds, ds <:+ cs → ∀ pos,
          v.Accounts pos ds (v.lexicon.scan .idle pos ds) := fun ds hds pos => by
        have le := hds.length_le
        rw [List.length_cons] at hn
        exact ih ds.length (by omega) pos ds rfl
      have tail := shorter cs (List.suffix_refl cs)
      cases v.opens c with
      | separator sep =>
          have covers : v.Covers (.separator c) [c] := ⟨by simp, ⟨sep, rfl⟩, nofun⟩
          rw [v.lexicon.scan_idle_separator (isSeparator_iff.mpr sep)]
          exact .cons covers rfl nofun (tail (pos + 1))
      | quote hq other =>
          subst hq
          refine accounts_quote other fun body rest closed => shorter rest ?_
          exact ⟨body ++ ['"'], by simp [eq_of_splitQuoted closed]⟩
      | zero hz other =>
          subst hz
          have refused : v.lexicon.scan .idle pos ('0' :: cs) =
              .fault (.numeral .leadingZero pos) := by
            simp [scan, isSeparator_eq_false_iff.mpr other]
          have begins : (LexFault.numeral .leadingZero pos).Begins '0' :=
            ⟨by decide, by simp⟩
          rw [refused]
          exact .fault cs begins
      | blank blank other scans =>
          rw [scans]
          exact .blank blank other (tail (pos + 1))
      | run other scans =>
          obtain ⟨p, pends, scans⟩ := scans pos
          rw [scans]
          exact pends.accounts (.single other) shorter

/-- **The token stream of a text accounts for each of its characters.** -/
theorem accounts_tokenize (v : Vocabulary) (text : String) :
    v.Accounts 0 text.toList (v.lexicon.tokenize text) :=
  v.accounts_scan 0 text.toList

end Vocabulary

end RowFilter
