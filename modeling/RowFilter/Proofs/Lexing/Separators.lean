/-
Which separators of a text are tokens.

* `Token.Swallows`: a token swallows a separator further back in its run, and a blank
  that is read with it.
* `Covers.separator_cases`, `Accounts.separator_cases`: what becomes of a separator.
* `Accounts.eq_of_holds`: no place is inside of two tokens.
* `Accounts.start_ne`: no token starts at a blank that is read with the one before.
* `Accounts.not_swallows`: a separator is not both a token and swallowed.
* `count_separatorAt`: a separator outside of quoted texts is a token exactly when no
  token swallows it, and is swallowed only if it is a digit or a blank.
* `count_separatorAt_numbers`: a blank that is a separator is swallowed behind a number.
-/
import Mathlib.Data.List.Nodup
import RowFilter.Proofs.Lexing.Lossless

namespace RowFilter

open Lexicon (separatorAt)

/-- A token swallows a character at a place: further back in the run that it is read
from, or as a blank that is read with it. -/
def Token.Swallows (v : Vocabulary) (t : Token) (c : Char) (i : Nat) : Prop :=
  (t.lexeme.isRun = true ∧ t.span.start < i ∧ i < t.span.stop) ∨
    (v.TakesBlank t.lexeme ∧ isBlank c = true ∧ i = t.span.stop)

namespace Vocabulary

variable {v : Vocabulary} {pos i : Nat} {cs here : List Char} {s : TokenStream} {c : Char}
  {l : Lexeme}

/-- No word has a separator in it. -/
def Unseparated (v : Vocabulary) : Prop := ∀ w ∈ v.words, ∀ c ∈ w.toList, c ∉ v.separators

instance (v : Vocabulary) : Decidable v.Unseparated :=
  decidable_of_iff (v.words.all fun w => w.toList.all fun c => !v.separators.contains c)
    (by simp [Unseparated])

/-! ### Inside of tokens -/

/-- A separator inside of a run is a digit, and is not the first character. -/
lemma IsRun.separator (h : v.IsRun here) (hv : v.Unseparated) (hc : here[i]? = some c)
    (sep : c ∈ v.separators) : 0 < i ∧ c.isDigit = true := by
  constructor
  · cases i with
    | zero =>
        rw [← List.head?_eq_getElem?] at hc
        exact absurd sep (h.first c hc)
    | succ i => exact Nat.succ_pos i
  · have front : here.take i ++ [c] <+: here := by
      have taken : here.take (i + 1) = here.take i ++ [c] := by
        rw [List.take_add_one, hc]
        rfl
      exact taken ▸ List.take_prefix (i + 1) here
    rcases h.later _ c front sep with digits | ⟨w, hw, longer⟩
    · exact digits c (by simp)
    · exact absurd sep (hv w hw c (longer.subset (by simp)))

/-- What a lexeme with a separator in it is: that separator, a quoted text, or a run with
the separator further back, which is a digit then. -/
lemma Covers.separator_cases (h : v.Covers l here) (hv : v.Unseparated)
    (hc : here[i]? = some c) (sep : c ∈ v.separators) :
    (l = .separator c ∧ here = [c] ∧ i = 0) ∨ (∃ t, l = .string t) ∨
      (l.isRun = true ∧ 0 < i ∧ c.isDigit = true) := by
  cases l with
  | separator d =>
      obtain ⟨-, rfl⟩ := h.spelled
      obtain ⟨rfl, rfl⟩ : i = 0 ∧ d = c := by
        cases i <;> simp_all
      exact .inl ⟨rfl, rfl, rfl⟩
  | string t => exact .inr (.inl ⟨t, rfl⟩)
  | number | operator | symbol => exact .inr (.inr ⟨rfl, (h.run rfl).separator hv hc sep⟩)

namespace Accounts

/-- In a text without a fault, a separator is a token, stands in a quoted text, or is
swallowed, and then it is a digit or a blank. -/
lemma separator_cases (h : v.Accounts pos cs s) (hv : v.Unseparated)
    (whole : s.fault? = none) (hc : cs[i]? = some c) (sep : c ∈ v.separators) :
    separatorAt c (pos + i) ∈ s.tokens ∨
      (∃ t ∈ s.tokens, (∃ text, t.lexeme = .string text) ∧ t.span.Holds (pos + i)) ∨
      ∃ t ∈ s.tokens, t.Swallows v c (pos + i) ∧ (c.isDigit = true ∨ isBlank c = true) := by
  induction h generalizing i with
  | done => cases hc
  | fault => cases whole
  | @blank pos d cs s blank other _ ih =>
      cases i with
      | zero =>
          obtain rfl := Option.some.inj hc
          exact absurd sep other
      | succ i =>
          rw [← Nat.add_assoc, Nat.add_right_comm]
          exact ih whole hc
  | @token pos l here cs s gap covers hgap _ ih =>
      rcases getElem?_append_cases hc with inside | ⟨j, rfl, hj⟩ | ⟨j, rfl, hj⟩
      · obtain ⟨lt, -⟩ := List.getElem?_eq_some_iff.mp inside
        rcases covers.separator_cases hv inside sep with
          ⟨rfl, rfl, rfl⟩ | ⟨text, rfl⟩ | ⟨run, later, digit⟩
        · exact .inl List.mem_cons_self
        · exact .inr (.inl ⟨_, List.mem_cons_self, ⟨text, rfl⟩, Nat.le_add_right _ _,
            Nat.add_lt_add_left lt pos⟩)
        · exact .inr (.inr ⟨_, List.mem_cons_self, .inl ⟨run, Nat.lt_add_of_pos_right later,
            Nat.add_lt_add_left lt pos⟩, .inl digit⟩)
      · rcases hgap with ⟨rfl, -⟩ | ⟨b, rfl, blank, takes⟩
        · cases hj
        · obtain ⟨rfl, rfl⟩ : j = 0 ∧ b = c := by
            cases j <;> simp_all
          exact .inr (.inr ⟨_, List.mem_cons_self, .inr ⟨takes, blank, rfl⟩, .inr blank⟩)
      · rw [← Nat.add_assoc, ← Nat.add_assoc]
        rcases ih whole hj with found | ⟨t, ht, quoted⟩ | ⟨t, ht, swallows⟩
        · exact .inl (List.mem_cons_of_mem _ found)
        · exact .inr (.inl ⟨t, List.mem_cons_of_mem _ ht, quoted⟩)
        · exact .inr (.inr ⟨t, List.mem_cons_of_mem _ ht, swallows⟩)

/-! ### Between tokens -/

/-- No place is inside of two tokens. -/
lemma eq_of_holds (h : v.Accounts pos cs s) {t u : Token} (ht : t ∈ s.tokens)
    (hu : u ∈ s.tokens) (holdst : t.span.Holds i) (holdsu : u.span.Holds i) : t = u := by
  have apart : s.tokens.Pairwise fun t u => ¬(t.span.Holds i ∧ u.span.Holds i) :=
    h.ordered.imp fun {t u} order ⟨first, second⟩ =>
      absurd (Nat.lt_of_lt_of_le first.2 order) (Nat.not_lt.mpr second.1)
  by_contra ne
  have symmetric : Std.Symm fun t u : Token => ¬(t.span.Holds i ∧ u.span.Holds i) :=
    ⟨fun t u h both => h both.symm⟩
  exact apart.forall ht hu ne ⟨holdst, holdsu⟩

/-- A token is found once. -/
lemma count_eq_one (h : v.Accounts pos cs s) {t : Token} (ht : t ∈ s.tokens) :
    s.tokens.count t = 1 := by
  have nodup : s.tokens.Nodup := h.ordered.imp_of_mem fun {t u} ht _ order => by
    rintro rfl
    have bounds := h.bounds t ht
    omega
  exact List.count_eq_one_of_mem nodup ht

/-- No token starts at a blank that is read with the token before it. -/
lemma start_ne (h : v.Accounts pos cs s) {t u : Token} (ht : t ∈ s.tokens)
    (hu : u ∈ s.tokens) (takes : v.TakesBlank t.lexeme)
    (hc : cs[t.span.stop - pos]? = some c) (blank : isBlank c = true) :
    u.span.start ≠ t.span.stop := by
  induction h with
  | done | fault => cases ht
  | @blank pos d cs s _ _ rest ih =>
      have bounds := rest.bounds t ht
      have place : t.span.stop - pos = t.span.stop - (pos + 1) + 1 := by omega
      rw [place, List.getElem?_cons_succ] at hc
      exact ih ht hu hc
  | @token pos l here cs s gap covers hgap rest ih =>
      have nonempty := List.length_pos_iff.mpr covers.nonempty
      rcases List.mem_cons.mp ht with rfl | ht
      · rcases List.mem_cons.mp hu with rfl | hu
        · exact (Nat.lt_add_of_pos_right nonempty).ne
        -- the blank is the gap, and behind the gap the other tokens start
        · rcases hgap with ⟨rfl, full⟩ | ⟨b, rfl, -, -⟩
          · have front : cs.head? = some c := by
              rw [List.head?_eq_getElem?]
              simpa [List.getElem?_append_right] using hc
            exact absurd blank (by simp [full takes c front])
          · exact Nat.ne_of_gt (rest.bounds u hu).1
      · obtain ⟨first, later, -⟩ := rest.bounds t ht
        rcases List.mem_cons.mp hu with rfl | hu
        · exact Nat.ne_of_lt (by omega : pos < t.span.stop)
        · rw [getElem?_behind cs (by omega)] at hc
          exact ih ht hu hc

/-- A separator that is a token is not swallowed. -/
lemma not_swallows (h : v.Accounts pos cs s) (hc : cs[i]? = some c)
    (found : separatorAt c (pos + i) ∈ s.tokens) {t : Token} (ht : t ∈ s.tokens) :
    ¬t.Swallows v c (pos + i) := by
  rintro (⟨run, later, inside⟩ | ⟨takes, blank, stop⟩)
  · have same := h.eq_of_holds ht found ⟨later.le, inside⟩ ⟨le_rfl, Nat.lt_succ_self _⟩
    rw [same] at run
    cases run
  · refine h.start_ne ht found takes ?_ blank stop
    rwa [← stop, Nat.add_sub_cancel_left]

end Accounts

/-! ### Whole texts -/

/-- **Which separators are tokens**, in a language whose words have no separators in
them and a text that is accepted. A separator that no quoted text holds is one token at
its place, unless it is swallowed. Only a digit or a blank is: a digit behind other digits
that a run begins with, and a blank right behind a number, a keyword, or a symbol that
some word begins with. -/
theorem count_separatorAt (hv : v.Unseparated) {text : String} {ts : List Token}
    (accepted : (v.lexicon.tokenize text).toExcept = .ok ts)
    (hc : text.toList[i]? = some c) (sep : c ∈ v.separators)
    (unquoted : ∀ t ∈ ts, ∀ content, t.lexeme = .string content → ¬t.span.Holds i) :
    ((∀ t ∈ ts, ¬t.Swallows v c i) ∧ ts.count (separatorAt c i) = 1) ∨
      ((∃ t ∈ ts, t.Swallows v c i) ∧ (c.isDigit = true ∨ isBlank c = true) ∧
        ts.count (separatorAt c i) = 0) := by
  obtain ⟨whole, rfl⟩ := TokenStream.toExcept_eq_ok_iff.mp accepted
  have accounts := v.accounts_tokenize text
  rcases accounts.separator_cases hv whole hc sep with
    found | ⟨t, ht, ⟨content, quoted⟩, holds⟩ | ⟨t, ht, swallows, among⟩
  · have kept t ht := accounts.not_swallows hc found (t := t) ht
    rw [Nat.zero_add] at found kept
    exact .inl ⟨kept, accounts.count_eq_one found⟩
  · rw [Nat.zero_add] at holds
    exact absurd holds (unquoted t ht content quoted)
  · have lost : separatorAt c (0 + i) ∉ (v.lexicon.tokenize text).tokens :=
      fun found => accounts.not_swallows hc found ht swallows
    rw [Nat.zero_add] at swallows lost
    exact .inr ⟨⟨t, ht, swallows⟩, among, List.count_eq_zero.mpr lost⟩

/-- A vocabulary with the blank as separator. -/
def spaced : Vocabulary := ⟨["AND"], [' ']⟩

/-- The tokens of `a 7 AND` when the blank is a separator. -/
def spacedTokens : List Token :=
  [⟨.symbol "a", ⟨0, 1⟩⟩, ⟨.separator ' ', ⟨1, 2⟩⟩, ⟨.number 7, ⟨2, 3⟩⟩,
    ⟨.operator 0, ⟨4, 7⟩⟩]

/-- The blank behind a symbol is a token, and the one behind a number is swallowed. -/
theorem count_separatorAt_spaced :
    spaced.Unseparated ∧ (spaced.lexicon.tokenize "a 7 AND").toExcept = .ok spacedTokens ∧
      (∀ t ∈ spacedTokens, ¬t.Swallows spaced ' ' 1) ∧
      ∃ t ∈ spacedTokens, t.Swallows spaced ' ' 3 := by
  have words : spaced.Unseparated := by decide
  have accepted : (spaced.lexicon.tokenize "a 7 AND").toExcept = .ok spacedTokens := by
    decide +kernel
  have unquoted : ∀ i, ∀ t ∈ spacedTokens, ∀ content, t.lexeme = .string content →
      ¬t.span.Holds i := by simp [spacedTokens]
  refine ⟨words, accepted, ?_, ?_⟩
  · rcases count_separatorAt words accepted (c := ' ') (i := 1) (by decide) (by decide)
      (unquoted 1) with ⟨kept, -⟩ | ⟨-, -, lost⟩
    · exact kept
    · exact absurd lost (by decide)
  · rcases count_separatorAt words accepted (c := ' ') (i := 3) (by decide) (by decide)
      (unquoted 3) with ⟨-, once⟩ | ⟨swallowed, -⟩
    · exact absurd once (by decide)
    · exact swallowed

/-- Between two numbers, a blank is no token even if it is a separator. -/
theorem count_separatorAt_numbers :
    spaced.Unseparated ∧ "1 2".toList[1]? = some ' ' ∧ ' ' ∈ spaced.separators ∧
      ∃ ts, (spaced.lexicon.tokenize "1 2").toExcept = .ok ts ∧
        (∀ t ∈ ts, ∀ content, t.lexeme ≠ .string content) ∧
        ts.count (separatorAt ' ' 1) = 0 :=
  ⟨by decide, by decide, by decide, [⟨.number 1, ⟨0, 1⟩⟩, ⟨.number 2, ⟨2, 3⟩⟩],
    by decide +kernel, by simp, by decide⟩

end Vocabulary

end RowFilter
