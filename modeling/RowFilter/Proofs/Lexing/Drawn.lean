/-
Tokens drawn from a text one at a time are those of its token stream.

* `TokenStream.answer`: what a stream answers when it is asked again and again,
  and `Lexicon.answer`: what a lexer answers.
* `draw_refines`, `next_refines`: a lexer answers with the head of the stream of
  what is left, and leaves its tail.
* `answer_eq`: the answers to all requests are those of the token stream.
* `TokenStream.answers`: a stream answers its tokens, then its fault, and nothing from
  then on.
-/
import Mathlib.Logic.Function.Iterate
import RowFilter.Token.Draw

namespace RowFilter

/-! ### Streams -/

namespace TokenStream

/-- The stream behind the first answer. -/
def tail : TokenStream → TokenStream
  | .done | .fault _ => .done
  | .token _ rest => rest

/-- The answer to a request, after `k` earlier ones. -/
def answer (s : TokenStream) (k : Nat) : Answer := (tail^[k] s).head

end TokenStream

namespace Lexicon

variable (lex : Lexicon)

/-- The answer to a request for a token of a text, after `k` earlier ones. -/
def answer (text : String) (k : Nat) : Answer :=
  (lex.next ((fun l => (lex.next l).2)^[k] (.start text))).1

/-! ### Refinement -/

/-- The stream of what is left. -/
def rest (l : Lexer) : TokenStream :=
  if l.ended then .done else lex.scan .idle l.pos l.left

/-- An answer, and a lexer behind it, that are the head and the tail of a stream. -/
structure Refines (a : Answer × Lexer) (s : TokenStream) : Prop where
  head : a.1 = s.head
  tail : lex.rest a.2 = s.tail

variable {lex}

/-- What is pending, with a lexer behind it, is what is pending in front of the stream
of what is left. -/
lemma finish_refines {p : Pending} (stop : Nat) {l : Lexer} {s : TokenStream}
    (left : lex.rest l = s) (hp : p = .idle → s = .done) :
    lex.Refines (p.finish stop l) (p.close stop s) := by
  cases p with
  | idle =>
      obtain rfl := hp rfl
      exact ⟨rfl, left⟩
  | quotation start read escaped => exact ⟨rfl, rfl⟩
  | symbol start read => exact ⟨rfl, left⟩
  | numeral start read =>
      by_cases fits : ofDigits read.reverse ≤ int64Max
      · simp only [Pending.finish, Pending.close, fits, if_true]
        exact ⟨rfl, left⟩
      · simp only [Pending.finish, Pending.close, fits, if_false]
        exact ⟨rfl, rfl⟩
  | keyword start read node =>
      cases known : Keywords.indexAt? node <;>
        simp only [Pending.finish, Pending.close, known] <;> exact ⟨rfl, left⟩

/-- Reading on to the end of the next token finds the head of the stream, and leaves
its tail. -/
theorem draw_refines (p : Pending) (pos : Nat) (cs : List Char) :
    lex.Refines (lex.draw p pos cs) (lex.scan p pos cs) := by
  -- in front of a separator, the separator is what is left
  have before : ∀ {pos c cs}, lex.isSeparator c = true →
      lex.rest ⟨pos, c :: cs, false⟩ =
        .token (separatorAt c pos) (lex.scan .idle (pos + 1) cs) :=
    fun sep => lex.scan_idle_separator sep _ _
  fun_induction Lexicon.draw lex p pos cs with
  | case1 p pos =>
      rw [scan]
      exact finish_refines pos rfl fun _ => rfl
  | case2 pos c cs sep =>
      rw [lex.scan_idle_separator sep]
      exact ⟨rfl, rfl⟩
  | case3 pos cs sep ih => simpa [scan, sep] using ih
  | case4 pos cs sep =>
      have zero : lex.scan .idle pos ('0' :: cs) = .fault (.numeral .leadingZero pos) := by
        simp [scan, sep]
      rw [zero]
      exact ⟨rfl, rfl⟩
  | case5 pos c cs sep hq digit hz ih => simpa [scan, sep, hq, digit, hz] using ih
  | case6 pos c cs sep hq digit node child ih =>
      simpa [scan, sep, hq, digit, child] using ih
  | case7 pos c cs sep hq digit child blank ih =>
      simpa [scan, sep, hq, digit, child, blank] using ih
  | case8 pos c cs sep hq digit child blank ih =>
      simpa [scan, sep, hq, digit, child, blank] using ih
  | case9 start read pos c cs ih => simpa [scan] using ih
  | case10 start read escaped pos cs plain =>
      have closed : lex.scan (.quotation start read escaped) pos ('"' :: cs) =
          .token ⟨.string (Pending.textOf read), ⟨start, pos + 1⟩⟩
            (lex.scan .idle (pos + 1) cs) := by
        simp [scan, plain]
      rw [closed]
      exact ⟨rfl, rfl⟩
  | case11 start read escaped pos cs plain hq ih => simpa [scan, plain] using ih
  | case12 start read escaped pos c cs plain hq hb ih =>
      simpa [scan, plain, hq, hb] using ih
  | case13 start read pos c cs digit ih => simpa [scan, digit] using ih
  | case14 start read pos c cs digit blank =>
      rw [scan, if_neg digit, if_pos blank]
      exact finish_refines pos rfl (by simp)
  | case15 start read pos c cs digit blank sep =>
      rw [scan, if_neg digit, if_neg blank, if_pos sep]
      exact finish_refines pos (before sep) (by simp)
  | case16 start read pos c cs digit blank sep ih =>
      simpa [scan, digit, blank, sep] using ih
  | case17 start read node pos c cs next child ih => simpa [scan, child] using ih
  | case18 start read node pos c cs child blank =>
      simp only [scan, child, if_pos blank]
      exact finish_refines pos rfl (by simp)
  | case19 start read node pos c cs child blank sep =>
      simp only [scan, child, if_neg blank, if_pos sep]
      exact finish_refines pos (before sep) (by simp)
  | case20 start read node pos c cs child blank sep ih =>
      simpa [scan, child, blank, sep] using ih
  | case21 start read pos c cs sep =>
      rw [scan, if_pos sep]
      exact finish_refines pos (before sep) (by simp)
  | case22 start read pos c cs sep blank =>
      rw [scan, if_neg sep, if_pos blank]
      exact finish_refines pos rfl (by simp)
  | case23 start read pos c cs sep blank ih => simpa [scan, sep, blank] using ih

/-- A lexer answers with the head of the stream of what is left, and leaves its
tail. -/
lemma next_refines (l : Lexer) : lex.Refines (lex.next l) (lex.rest l) := by
  cases ended : l.ended with
  | true => exact ⟨by simp [next, rest, ended, TokenStream.head],
      by simp [next, rest, ended, TokenStream.tail]⟩
  | false => simpa [next, rest, ended] using lex.draw_refines .idle l.pos l.left

/-- However many tokens have been drawn, what is left is what the stream has left. -/
lemma rest_iterate_next (l : Lexer) (k : Nat) :
    lex.rest ((fun l => (lex.next l).2)^[k] l) = TokenStream.tail^[k] (lex.rest l) :=
  Function.Semiconj.iterate_right (fun l => (lex.next_refines l).tail) k l

/-- Of a text of which nothing has been read, all of it is left. -/
lemma rest_start (text : String) : lex.rest (.start text) = lex.tokenize text := by
  cases h : text.toList <;> simp [rest, Lexer.start, tokenize, h]

/-- **The answers of a lexer are those of the token stream.** -/
theorem answer_eq (text : String) (k : Nat) :
    lex.answer text k = (lex.tokenize text).answer k := by
  rw [answer, (lex.next_refines _).head, rest_iterate_next, rest_start]
  rfl

end Lexicon

/-! ### The answers of a stream -/

namespace TokenStream

variable (s : TokenStream) (k : Nat)

/-- Behind the first answer come those of the tail. -/
lemma answer_succ : s.answer (k + 1) = s.tail.answer k := by
  rw [answer, answer, Function.iterate_succ_apply]

/-- Behind its end, a stream answers nothing. -/
lemma answer_done : answer .done k = .ok none := by
  induction k with
  | zero => rfl
  | succ k ih => rwa [answer_succ]

/-- The answers of a stream: its tokens one after the other, then its fault if it has
one, and nothing from then on. -/
structure Answers (answer : Nat → Answer) (ts : List Token) (f? : Option LexFault) :
    Prop where
  token : ∀ k t, ts[k]? = some t → answer k = .ok (some t)
  fault : ∀ f, f? = some f → answer ts.length = .error f
  done : f? = none → answer ts.length = .ok none
  ended : ∀ k, ts.length < k → answer k = .ok none

/-- A stream answers its tokens, then its fault, and nothing from then on. -/
theorem answers : Answers s.answer s.tokens s.fault? := by
  induction s with
  | done => exact ⟨nofun, nofun, fun _ => rfl, fun k _ => answer_done k⟩
  | fault f =>
      refine ⟨nofun, fun g hg => ?_, nofun, fun k hk => ?_⟩
      · obtain rfl := Option.some.inj hg
        rfl
      · obtain ⟨k, rfl⟩ := Nat.exists_eq_add_one_of_ne_zero (Nat.ne_of_gt hk)
        rw [answer_succ]
        exact answer_done k
  | token t rest ih =>
      refine ⟨fun k u hu => ?_, fun f hf => ?_, fun whole => ?_, fun k hk => ?_⟩
      · cases k with
        | zero =>
            obtain rfl := Option.some.inj hu
            rfl
        | succ k => rw [answer_succ]; exact ih.token k u hu
      · rw [tokens, List.length_cons, answer_succ]
        exact ih.fault f hf
      · rw [tokens, List.length_cons, answer_succ]
        exact ih.done whole
      · rw [tokens, List.length_cons] at hk
        obtain ⟨k, rfl⟩ := Nat.exists_eq_add_one_of_ne_zero (Nat.ne_of_gt (Nat.zero_lt_of_lt hk))
        rw [answer_succ]
        exact ih.ended k (Nat.lt_of_succ_lt_succ hk)

end TokenStream

end RowFilter
