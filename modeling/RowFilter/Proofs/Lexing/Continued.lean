/-
Reading a text and what is written behind it.

* `LexFault.shift`, `Token.shift`, `TokenStream.shift`: faults, tokens and
  streams that stand further back in a text.
* `read_shift`: a text that begins further back has its stream there.
* `read_eq_done_iff`: blanks, and only they, have no tokens and no fault.
* `TokenStream.Continues`: streams that go on where another one ends. A numeral
  that is refused ends both, and anything may become of a quote that is still
  open.
* `splitQuoted_append`, `takeWhile_inRun_append`, `dropWhile_inRun_append`: a
  quoted text that is closed, and a run in front of a blank, end where they
  ended.
* `continues_read`: behind a blank, the stream of a text goes on with the stream
  of what is written there.
-/
import RowFilter.Proofs.Lexing.Runs

namespace RowFilter

/-! ### Further back in a text -/

/-- A fault that stands further back. -/
def LexFault.shift (k : Nat) : LexFault → LexFault
  | .numeral f p => .numeral f (p + k)
  | .unclosed p => .unclosed (p + k)

/-- A token that stands further back. -/
def Token.shift (k : Nat) (t : Token) : Token :=
  ⟨t.lexeme, ⟨t.span.start + k, t.span.stop + k⟩⟩

namespace TokenStream

/-- A stream that stands further back. -/
def shift (k : Nat) : TokenStream → TokenStream
  | .done => .done
  | .fault f => .fault (f.shift k)
  | .token t rest => .token (t.shift k) (rest.shift k)

/-! ### Going on -/

/-- Streams that go on with `next` where another stream ends. A numeral that is
refused ends both of them. What becomes of a quote that is still open is left
open, since what follows may close it. -/
inductive Continues (next : TokenStream) : TokenStream → TokenStream → Prop where
  | done : Continues next .done next
  | numeral (f : NumeralFault) (p : Nat) :
      Continues next (.fault (.numeral f p)) (.fault (.numeral f p))
  | unclosed (p : Nat) (s : TokenStream) : Continues next (.fault (.unclosed p)) s
  | token (t : Token) {s s' : TokenStream} :
      Continues next s s' → Continues next (.token t s) (.token t s')

end TokenStream

/-- A quoted text that is closed stays closed where it was. -/
lemma splitQuoted_append {cs body rest : List Char}
    (h : splitQuoted cs = some (body, rest)) (ds : List Char) :
    splitQuoted (cs ++ ds) = some (body, rest ++ ds) := by
  fun_induction splitQuoted cs generalizing body with
  | case1 => cases h
  | case2 cs =>
      cases h
      exact splitQuoted_quote (rest ++ ds)
  | case3 => cases h
  | case4 d cs _ ih =>
      obtain ⟨⟨inner, rest⟩, closed, whole⟩ := Option.map_eq_some_iff.mp h
      cases whole
      simp [splitQuoted_escaped, ih closed]
  | case5 c cs hq hb ih =>
      obtain ⟨⟨inner, rest⟩, closed, whole⟩ := Option.map_eq_some_iff.mp h
      cases whole
      simp [splitQuoted_cons hq hb, ih closed]

namespace Vocabulary

variable {v : Vocabulary}

/-- A text that begins further back has its stream there. -/
lemma read_shift (k pos : Nat) (cs : List Char) :
    v.read (pos + k) cs = (v.read pos cs).shift k := by
  have swap : ∀ p n : Nat, p + k + n = p + n + k := fun p n => Nat.add_right_comm p k n
  fun_induction read v pos cs with
  | case1 => rw [read, TokenStream.shift]
  | case2 pos c cs blank ih => rw [read_of_isBlank blank, swap, ih]
  | case3 pos c cs blank sep ih =>
      rw [read_of_contains blank sep, TokenStream.shift, swap, ih]
      rfl
  | case4 pos cs closed blank sep =>
      rw [read_unclosed sep closed]
      rfl
  | case5 pos cs body rest closed blank sep ih =>
      rw [read_closed sep closed, TokenStream.shift, swap, swap, ih]
      rfl
  | case6 pos c cs blank sep hq run f refused =>
      rw [read_refused blank sep hq refused]
      rfl
  | case7 pos c cs blank sep hq run l known ih =>
      rw [read_known blank sep hq known, TokenStream.shift, swap, ih]
      rfl

/-- Blanks, and only they, have no tokens and no fault. -/
lemma read_eq_done_iff {pos : Nat} {cs : List Char} :
    v.read pos cs = .done ↔ ∀ c ∈ cs, isBlank c = true := by
  fun_induction read v pos cs with
  | case1 => simp
  | case2 pos c cs blank ih => simp [ih, blank]
  | case3 pos c cs blank | case6 pos c cs blank | case7 pos c cs blank =>
      exact iff_of_false (by simp) fun all => blank (all c List.mem_cons_self)
  | case4 pos cs closed blank | case5 pos cs body rest closed blank =>
      exact iff_of_false (by simp) fun all => blank (all '"' List.mem_cons_self)

/-- A run in front of a blank ends there at the latest. -/
lemma takeWhile_inRun_append {b : Char} (blank : isBlank b = true) (cs ds : List Char) :
    (cs ++ b :: ds).takeWhile v.inRun = cs.takeWhile v.inRun := by
  have outside : v.inRun b = false := by simp [inRun, blank]
  induction cs with
  | nil => simp [outside]
  | cons c cs ih => simp only [List.cons_append, List.takeWhile_cons, ih]

/-- What follows a run in front of a blank is followed by that blank. -/
lemma dropWhile_inRun_append {b : Char} (blank : isBlank b = true) (cs ds : List Char) :
    (cs ++ b :: ds).dropWhile v.inRun = cs.dropWhile v.inRun ++ b :: ds := by
  have outside : v.inRun b = false := by simp [inRun, blank]
  induction cs with
  | nil => simp [outside]
  | cons c cs ih =>
      simp only [List.cons_append, List.dropWhile_cons, ih]
      split_ifs <;> rfl

/-- **Behind a blank, the stream of a text goes on** with the stream of what is
written there. -/
theorem continues_read {b : Char} (blank : isBlank b = true) (ds : List Char) (pos : Nat)
    (cs : List Char) :
    (v.read (pos + cs.length + 1) ds).Continues (v.read pos cs)
      (v.read pos (cs ++ b :: ds)) := by
  -- the lengths of what is read and of what is left add up to the whole
  have one : ∀ (p : Nat) (c : Char) (cs : List Char),
      p + (c :: cs).length + 1 = p + 1 + cs.length + 1 := fun p c cs => by
    rw [List.length_cons]
    omega
  fun_induction read v pos cs with
  | case1 pos =>
      rw [List.nil_append, read_of_isBlank blank]
      exact .done
  | case2 pos c cs first ih =>
      rw [List.cons_append, read_of_isBlank first, one]
      exact ih
  | case3 pos c cs first sep ih =>
      rw [List.cons_append, read_of_contains first sep, one]
      exact .token _ ih
  | case4 pos cs => exact .unclosed pos _
  | case5 pos cs body rest closed first sep ih =>
      have stop : pos + ('"' :: cs).length + 1 =
          pos + body.length + 2 + rest.length + 1 := by
        rw [eq_of_splitQuoted closed, List.length_cons, List.length_append,
          List.length_cons]
        omega
      have longer := splitQuoted_append closed (b :: ds)
      rw [List.cons_append, read_closed sep longer, stop]
      exact .token _ ih
  | case6 pos c cs first sep hq run f refused =>
      have longer : v.classify (c :: (cs ++ b :: ds).takeWhile v.inRun) = .error f := by
        rw [takeWhile_inRun_append blank, refused]
      rw [List.cons_append, read_refused first sep hq longer]
      exact .numeral f pos
  | case7 pos c cs first sep hq run l known ih =>
      have longer : v.classify (c :: (cs ++ b :: ds).takeWhile v.inRun) = .ok l := by
        rw [takeWhile_inRun_append blank, known]
      have stop : pos + (c :: cs).length + 1 =
          pos + run.length + (cs.dropWhile v.inRun).length + 1 := by
        have whole := congrArg List.length
          (List.takeWhile_append_dropWhile (p := v.inRun) (l := cs))
        simp only [run, List.length_append, List.length_cons] at whole ⊢
        omega
      rw [List.cons_append, read_known first sep hq longer, takeWhile_inRun_append blank,
        dropWhile_inRun_append blank, stop]
      exact .token _ ih

end Vocabulary

end RowFilter
