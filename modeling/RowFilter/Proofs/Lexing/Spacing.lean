/-
Blanks put in between the tokens of a text.

* `Insertion`: characters that are put into a text, and where starts and ends of
  spans are behind them.
* `Relabelling.moving`: spans start and stop elsewhere, and literals stay.
* `Insertion.Between`: the insertion is not strictly inside of a token.
* `Insertion.Shifts`: two streams without a fault, of which the second one has the
  tokens of the first one, moved.
* `start_of_mem_read`: tokens stand behind the place where reading begins, and
  are not empty.
* `splitQuoted_body`, `not_inRun_head_insert`: a quoted text and a run that end in
  front of the blanks end where they ended.
* `shifts_read_insert`: with blanks put in between its tokens, a text has the same
  tokens, moved.
-/
import RowFilter.Proofs.Lexing.Continued
import RowFilter.Proofs.Lexing.Layout
import RowFilter.Proofs.Relabel

namespace RowFilter

/-! ### Insertions -/

/-- Characters that are put into a text: the place in front of which they stand, and
their number. -/
structure Insertion where
  place : Nat
  width : Nat

/-- Spans start and stop elsewhere, and literals stay. -/
def Relabelling.moving (start stop : Nat → Nat) : Relabelling where
  span := fun s => ⟨start s.start, stop s.stop⟩

namespace TokenStream

/-- A stream that stands further back has its fault there. -/
lemma fault?_shift (k : Nat) (s : TokenStream) :
    (s.shift k).fault? = s.fault?.map (LexFault.shift k) := by
  induction s with
  | done => rfl
  | fault f => rfl
  | token t rest ih => exact ih

/-- A stream that stands further back has its tokens there. -/
lemma tokens_shift (k : Nat) (s : TokenStream) :
    (s.shift k).tokens = s.tokens.map (Token.shift k) := by
  induction s with
  | done => rfl
  | fault f => rfl
  | token t rest ih => exact congrArg (t.shift k :: ·) ih

end TokenStream

namespace Insertion

variable (ins : Insertion)

/-- Where the character of a place is after the insertion. -/
def start (p : Nat) : Nat := if ins.place ≤ p then p + ins.width else p

/-- Where a span ends after the insertion that ended in front of a place. -/
def stop (q : Nat) : Nat := if ins.place < q then q + ins.width else q

/-- Spans move with what they hold. -/
def relabelling : Relabelling := .moving ins.start ins.stop

/-- The insertion is not strictly inside of a token. -/
def Between (ts : List Token) : Prop :=
  ∀ t ∈ ts, ¬(t.span.start < ins.place ∧ ins.place < t.span.stop)

instance (ts : List Token) : Decidable (ins.Between ts) :=
  inferInstanceAs (Decidable (∀ t ∈ ts, _))

variable {ins} {p : Nat}

lemma start_of_le (h : ins.place ≤ p) : ins.start p = p + ins.width := if_pos h

lemma start_of_lt (h : p < ins.place) : ins.start p = p := if_neg (Nat.not_le.mpr h)

lemma stop_of_lt (h : ins.place < p) : ins.stop p = p + ins.width := if_pos h

lemma stop_of_le (h : p ≤ ins.place) : ins.stop p = p := if_neg (Nat.not_lt.mpr h)

lemma relabelling_token (l : Lexeme) (s : Span) :
    ins.relabelling.token ⟨l, s⟩ = ⟨l, ⟨ins.start s.start, ins.stop s.stop⟩⟩ := by
  cases l <;> rfl

/-- Whatever stands behind an insertion is shifted. -/
lemma token_of_le {t : Token} (start : ins.place ≤ t.span.start)
    (stop : ins.place < t.span.stop) :
    ins.relabelling.token t = t.shift ins.width := by
  rw [relabelling_token, start_of_le start, stop_of_lt stop, Token.shift]

/-- Whatever stands in front of an insertion stays. -/
lemma token_of_stop_le {l : Lexeme} {start stop : Nat} (first : start < stop)
    (h : stop ≤ ins.place) :
    ins.relabelling.token ⟨l, ⟨start, stop⟩⟩ = ⟨l, ⟨start, stop⟩⟩ := by
  rw [relabelling_token, start_of_lt (Nat.lt_of_lt_of_le first h), stop_of_le h]

/-- A stream without a fault whose tokens are those of another one, moved. -/
structure Shifts (ins : Insertion) (s s' : TokenStream) : Prop where
  whole : s'.fault? = none
  tokens : s'.tokens = s.tokens.map ins.relabelling.token

/-- A token in front of the insertion stays. -/
lemma Shifts.token {s s' : TokenStream} {l : Lexeme} {start stop : Nat}
    (first : start < stop) (h : stop ≤ ins.place) (rest : ins.Shifts s s') :
    ins.Shifts (.token ⟨l, ⟨start, stop⟩⟩ s) (.token ⟨l, ⟨start, stop⟩⟩ s') := by
  refine ⟨rest.whole, ?_⟩
  rw [TokenStream.tokens, TokenStream.tokens, List.map_cons, token_of_stop_le first h,
    rest.tokens]

/-- An insertion between tokens is one between the tokens behind the first. -/
lemma Between.tail {t : Token} {s : TokenStream}
    (h : ins.Between (TokenStream.token t s).tokens) : ins.Between s.tokens :=
  fun u hu => h u (List.mem_cons_of_mem t hu)

/-- A token that begins in front of an insertion between tokens also ends there. -/
lemma Between.stop_le {l : Lexeme} {start stop : Nat} {s : TokenStream}
    (h : ins.Between (TokenStream.token ⟨l, ⟨start, stop⟩⟩ s).tokens)
    (first : start < ins.place) : stop ≤ ins.place :=
  Nat.not_lt.mp fun inside => h _ List.mem_cons_self ⟨first, inside⟩

end Insertion

/-! ### Ends of quoted texts and of runs -/

/-- What stands behind its closing quote does not matter to a quoted text. -/
lemma splitQuoted_body {cs body rest : List Char} (h : splitQuoted cs = some (body, rest))
    (ds : List Char) : splitQuoted (body ++ '"' :: ds) = some (body, ds) := by
  fun_induction splitQuoted cs generalizing body with
  | case1 => cases h
  | case2 cs =>
      cases h
      exact splitQuoted_quote ds
  | case3 => cases h
  | case4 d cs _ ih =>
      obtain ⟨⟨inner, rest⟩, closed, whole⟩ := Option.map_eq_some_iff.mp h
      cases whole
      simp [splitQuoted_escaped, ih closed]
  | case5 c cs hq hb ih =>
      obtain ⟨⟨inner, rest⟩, closed, whole⟩ := Option.map_eq_some_iff.mp h
      cases whole
      simp [splitQuoted_cons hq hb, ih closed]

/-- Of two ways to cut a text in two, the shorter first part begins the longer
one. -/
lemma exists_append_of_length_le {α : Type} {xs ys cs ds : List α}
    (h : xs ++ ys = cs ++ ds) (le : cs.length ≤ xs.length) :
    ∃ es, xs = cs ++ es ∧ ds = es ++ ys := by
  obtain ⟨es, rfl⟩ := List.prefix_of_prefix_length_le ⟨ds, h.symm⟩ ⟨ys, rfl⟩ le
  rw [List.append_assoc] at h
  exact ⟨es, rfl, (List.append_cancel_left h).symm⟩

/-- A quoted text that ends in a first part of a text goes on with the rest of that
part. -/
lemma exists_quoted_rest {cs ds body rest : List Char}
    (closed : splitQuoted (cs ++ ds) = some (body, rest)) (le : body.length + 1 ≤ cs.length) :
    ∃ es, cs = body ++ '"' :: es ∧ rest = es ++ ds := by
  have cut : cs ++ ds = (body ++ ['"']) ++ rest := by
    rw [eq_of_splitQuoted closed, List.append_assoc, List.singleton_append]
  obtain ⟨es, rfl, rfl⟩ := exists_append_of_length_le cut (by simpa using le)
  exact ⟨es, by simp, rfl⟩

namespace Vocabulary

variable {v : Vocabulary} {blanks ds : List Char}

/-- Where a run ends, it ends also in front of blanks. -/
lemma not_inRun_head_insert {cs : List Char} (hblanks : ∀ b ∈ blanks, isBlank b = true)
    (h : ∀ d ∈ (cs ++ ds).head?, v.inRun d = false) :
    ∀ d ∈ (cs ++ (blanks ++ ds)).head?, v.inRun d = false := by
  intro d hd
  cases cs with
  | cons c cs => exact h d hd
  | nil =>
      cases blanks with
      | nil => exact h d hd
      | cons b blanks =>
          obtain rfl : b = d := Option.some.inj hd
          simp [inRun, hblanks b (by simp)]

/-! ### Reading with blanks put in -/

/-- Tokens stand behind the place where reading begins, and are not empty. -/
lemma start_of_mem_read (pos : Nat) (cs : List Char) :
    ∀ t ∈ (v.read pos cs).tokens, pos ≤ t.span.start ∧ t.span.start < t.span.stop := by
  -- what holds of the tokens behind the first one holds of all
  have later : ∀ {p q : Nat} {l : Lexeme} {rest : TokenStream}, p < q →
      (∀ t ∈ rest.tokens, q ≤ t.span.start ∧ t.span.start < t.span.stop) →
      ∀ t ∈ (TokenStream.token ⟨l, ⟨p, q⟩⟩ rest).tokens,
        p ≤ t.span.start ∧ t.span.start < t.span.stop := by
    intro p q l rest first h t ht
    rcases List.mem_cons.mp ht with rfl | ht
    · exact ⟨Nat.le_refl p, first⟩
    · exact ⟨Nat.le_trans (Nat.le_of_lt first) (h t ht).1, (h t ht).2⟩
  fun_induction read v pos cs with
  | case1 | case4 | case6 => exact List.forall_mem_nil _
  | case2 pos c cs _ ih => exact fun t ht => ⟨Nat.le_of_succ_le (ih t ht).1, (ih t ht).2⟩
  | case3 pos c cs _ _ ih => exact later (Nat.lt_succ_self pos) ih
  | case5 pos cs body rest _ _ _ ih => exact later (by omega) ih
  | case7 pos c cs _ _ _ run l _ ih => exact later (Nat.lt_add_of_pos_right (by simp [run])) ih

/-- In front of all tokens, blanks shift them. -/
lemma shifts_read_blanks (hblanks : ∀ b ∈ blanks, isBlank b = true) {pos : Nat}
    {ins : Insertion} (place : ins.place = pos) (width : ins.width = blanks.length)
    (whole : (v.read pos ds).fault? = none) :
    ins.Shifts (v.read pos ds) (v.read pos (blanks ++ ds)) := by
  have shifted : ∀ t ∈ (v.read pos ds).tokens, ins.relabelling.token t = t.shift ins.width := by
    intro t ht
    obtain ⟨start, stop⟩ := start_of_mem_read pos ds t ht
    exact Insertion.token_of_le (by omega) (by omega)
  rw [read_blanks hblanks, ← width, read_shift]
  exact ⟨by rw [TokenStream.fault?_shift, whole, Option.map_none],
    by rw [TokenStream.tokens_shift, List.map_congr_left shifted]⟩

/-- **With blanks put in between its tokens, a text has the same tokens**, which have
moved where they stand behind the blanks, and still no fault. -/
theorem shifts_read_insert (hblanks : ∀ b ∈ blanks, isBlank b = true) {pos : Nat}
    {cs : List Char} {ins : Insertion} (place : ins.place = pos + cs.length)
    (width : ins.width = blanks.length) (whole : (v.read pos (cs ++ ds)).fault? = none)
    (between : ins.Between (v.read pos (cs ++ ds)).tokens) :
    ins.Shifts (v.read pos (cs ++ ds)) (v.read pos (cs ++ (blanks ++ ds))) := by
  induction hn : cs.length using Nat.strongRecOn generalizing pos cs with
  | _ n ih =>
  cases cs with
  | nil => exact shifts_read_blanks hblanks place width whole
  | cons c cs =>
      rw [List.length_cons] at place hn
      simp only [List.cons_append] at whole between ⊢
      by_cases blank : isBlank c = true
      · rw [read_of_isBlank blank] at whole between ⊢
        rw [read_of_isBlank blank]
        exact ih cs.length (by omega) (by omega) whole between rfl
      by_cases sep : v.separators.contains c = true
      · rw [read_of_contains blank sep] at whole between ⊢
        rw [read_of_contains blank sep]
        refine .token (Nat.lt_succ_self pos) (by omega) ?_
        exact ih cs.length (by omega) (by omega) whole between.tail rfl
      by_cases hq : c = '"'
      · subst hq
        cases closed : splitQuoted (cs ++ ds) with
        | none =>
            rw [read_unclosed sep closed] at whole
            cases whole
        | some p =>
            obtain ⟨body, rest⟩ := p
            rw [read_closed sep closed] at whole between ⊢
            have stop := between.stop_le (by omega)
            obtain ⟨es, rfl, rfl⟩ := exists_quoted_rest closed (by omega)
            have longer : splitQuoted (body ++ '"' :: es ++ (blanks ++ ds)) =
                some (body, es ++ (blanks ++ ds)) := by
              simpa using splitQuoted_body closed (es ++ (blanks ++ ds))
            simp only [List.length_append, List.length_cons] at place hn
            rw [read_closed sep longer]
            refine .token (by omega) stop ?_
            exact ih es.length (by omega) (by omega) whole between.tail rfl
      · cases known : v.classify (c :: (cs ++ ds).takeWhile v.inRun) with
        | error f =>
            rw [read_refused blank sep hq known] at whole
            cases whole
        | ok l =>
            have run := spells_takeWhile blank sep hq known
            have ends := head?_dropWhile_inRun (v := v) (cs ++ ds)
            rw [read_known blank sep hq known] at whole between ⊢
            have stop := between.stop_le (by omega)
            have cut := (List.takeWhile_append_dropWhile (p := v.inRun) (l := cs ++ ds)).symm
            generalize (cs ++ ds).takeWhile v.inRun = taken at *
            generalize (cs ++ ds).dropWhile v.inRun = rest at *
            rw [List.length_cons] at stop
            obtain ⟨es, rfl, rfl⟩ := exists_append_of_length_le cut (by omega)
            have longer := read_run run pos (not_inRun_head_insert hblanks ends)
            rw [List.append_assoc, ← List.cons_append, longer]
            rw [List.length_append] at place hn
            refine .token (by simp) (by simpa using stop) ?_
            exact ih es.length (by omega) (by simp; omega) whole between.tail rfl

end Vocabulary

end RowFilter
