/-
Lexing loses nothing.

* `drop_behind`, `getElem?_behind`: places behind the first of several texts.
* `Accounts.bounds`, `Accounts.ordered`: the tokens of a stream that accounts for a
  text stand in the text, one behind the other.
* `Accounts.covers_slice`: each of them covers the characters of its span.
* `Accounts.isBlank_of_uncovered`: what no token covers is blank.
* `Accounts.fault_begins`: where a fault stands.
* `Vocabulary.Lossless`: what tokens and a fault of a text have to satisfy so that
  nothing is lost.
* `lossless_answers`: the tokens that are drawn from a text one at a time, and the
  fault that may end them, do.
-/
import RowFilter.Proofs.Lexing.Account
import RowFilter.Proofs.Lexing.Drawn
import RowFilter.Proofs.Lexing.Source

namespace RowFilter

/-- A place in three texts, one behind the other, is a place in one of them. -/
lemma getElem?_append_cases {α : Type} {xs ys zs : List α} {i : Nat} {a : α}
    (h : (xs ++ (ys ++ zs))[i]? = some a) :
    xs[i]? = some a ∨ (∃ j, i = xs.length + j ∧ ys[j]? = some a) ∨
      ∃ j, i = xs.length + ys.length + j ∧ zs[j]? = some a := by
  by_cases first : i < xs.length
  · rw [List.getElem?_append_left first] at h
    exact .inl h
  rw [List.getElem?_append_right (by omega)] at h
  by_cases second : i - xs.length < ys.length
  · rw [List.getElem?_append_left second] at h
    exact .inr (.inl ⟨i - xs.length, by omega, h⟩)
  · rw [List.getElem?_append_right (by omega)] at h
    exact .inr (.inr ⟨i - xs.length - ys.length, by omega, h⟩)

/-- What stands at a place behind two texts stands in the third one. -/
lemma drop_behind {α : Type} {xs ys : List α} {pos i : Nat} (zs : List α)
    (behind : pos + xs.length + ys.length ≤ i) :
    (xs ++ (ys ++ zs)).drop (i - pos) = zs.drop (i - (pos + xs.length + ys.length)) := by
  have place : i - pos =
      (xs ++ ys).length + (i - (pos + xs.length + ys.length)) := by
    rw [List.length_append]
    omega
  rw [← List.append_assoc, place, List.drop_length_add_append]

lemma getElem?_behind {α : Type} {xs ys : List α} {pos i : Nat} (zs : List α)
    (behind : pos + xs.length + ys.length ≤ i) :
    (xs ++ (ys ++ zs))[i - pos]? = zs[i - (pos + xs.length + ys.length)]? := by
  rw [← List.head?_drop, drop_behind zs behind, List.head?_drop]

/-- Whether a place is inside of a span. -/
def Span.Holds (s : Span) (i : Nat) : Prop := s.start ≤ i ∧ i < s.stop

namespace Vocabulary

variable {v : Vocabulary} {pos i : Nat} {cs : List Char} {s : TokenStream} {c : Char}

/-- What is read with a lexeme is blank. -/
lemma Gap.isBlank {l : Lexeme} {gap : List Char} (h : v.Gap l gap cs) (hc : c ∈ gap) :
    isBlank c = true := by
  rcases h with ⟨rfl, -⟩ | ⟨b, rfl, blank, -⟩
  · cases hc
  · obtain rfl := List.mem_singleton.mp hc
    exact blank

namespace Accounts

/-! ### Spans -/

/-- Tokens are not empty, and stand in the characters that the stream accounts for. -/
lemma bounds (h : v.Accounts pos cs s) :
    ∀ t ∈ s.tokens, pos ≤ t.span.start ∧ t.span.start < t.span.stop ∧
      t.span.stop ≤ pos + cs.length := by
  induction h with
  | done | fault => exact List.forall_mem_nil _
  | blank _ _ _ ih =>
      intro t ht
      have later := ih t ht
      rw [List.length_cons]
      omega
  | @token pos l here cs s gap covers _ _ ih =>
      have nonempty := List.length_pos_iff.mpr covers.nonempty
      refine List.forall_mem_cons.mpr ⟨?_, fun t ht => ?_⟩
      · simp only [List.length_append]
        omega
      · have later := ih t ht
        simp only [List.length_append]
        omega

/-- Each token ends in front of those behind it. -/
lemma ordered (h : v.Accounts pos cs s) :
    s.tokens.Pairwise fun t u => t.span.stop ≤ u.span.start := by
  induction h with
  | done | fault => exact .nil
  | blank _ _ _ ih => exact ih
  | token gap _ _ rest ih =>
      refine List.pairwise_cons.mpr ⟨fun t ht => ?_, ih⟩
      exact Nat.le_trans (Nat.le_add_right _ gap.length) (rest.bounds t ht).1

/-- There are at most as many tokens as characters. -/
lemma length_tokens_le (h : v.Accounts pos cs s) : s.tokens.length ≤ cs.length := by
  induction h with
  | done | fault => exact Nat.zero_le _
  | blank _ _ _ ih => exact Nat.le_succ_of_le ih
  | token gap covers _ _ ih =>
      have nonempty := List.length_pos_iff.mpr covers.nonempty
      simp only [TokenStream.tokens, List.length_cons, List.length_append]
      omega

/-! ### What tokens cover -/

/-- Each token covers the characters of its span. -/
lemma covers_slice (h : v.Accounts pos cs s) :
    ∀ t ∈ s.tokens, v.Covers t.lexeme
      ((cs.drop (t.span.start - pos)).take (t.span.stop - t.span.start)) := by
  induction h with
  | done | fault => exact List.forall_mem_nil _
  | @blank pos c cs s _ _ rest ih =>
      intro t ht
      have first := (rest.bounds t ht).1
      have behind : t.span.start - pos = t.span.start - (pos + 1) + 1 := by omega
      rw [behind, List.drop_succ_cons]
      exact ih t ht
  | @token pos l here cs s gap covers _ rest ih =>
      refine List.forall_mem_cons.mpr ⟨by simpa using covers, fun t ht => ?_⟩
      rw [drop_behind cs (rest.bounds t ht).1]
      exact ih t ht

/-- In front of the fault, whatever no token covers is blank. -/
lemma isBlank_of_uncovered (h : v.Accounts pos cs s) (hc : cs[i]? = some c)
    (before : ∀ f, s.fault? = some f → pos + i < f.position)
    (uncovered : ∀ t ∈ s.tokens, ¬t.span.Holds (pos + i)) : isBlank c = true := by
  induction h generalizing i with
  | done => cases hc
  | fault => exact absurd (before _ rfl) (by omega)
  | @blank pos d cs s blank _ _ ih =>
      cases i with
      | zero =>
          obtain rfl := Option.some.inj hc
          exact blank
      | succ i =>
          rw [← Nat.add_assoc, Nat.add_right_comm] at before uncovered
          exact ih hc before uncovered
  | @token pos l here cs s gap covers hgap _ ih =>
      obtain ⟨first, others⟩ := List.forall_mem_cons.mp uncovered
      rcases getElem?_append_cases hc with inside | ⟨j, rfl, hj⟩ | ⟨j, rfl, hj⟩
      · obtain ⟨lt, -⟩ := List.getElem?_eq_some_iff.mp inside
        exact absurd ⟨Nat.le_add_right pos i, Nat.add_lt_add_left lt pos⟩ first
      · exact hgap.isBlank (List.mem_of_getElem? hj)
      · rw [← Nat.add_assoc, ← Nat.add_assoc] at before others
        exact ih hj before others

/-- A fault stands behind all tokens, at a character with which it begins. -/
lemma fault_begins (h : v.Accounts pos cs s) {f : LexFault} (hf : s.fault? = some f) :
    pos ≤ f.position ∧ (∀ t ∈ s.tokens, t.span.stop ≤ f.position) ∧
      ∃ c, cs[f.position - pos]? = some c ∧ f.Begins c := by
  induction h with
  | done => cases hf
  | @fault g c cs begins =>
      obtain rfl := Option.some.inj hf
      exact ⟨Nat.le_refl _, List.forall_mem_nil _, c, by simp, begins⟩
  | @blank pos c cs s _ _ _ ih =>
      obtain ⟨first, behind, d, hd, begins⟩ := ih hf
      have place : f.position - pos = f.position - (pos + 1) + 1 := by omega
      exact ⟨by omega, behind, d, by rwa [place, List.getElem?_cons_succ], begins⟩
  | @token pos l here cs s gap _ _ _ ih =>
      obtain ⟨first, behind, d, hd, begins⟩ := ih hf
      refine ⟨by omega, List.forall_mem_cons.mpr ⟨?_, behind⟩, d, ?_, begins⟩
      · exact Nat.le_trans (Nat.le_add_right _ gap.length) first
      · rwa [getElem?_behind cs first]

end Accounts

/-! ### Whole texts -/

/-- Tokens of a text, and a fault that may end them, with which nothing of the text is
lost. -/
structure Lossless (v : Vocabulary) (text : String) (ts : List Token)
    (f? : Option LexFault) : Prop where
  /-- There are no more tokens than characters. -/
  few : ts.length ≤ text.length
  /-- No span is empty, and all are inside of the text. -/
  inside : ∀ t ∈ ts, t.span.start < t.span.stop ∧ t.span.stop ≤ text.length
  /-- The spans are in order, and disjoint. -/
  ordered : ts.Pairwise fun t u => t.span.stop ≤ u.span.start
  /-- Outside of all spans, and in front of the fault, there are only blanks. -/
  blank : ∀ i c, text.toList[i]? = some c → (∀ f, f? = some f → i < f.position) →
    (∀ t ∈ ts, ¬t.span.Holds i) → isBlank c = true
  /-- Each token looks like the characters of its span. -/
  spelled : ∀ t ∈ ts, v.Matches t.lexeme (t.span.slice text).toList
  /-- The fault stands behind all tokens, at a character with which it begins. -/
  fault : ∀ f, f? = some f → (∀ t ∈ ts, t.span.stop ≤ f.position) ∧
    ∃ c, text.toList[f.position]? = some c ∧ f.Begins c

/-- A stream that accounts for a text loses nothing of it. -/
lemma Accounts.lossless {text : String} (h : v.Accounts 0 text.toList s) :
    v.Lossless text s.tokens s.fault? where
  few := String.length_toList ▸ h.length_tokens_le
  inside t ht := by
    have bounds := (h.bounds t ht).2
    rwa [Nat.zero_add, String.length_toList] at bounds
  ordered := h.ordered
  blank i c hc before uncovered :=
    h.isBlank_of_uncovered hc (by simpa using before) (by simpa using uncovered)
  spelled t ht := by simpa [Span.slice] using (h.covers_slice t ht).spelled
  fault f hf := (h.fault_begins hf).2

/-- **Lexing loses nothing**, whatever the words and the separators are. When tokens are
drawn from a text one at a time, those of its stream come one after the other, then its
fault if it has one, and nothing from then on; and of these tokens and this fault, each
has its own characters of the text, in order, with only blanks between them. -/
theorem lossless_answers (v : Vocabulary) (text : String) :
    TokenStream.Answers (v.lexicon.answer text) (v.lexicon.tokenize text).tokens
        (v.lexicon.tokenize text).fault? ∧
      v.Lossless text (v.lexicon.tokenize text).tokens (v.lexicon.tokenize text).fault? := by
  refine ⟨?_, (v.accounts_tokenize text).lossless⟩
  have same : v.lexicon.answer text = (v.lexicon.tokenize text).answer :=
    funext (v.lexicon.answer_eq text)
  rw [same]
  exact (v.lexicon.tokenize text).answers

end Vocabulary

end RowFilter
