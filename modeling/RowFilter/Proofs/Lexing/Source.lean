/-
What tokens are read from.

* `Span.slice`: the characters of a span.
* `Vocabulary.Shows`: what a lexeme looks like in a text: a separator is its character,
  a quoted text stands between quotes, and a run is what it is as a whole.
* `Vocabulary.ShownFrom`: a token that stands in a text with its lexeme at its span.
* `shownFrom_of_mem_read`, `shows_slice`: every token stands in the text that it is read
  from.
* `keyword_slice`, `separator_cases`: the keywords and separators of a filter.
-/
import RowFilter.Proofs.Lexing.Scan

namespace RowFilter

/-- The characters of a text that a span covers. -/
def Span.slice (s : Span) (text : String) : String :=
  String.ofList ((text.toList.drop s.start).take (s.stop - s.start))

namespace Vocabulary

variable {v : Vocabulary} {pos : Nat}

/-- What a lexeme looks like in a text. -/
def Shows (v : Vocabulary) : Lexeme → List Char → Prop
  | .separator c, here => c ∈ v.separators ∧ here = [c]
  | .string s, here =>
    ∃ body, here = '"' :: (body ++ ['"']) ∧ s = String.ofList (unescape body)
  | .number n, here => v.classify here = .ok (.number n)
  | .operator i, here => v.classify here = .ok (.operator i)
  | .symbol s, here => v.classify here = .ok (.symbol s)

/-- A token stands with its lexeme at its span, where the text begins at place
`pos`. -/
def ShownFrom (v : Vocabulary) (pos : Nat) (cs : List Char) (t : Token) : Prop :=
  ∃ before here behind, cs = before ++ (here ++ behind) ∧
    t.span = ⟨pos + before.length, pos + before.length + here.length⟩ ∧
    v.Shows t.lexeme here

/-- The first characters of a text show a token. -/
lemma ShownFrom.head {l : Lexeme} {here : List Char} (h : v.Shows l here)
    (behind : List Char) :
    v.ShownFrom pos (here ++ behind) ⟨l, ⟨pos, pos + here.length⟩⟩ :=
  ⟨[], here, behind, rfl, rfl, h⟩

/-- Characters in front of a text move the place where the text begins. -/
lemma ShownFrom.behind {front cs : List Char} {t : Token}
    (h : v.ShownFrom (pos + front.length) cs t) : v.ShownFrom pos (front ++ cs) t := by
  obtain ⟨before, here, behind, rfl, span, shows⟩ := h
  refine ⟨front ++ before, here, behind, by simp, ?_, shows⟩
  rw [span, List.length_append, Nat.add_assoc pos]

/-- A run is no quoted text. -/
lemma classify_ne_string {run : List Char} {l : Lexeme} (s : String)
    (h : v.classify run = .ok l) : l ≠ .string s := by
  rintro rfl
  unfold classify at h
  split_ifs at h
  · cases h
  · cases h
  · split at h <;> cases h

/-- A run shows what it is as a whole. -/
lemma shows_of_classify {run : List Char} {l : Lexeme} (h : v.classify run = .ok l) :
    v.Shows l run := by
  cases l with
  | separator c => exact absurd rfl (classify_ne_separator c h)
  | string s => exact absurd rfl (classify_ne_string s h)
  | _ => exact h

/-- A run that is a keyword is the word of that index. -/
lemma word_of_classify {run : List Char} {i : Nat} (h : v.classify run = .ok (.operator i)) :
    v.words[i]? = some (String.ofList run) := by
  unfold classify at h
  split_ifs at h
  · cases h
  · cases h
  · split at h
    · next j last =>
      obtain rfl : j = i := by simpa using h
      have listed := List.mem_of_getLast? last
      obtain ⟨bound, word⟩ := List.mem_idxsOf_iff_exists_getElem_pos.mp listed
      rw [List.getElem?_eq_getElem bound, eq_of_beq word]
    · cases h

/-- Every token stands in the text that it is read from. -/
theorem shownFrom_of_mem_read (pos : Nat) (cs : List Char) :
    ∀ t ∈ (v.read pos cs).tokens, v.ShownFrom pos cs t := by
  -- a token at the beginning, and the tokens behind it
  have first : ∀ {pos stop : Nat} {l : Lexeme} {here behind : List Char} {rest : TokenStream},
      stop = pos + here.length → v.Shows l here →
      (∀ t ∈ rest.tokens, v.ShownFrom stop behind t) →
      ∀ t ∈ (TokenStream.token ⟨l, ⟨pos, stop⟩⟩ rest).tokens,
        v.ShownFrom pos (here ++ behind) t := by
    rintro pos _ l here behind rest rfl shows later t ht
    rcases List.mem_cons.mp ht with rfl | ht
    · exact .head shows behind
    · exact (later t ht).behind
  fun_induction read v pos cs with
  | case1 | case4 | case6 => exact List.forall_mem_nil _
  | case2 pos c cs _ ih => exact fun t ht => @ShownFrom.behind v pos [c] cs t (ih t ht)
  | case3 pos c cs _ sep ih =>
      have shows : v.Shows (.separator c) [c] := ⟨by simpa using sep, rfl⟩
      exact first rfl shows ih
  | case5 pos cs body rest closed _ _ ih =>
      have split : '"' :: cs = '"' :: (body ++ ['"']) ++ rest := by
        simp [eq_of_splitQuoted closed]
      rw [split]
      exact first (by simp [Nat.add_assoc]) ⟨body, rfl, rfl⟩ ih
  | case7 pos c cs _ _ _ run l known ih =>
      have split : c :: cs = run ++ cs.dropWhile v.inRun :=
        congrArg (c :: ·) List.takeWhile_append_dropWhile.symm
      rw [split]
      exact first rfl (shows_of_classify known) ih

/-- What a token is read from is the slice of its span. -/
lemma ShownFrom.shows_slice {text : String} {t : Token} (h : v.ShownFrom 0 text.toList t) :
    v.Shows t.lexeme (t.span.slice text).toList := by
  obtain ⟨before, here, behind, split, span, shows⟩ := h
  rw [Span.slice, split, span]
  simpa using shows

end Vocabulary

/-! ### The tokens of a filter -/

variable {text : String} {t : Token}

/-- Every token of a filter stands in the text at its span. -/
lemma shows_slice (h : t ∈ (filterLexicon.tokenize text).tokens) :
    filterVocabulary.Shows t.lexeme (t.span.slice text).toList := by
  rw [filterLexicon_tokenize] at h
  exact (Vocabulary.shownFrom_of_mem_read 0 text.toList t h).shows_slice

/-- The index of every operator token is that of an operator, whose keyword stands in
the text. -/
theorem keyword_slice {i : Nat} (h : t ∈ (filterLexicon.tokenize text).tokens)
    (ht : t.lexeme = .operator i) :
    ∃ op, Operator.ofIndex? i = some op ∧ t.span.slice text = op.keyword := by
  have shown := shows_slice h
  rw [ht] at shown
  have word : (Operator.all.map Operator.keyword)[i]? = some (String.ofList _) :=
    Vocabulary.word_of_classify shown
  rw [String.ofList_toList, List.getElem?_map] at word
  obtain ⟨op, listed, spelled⟩ := Option.map_eq_some_iff.mp word
  exact ⟨op, listed, spelled.symm⟩

/-- Every separator token is a parenthesis or a comma. -/
theorem separator_cases {c : Char} (h : t ∈ (filterLexicon.tokenize text).tokens)
    (ht : t.lexeme = .separator c) : c = '(' ∨ c = ')' ∨ c = ',' := by
  have shown := shows_slice h
  rw [ht] at shown
  simpa [filterVocabulary, filterSeparators] using shown.1

end RowFilter
