/-
The tokens of JSON texts that are put together.

* `jsonTokens_mark`, `jsonTokens_text`, `jsonTokens_numeral`, `jsonTokens_word`: the
  first token of a text.
* `isJsonStop`, `readNumeralText_append`, `readWord_append`: a numeral and a word end
  where a blank or a mark follows.
* `JsonToken.IsSound`, `jsonTokens_append`: a text without broken tokens keeps them when
  a blank or a mark follows.
* `jsonTokens_jsonQuoted`: a written text is one token.
* `commaJoined`, `jsonTokens_bracketed`: texts between brackets, with commas and blanks
  between them.
-/
import RowFilter.Json.Token
import RowFilter.Proofs.Computations
import RowFilter.Proofs.Json.Text

namespace RowFilter

/-! ### The first token -/

/-- The six marks. -/
lemma eq_of_isJsonMark {c : Char} (h : isJsonMark c = true) :
    c = '\x7b' ∨ c = '\x7d' ∨ c = '[' ∨ c = ']' ∨ c = ':' ∨ c = ',' := by
  simpa [isJsonMark] using h

lemma jsonTokens_blank {c : Char} (h : isJsonBlank c = true) (cs : List Char) :
    jsonTokens (c :: cs) = jsonTokens cs := by
  rw [jsonTokens, if_pos h]

lemma jsonTokens_blanks {blanks : List Char} (blank : ∀ c ∈ blanks, isJsonBlank c = true)
    (cs : List Char) : jsonTokens (blanks ++ cs) = jsonTokens cs := by
  induction blanks with
  | nil => rfl
  | cons c blanks ih =>
      obtain ⟨first, others⟩ := List.forall_mem_cons.mp blank
      rw [List.cons_append, jsonTokens_blank first, ih others]

lemma jsonTokens_mark {c : Char} (h : isJsonMark c = true) (cs : List Char) :
    jsonTokens (c :: cs) = .mark c :: jsonTokens cs := by
  have blank : ¬isJsonBlank c = true := by
    rcases eq_of_isJsonMark h with rfl | rfl | rfl | rfl | rfl | rfl <;> decide
  rw [jsonTokens, if_neg blank, if_pos h]

lemma jsonTokens_text {cs rest : List Char} (h : (readText cs).2 = .ok rest) :
    jsonTokens ('"' :: cs) = .text (readText cs).1 :: jsonTokens rest := by
  rw [jsonTokens, if_neg (by decide), if_neg (by decide), if_pos rfl]
  split
  · next rest' h' =>
    rw [h] at h'
    cases h'
    rfl
  · next h' =>
    rw [h] at h'
    cases h'

lemma jsonTokens_numeral {c : Char} {cs rest : List Char} {a : Numeral}
    (start : c = '-' ∨ c.isDigit = true) (h : readNumeralText (c :: cs) = .ok (a, rest)) :
    jsonTokens (c :: cs) = .numeral a :: jsonTokens rest := by
  have blank : ¬isJsonBlank c = true := by
    intro hc
    simp only [isJsonBlank, Bool.or_eq_true, decide_eq_true_eq] at hc
    rcases hc with ((rfl | rfl) | rfl) | rfl <;> simp at start
  have mark : ¬isJsonMark c = true := by
    intro hc
    rcases eq_of_isJsonMark hc with rfl | rfl | rfl | rfl | rfl | rfl <;> simp at start
  have quote : ¬c = '"' := by
    rintro rfl
    simp at start
  rw [jsonTokens, if_neg blank, if_neg mark, if_neg quote, if_pos start]
  split
  · next a' rest' h' =>
    rw [h] at h'
    cases h'
    rfl
  · next h' =>
    rw [h] at h'
    cases h'

lemma jsonTokens_word {c : Char} {ws cs rest : List Char} {t : JsonToken}
    (known : wordAt? c = some (ws, t)) (h : readWord ws cs = .ok rest) :
    jsonTokens (c :: cs) = t :: jsonTokens rest := by
  have letter : c = 'n' ∨ c = 't' ∨ c = 'f' := by
    unfold wordAt? at known
    split at known <;> simp_all
  have blank : ¬isJsonBlank c = true := by rcases letter with rfl | rfl | rfl <;> decide
  have mark : ¬isJsonMark c = true := by rcases letter with rfl | rfl | rfl <;> decide
  have quote : ¬c = '"' := by rcases letter with rfl | rfl | rfl <;> decide
  have numeral : ¬(c = '-' ∨ c.isDigit = true) := by
    rcases letter with rfl | rfl | rfl <;> decide
  rw [jsonTokens, if_neg blank, if_neg mark, if_neg quote, if_neg numeral, known]
  simp only
  split
  · next rest' h' =>
    rw [h] at h'
    cases h'
    rfl
  · next h' =>
    rw [h] at h'
    cases h'

/-! ### Numerals and words in front of others -/

/-- What follows behind a word is left. -/
lemma readWord_append {ws cs rest : List Char} (h : readWord ws cs = .ok rest)
    (more : List Char) : readWord ws (cs ++ more) = .ok (rest ++ more) := by
  fun_induction readWord ws cs with
  | case1 cs =>
      obtain rfl := Except.ok.inj h
      rfl
  | case2 | case4 => cases h
  | case3 w ws cs ih =>
      rw [List.cons_append, readWord, if_pos rfl]
      exact ih h

/-- Blanks and marks, which are part of no numeral. -/
def isJsonStop (c : Char) : Bool := isJsonBlank c || isJsonMark c

/-- A blank or a mark is no digit. -/
lemma isDigit_of_isJsonStop {c : Char} (h : isJsonStop c = true) : c.isDigit = false := by
  rcases Bool.or_eq_true_iff.mp h with h | h
  · simp only [isJsonBlank, Bool.or_eq_true, decide_eq_true_eq] at h
    rcases h with ((rfl | rfl) | rfl) | rfl <;> rfl
  · rcases eq_of_isJsonMark h with rfl | rfl | rfl | rfl | rfl | rfl <;> rfl

section Numerals

variable {more : List Char} (stop : ∀ c ∈ more.head?, isJsonStop c = true)

include stop

lemma readDigits_append {s ds rest : List Char} (h : readDigits s = .ok (ds, rest)) :
    readDigits (s ++ more) = .ok (ds, rest ++ more) := by
  have digits := fun c hc => isDigit_of_isJsonStop (stop c hc)
  unfold readDigits at h ⊢
  rw [takeWhile_isDigit_append digits, dropWhile_isDigit_append digits]
  simp only at h ⊢
  split_ifs at h ⊢ with none
  cases h
  rfl

lemma readWhole_append {s ds rest : List Char} (h : readWhole s = .ok (ds, rest)) :
    readWhole (s ++ more) = .ok (ds, rest ++ more) := by
  unfold readWhole at h ⊢
  cases read : readDigits s with
  | error f =>
      rw [read] at h
      cases h
  | ok r =>
      rw [read] at h
      rw [readDigits_append stop read]
      simp only [Except.bind] at h ⊢
      split_ifs at h ⊢ with zero
      cases h
      rfl

/-- A character that is part of a numeral does not come in front by what follows. -/
lemma head?_append_ne {d : Char} (inner : isJsonStop d = false) {s : List Char}
    (h : s.head? ≠ some d) : (s ++ more).head? ≠ some d := by
  cases s with
  | nil =>
      intro first
      rw [stop d first] at inner
      cases inner
  | cons c s => exact h

omit stop in
lemma readFraction_of_head? {s : List Char} (h : s.head? ≠ some '.') :
    readFraction s = .ok ([], s) := by
  unfold readFraction
  split
  · simp at h
  · rfl

lemma readFraction_append {s ds rest : List Char} (h : readFraction s = .ok (ds, rest)) :
    readFraction (s ++ more) = .ok (ds, rest ++ more) := by
  by_cases point : s.head? = some '.'
  · obtain ⟨s, rfl⟩ := List.head?_eq_some_iff.mp point
    exact readDigits_append stop h
  · rw [readFraction_of_head? point] at h
    cases h
    exact readFraction_of_head? (head?_append_ne stop (by decide) point)

omit stop in
lemma readSignedDigits_of_head? {s : List Char} (minus : s.head? ≠ some '-')
    (plus : s.head? ≠ some '+') :
    readSignedDigits s = (readDigits s).map fun r => ((false, r.1), r.2) := by
  unfold readSignedDigits
  split
  · simp at minus
  · simp at plus
  · rfl

lemma readSignedDigits_append {s rest : List Char} {e : Bool × List Char}
    (h : readSignedDigits s = .ok (e, rest)) :
    readSignedDigits (s ++ more) = .ok (e, rest ++ more) := by
  have digits : ∀ {negative : Bool} {s : List Char},
      (readDigits s).map (fun r => ((negative, r.1), r.2)) = .ok (e, rest) →
      (readDigits (s ++ more)).map (fun r => ((negative, r.1), r.2)) =
        .ok (e, rest ++ more) := by
    intro negative s h
    obtain ⟨⟨ds, rest'⟩, read, same⟩ := except_map_eq_ok_iff.mp h
    cases same
    rw [readDigits_append stop read]
    rfl
  by_cases minus : s.head? = some '-'
  · obtain ⟨s, rfl⟩ := List.head?_eq_some_iff.mp minus
    exact digits h
  · by_cases plus : s.head? = some '+'
    · obtain ⟨s, rfl⟩ := List.head?_eq_some_iff.mp plus
      exact digits h
    · rw [readSignedDigits_of_head? minus plus] at h
      rw [readSignedDigits_of_head? (head?_append_ne stop (by decide) minus)
        (head?_append_ne stop (by decide) plus)]
      exact digits h

omit stop in
lemma readExponent_of_head? {s : List Char} (lower : s.head? ≠ some 'e')
    (upper : s.head? ≠ some 'E') : readExponent s = .ok (none, s) := by
  unfold readExponent
  split
  · simp at lower
  · simp at upper
  · rfl

lemma readExponent_append {s rest : List Char} {e : Option (Bool × List Char)}
    (h : readExponent s = .ok (e, rest)) :
    readExponent (s ++ more) = .ok (e, rest ++ more) := by
  have signed : ∀ {s : List Char},
      (readSignedDigits s).map (fun r => (some r.1, r.2)) = .ok (e, rest) →
      (readSignedDigits (s ++ more)).map (fun r => (some r.1, r.2)) =
        .ok (e, rest ++ more) := by
    intro s h
    obtain ⟨⟨e', rest'⟩, read, same⟩ := except_map_eq_ok_iff.mp h
    cases same
    rw [readSignedDigits_append stop read]
    rfl
  by_cases lower : s.head? = some 'e'
  · obtain ⟨s, rfl⟩ := List.head?_eq_some_iff.mp lower
    exact signed h
  · by_cases upper : s.head? = some 'E'
    · obtain ⟨s, rfl⟩ := List.head?_eq_some_iff.mp upper
      exact signed h
    · rw [readExponent_of_head? lower upper] at h
      cases h
      exact readExponent_of_head? (head?_append_ne stop (by decide) lower)
        (head?_append_ne stop (by decide) upper)

lemma dropMinus_append (s : List Char) :
    dropMinus (s ++ more) = ((dropMinus s).1, (dropMinus s).2 ++ more) := by
  by_cases minus : s.head? = some '-'
  · obtain ⟨s, rfl⟩ := List.head?_eq_some_iff.mp minus
    rfl
  · have kept : ∀ {s : List Char}, s.head? ≠ some '-' → dropMinus s = (false, s) := by
      intro s h
      unfold dropMinus
      split
      · simp at h
      · rfl
    rw [kept minus, kept (head?_append_ne stop (by decide) minus)]

/-- A numeral ends where a blank or a mark follows. -/
lemma readNumeralText_append {s rest : List Char} {a : Numeral}
    (h : readNumeralText s = .ok (a, rest)) :
    readNumeralText (s ++ more) = .ok (a, rest ++ more) := by
  unfold readNumeralText at h ⊢
  rw [dropMinus_append stop]
  simp only [except_bind_eq_ok_iff, except_pure_eq_ok_iff, Prod.exists, Prod.mk.injEq] at h
  obtain ⟨whole, s₁, hwhole, fraction, s₂, hfraction, exponent, s₃, hexponent, rfl, rfl⟩ := h
  simp only [readWhole_append stop hwhole, readFraction_append stop hfraction,
    readExponent_append stop hexponent, bind, Except.bind]
  rfl

end Numerals

/-! ### Texts in front of others -/

/-- The tokens that have no fault. -/
def JsonToken.IsSound : JsonToken → Prop
  | .brokenText .. | .broken .. => False
  | _ => True

/-- A text without broken tokens keeps them when a blank or a mark follows. -/
theorem jsonTokens_append {s more : List Char} (sound : ∀ t ∈ jsonTokens s, t.IsSound)
    (stop : ∀ c ∈ more.head?, isJsonStop c = true) :
    jsonTokens (s ++ more) = jsonTokens s ++ jsonTokens more := by
  fun_induction jsonTokens s with
  | case1 => rfl
  | case2 c cs blank ih =>
      rw [List.cons_append, jsonTokens_blank blank, ih sound]
  | case3 c cs _ mark ih =>
      rw [List.cons_append, jsonTokens_mark mark, ih (List.forall_mem_cons.mp sound).2]
      rfl
  | case4 cs rest closed _ _ ih =>
      have longer := readText_append closed more
      rw [List.cons_append, jsonTokens_text (by rw [longer]), longer,
        ih (List.forall_mem_cons.mp sound).2]
      rfl
  | case6 c cs _ _ _ start a rest read ih =>
      have longer := readNumeralText_append stop read
      rw [List.cons_append] at longer
      rw [List.cons_append, jsonTokens_numeral start longer,
        ih (List.forall_mem_cons.mp sound).2]
      rfl
  | case8 c cs _ _ _ _ ws t known rest read ih =>
      rw [List.cons_append, jsonTokens_word known (readWord_append read more),
        ih (List.forall_mem_cons.mp sound).2]
      rfl
  | case5 | case7 | case9 | case10 => exact absurd (sound _ List.mem_cons_self) id

/-! ### Written texts -/

/-- A written text is one token. -/
lemma jsonTokens_jsonQuoted (s : String) :
    jsonTokens (jsonQuoted s).toList = [.text (s.toList.map writtenUnit)] := by
  have closed := readText_written s.toList []
  rw [jsonQuoted, String.toList_ofList, List.cons_append, jsonTokens_text (by rw [closed]),
    closed, jsonTokens]

/-! ### Texts with commas between them -/

/-- The comma in front of what is not the first. -/
def leadingComma (first : Bool) : List JsonToken := if first then [] else [.mark ',']

/-- Groups of tokens, with a comma in front of each of them but, if it is `first`, not
the first one. -/
def commaJoined (first : Bool) : List (List JsonToken) → List JsonToken
  | [] => []
  | us :: uss => leadingComma first ++ (us ++ commaJoined false uss)

lemma isSound_commaJoined {uss : List (List JsonToken)}
    (sound : ∀ us ∈ uss, ∀ t ∈ us, t.IsSound) (first : Bool) :
    ∀ t ∈ commaJoined first uss, t.IsSound := by
  induction uss generalizing first with
  | nil => exact List.forall_mem_nil _
  | cons us uss ih =>
      obtain ⟨here, others⟩ := List.forall_mem_cons.mp sound
      have comma : ∀ t ∈ leadingComma first, t.IsSound := by
        cases first <;> simp [leadingComma, JsonToken.IsSound]
      exact List.forall_mem_append.mpr
        ⟨comma, List.forall_mem_append.mpr ⟨here, ih others false⟩⟩

lemma isSound_bracketed {uss : List (List JsonToken)}
    (sound : ∀ us ∈ uss, ∀ t ∈ us, t.IsSound) (left right : Char) :
    ∀ t ∈ .mark left :: (commaJoined true uss ++ [.mark right]), JsonToken.IsSound t :=
  List.forall_mem_cons.mpr ⟨trivial, List.forall_mem_append.mpr
    ⟨isSound_commaJoined sound true, List.forall_mem_singleton.mpr trivial⟩⟩

section Commas

variable {α : Type} {write : α → List Char} {tokens : α → List JsonToken} {as : List α}
  (written : ∀ a ∈ as, jsonTokens (write a) = tokens a)
  (sound : ∀ a ∈ as, ∀ t ∈ tokens a, t.IsSound)
  {blanks : List Char} (blank : ∀ c ∈ blanks, isJsonBlank c = true)

include written sound blank

/-- Texts without broken tokens, with commas and blanks between them, have their tokens
with commas between these. -/
lemma jsonTokens_intercalate {more : List Char}
    (stop : ∀ c ∈ more.head?, isJsonStop c = true) :
    jsonTokens ((',' :: blanks).intercalate (as.map write) ++ more) =
      commaJoined true (as.map tokens) ++ jsonTokens more := by
  induction as with
  | nil => rfl
  | cons a as ih =>
      obtain ⟨first, others⟩ := List.forall_mem_cons.mp written
      obtain ⟨first_sound, others_sound⟩ := List.forall_mem_cons.mp sound
      rw [← first] at first_sound
      cases as with
      | nil =>
          rw [List.map_singleton, List.intercalate_singleton,
            jsonTokens_append first_sound stop, first]
          simp [commaJoined, leadingComma]
      | cons b as =>
          rw [List.map_cons, List.map_cons, List.intercalate_cons_cons, ← List.map_cons,
            List.append_assoc, List.append_assoc, jsonTokens_append first_sound,
            List.cons_append, jsonTokens_mark (by decide), jsonTokens_blanks blank,
            ih others others_sound, first]
          · simp [commaJoined, leadingComma]
          · rintro d ⟨⟩
            rfl

/-- They stand between brackets, with blanks in front of each of them and behind the
last. -/
lemma jsonTokens_bracketed {behind : List Char}
    (blank_behind : ∀ c ∈ behind, isJsonBlank c = true) {left right : Char}
    (opening : isJsonMark left = true) (closing : isJsonMark right = true) :
    jsonTokens (left :: (blanks ++ ((',' :: blanks).intercalate (as.map write) ++
        (behind ++ [right])))) =
      .mark left :: (commaJoined true (as.map tokens) ++ [.mark right]) := by
  have stop : ∀ c ∈ (behind ++ [right]).head?, isJsonStop c = true := by
    cases behind with
    | nil =>
        rintro c ⟨⟩
        rw [isJsonStop, closing, Bool.or_true]
    | cons b behind =>
        rintro c ⟨⟩
        rw [isJsonStop, blank_behind b List.mem_cons_self, Bool.true_or]
  rw [jsonTokens_mark opening, jsonTokens_blanks blank,
    jsonTokens_intercalate written sound blank stop, jsonTokens_blanks blank_behind,
    jsonTokens_mark closing, jsonTokens]

omit blank in
/-- They stand between brackets without blanks. -/
lemma jsonTokens_bracketed_compact {left right : Char} (opening : isJsonMark left = true)
    (closing : isJsonMark right = true) :
    jsonTokens (left :: ([','].intercalate (as.map write) ++ [right])) =
      .mark left :: (commaJoined true (as.map tokens) ++ [.mark right]) :=
  jsonTokens_bracketed written sound (List.forall_mem_nil _) (List.forall_mem_nil _)
    opening closing

end Commas

end RowFilter
