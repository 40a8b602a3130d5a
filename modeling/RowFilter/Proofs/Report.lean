/-
The report of a statement can be read back.

* `shownKind`, `shownKind_display`: what a value looks like tells its kind.
* `SqlValue.display_injective`: different values look different.
* `Statement.reportLines`, `splitOn_report`: the lines of a report are the SQL text and
  one line for each value, whatever the values hold.
* `Statement.report_lossless`: a report has no other lines, and different statements
  have different reports.
-/
import RowFilter.Command
import RowFilter.Proofs.Date.Text
import RowFilter.Proofs.Sql.Pieces
import RowFilter.Proofs.Text.Quoted

namespace RowFilter

/-! ### Values -/

/-- The kind of a value that is shown: only texts begin with a quote, and of the other
values only dates have a hyphen that is not in front. -/
def shownKind : List Char → SqlValue.Kind
  | [] => .int
  | c :: cs => if c = '"' then .text else if '-' ∈ cs then .date else .int

namespace SqlValue

/-- An integer is shown as digits, of which the first may be a sign instead. -/
lemma exists_display_int (n : Int64) :
    ∃ c cs, (display (.int n)).toList = c :: cs ∧ (c.isDigit = true ∨ c = '-') ∧
      ∀ d ∈ cs, d.isDigit = true := by
  have digits : ∀ d ∈ Nat.toDigits 10 n.toInt.natAbs, d.isDigit = true :=
    fun _ => isDigit_of_mem_toDigits
  rw [display, toList_toString_int]
  split_ifs
  · exact ⟨'-', _, List.singleton_append, .inr rfl, digits⟩
  · obtain ⟨c, cs, shape⟩ := List.exists_cons_of_ne_nil
      (Nat.toDigits_ne_nil (n := n.toInt.natAbs) (b := 10))
    rw [shape, List.forall_mem_cons] at digits
    exact ⟨c, cs, shape, .inl digits.1, digits.2⟩

/-- What a value looks like tells its kind. -/
lemma shownKind_display (v : SqlValue) : shownKind v.display.toList = v.kind := by
  cases v with
  | int n =>
      obtain ⟨c, cs, shape, first, rest⟩ := exists_display_int n
      have quote : c ≠ '"' := by
        rintro rfl
        simp at first
      have hyphen : '-' ∉ cs := fun h => absurd (rest '-' h) (by decide)
      rw [shape, shownKind, if_neg quote, if_neg hyphen, kind]
  | text s =>
      rw [display, quoted, String.toList_ofList, List.cons_append, shownKind, if_pos rfl, kind]
  | date d =>
      obtain ⟨c, cs, year⟩ := List.exists_cons_of_ne_nil (Date.yearText_ne_nil d.year)
      have shape := Date.toList_text d
      rw [year, List.cons_append] at shape
      have quote : c ≠ '"' := by
        rintro rfl
        have first : '"' ∈ d.text.toList := shape ▸ List.mem_cons_self
        simpa using Date.mem_text first
      rw [display, shape, shownKind, if_neg quote, if_pos (by simp), kind]

/-- Different values look different. -/
theorem display_injective : Function.Injective display := by
  intro v w h
  have kinds : v.kind = w.kind := by
    rw [← shownKind_display v, h, shownKind_display]
  cases v <;> cases w <;> cases kinds
  case int.int n m =>
      have number := calc
        n.toInt = ofSignedDigits (display (.int n)).toList := (ofSignedDigits_toString _).symm
        _ = ofSignedDigits (display (.int m)).toList := by rw [h]
        _ = m.toInt := ofSignedDigits_toString _
      rw [Int64.toInt_inj.mp number]
  case text.text s t => rw [quoted_injective h]
  case date.date d e => rw [Date.text_injective h]

/-- A value is shown on one line. -/
lemma not_mem_display (v : SqlValue) : '\n' ∉ v.display.toList := by
  cases v with
  | int n =>
      obtain ⟨c, cs, shape, first, rest⟩ := exists_display_int n
      rw [shape, List.mem_cons]
      rintro (rfl | h)
      · simp at first
      · exact absurd (rest '\n' h) (by decide)
  | text s => exact not_mem_quoted s
  | date d =>
      intro h
      simpa using Date.mem_text h

end SqlValue

/-! ### Lines -/

namespace Statement

/-- The SQL text, and a line for each value. -/
def reportLines (st : Statement) : List String := st.text :: valueLines 1 st.params.toList

lemma length_valueLines (n : Nat) (vs : List SqlValue) :
    (valueLines n vs).length = vs.length := by
  induction vs generalizing n with
  | nil => rfl
  | cons v vs ih => rw [valueLines, List.length_cons, List.length_cons, ih]

/-- A placeholder stands on one line. -/
lemma not_mem_placeholder (n : Nat) : '\n' ∉ (placeholder n).toList := by
  rw [SqlText.toList_placeholder, List.mem_cons]
  rintro (h | h)
  · exact absurd h (by decide)
  · exact absurd (isDigit_of_mem_toDigits h) (by decide)

/-- Whatever a value holds, it has a single line. -/
lemma not_mem_valueLines {n : Nat} {vs : List SqlValue} {line : String}
    (h : line ∈ valueLines n vs) : '\n' ∉ line.toList := by
  induction vs generalizing n with
  | nil => cases h
  | cons v vs ih =>
      rcases List.mem_cons.mp h with rfl | h
      · have equals : '\n' ∉ " = ".toList := by decide
        simp only [String.toList_append, List.mem_append, not_or]
        exact ⟨⟨not_mem_placeholder n, equals⟩, SqlValue.not_mem_display v⟩
      · exact ih h

/-- The lines of values determine them. -/
lemma valueLines_injective (n : Nat) : Function.Injective (valueLines n) := by
  intro vs ws h
  induction vs generalizing n ws with
  | nil =>
      cases ws with
      | nil => rfl
      | cons w ws => cases h
  | cons v vs ih =>
      cases ws with
      | nil => cases h
      | cons w ws =>
          obtain ⟨first, rest⟩ := List.cons.inj h
          have shown : v.display = w.display := by
            have split := congrArg String.toList first
            simp only [String.toList_append, List.append_right_inj] at split
            exact String.toList_inj.mp split
          rw [SqlValue.display_injective shown, ih (n + 1) rest]

/-- If the SQL text is one line, a report consists of this line and those of the
values. -/
lemma splitOn_report {st : Statement} (h : '\n' ∉ st.text.toList) :
    st.report.toList.splitOn '\n' = st.reportLines.map String.toList := by
  have shape : st.report.toList = ['\n'].intercalate (st.reportLines.map String.toList) :=
    String.toList_intercalate
  rw [shape]
  refine List.splitOn_intercalate '\n' ?_ (List.cons_ne_nil _ _)
  intro line hline
  obtain ⟨l, hl, rfl⟩ := List.mem_map.mp hline
  rcases List.mem_cons.mp hl with rfl | hl
  · exact h
  · exact not_mem_valueLines hl

/-- **A report cannot be forged.** If the SQL texts of two statements are one line each,
the report has one line more than there are values, whatever these hold, and equal
reports are reports of the same SQL text with the same values. -/
theorem report_lossless {st st' : Statement} (h : '\n' ∉ st.text.toList)
    (h' : '\n' ∉ st'.text.toList) :
    (st.report.toList.splitOn '\n').length = 1 + st.params.size ∧
      (st.report = st'.report → st = st') := by
  refine ⟨?_, fun same => ?_⟩
  · rw [splitOn_report h, List.length_map, reportLines, List.length_cons, length_valueLines,
      Array.length_toList, Nat.add_comm]
  · have lines : st.reportLines.map String.toList = st'.reportLines.map String.toList := by
      rw [← splitOn_report h, same, splitOn_report h']
    have lines := (List.map_inj_right fun _ _ => String.toList_inj.mp).mp lines
    obtain ⟨text, values⟩ := List.cons.inj lines
    have params := Array.toList_inj.mp (valueLines_injective 1 values)
    cases st
    cases st'
    cases text
    cases params
    rfl

/-- A text that imitates a second value stays on the line of the first. -/
theorem report_lossless_imitation :
    '\n' ∉ "$1 OR $2".toList ∧
      ((Statement.mk "$1 OR $2" #[.text "a\"\n$2 = 7"]).report.toList.splitOn '\n').length
        = 2 ∧
      (Statement.mk "$1 OR $2" #[.text "a\"\n$2 = 7"]).report ≠
        (Statement.mk "$1 OR $2" #[.text "a", .int 7]).report := by
  have oneLine : '\n' ∉ "$1 OR $2".toList := by decide
  obtain ⟨lines, same⟩ := @report_lossless (.mk "$1 OR $2" #[.text "a\"\n$2 = 7"])
    (.mk "$1 OR $2" #[.text "a", .int 7]) oneLine oneLine
  refine ⟨oneLine, lines, fun h => ?_⟩
  have sizes := congrArg (fun st : Statement => st.params.size) (same h)
  exact absurd sizes (by decide)

end Statement

end RowFilter
