import Typeahead.Proofs.CursorRuns

namespace Typeahead

/-! The identifier before a column. It is the last run of the line up to the column or else that of the line before,
where the line before the first one is the last one. -/

theorem Value.nth_before_first {α : Type} {items : List α} (nonempty : items ≠ []) :
    Value.nth items (-1) = .ok (items.getLast nonempty) := by
  have some := List.length_pos_iff.mpr nonempty
  have place : position? items.length (-1) = Option.some (items.length - 1) := by
    rw [position?, if_neg (by decide), if_pos (by omega)]
    congr 1
    omega
  rw [nth, place, Option.bind_some, ← List.getLast?_eq_getElem?, List.getLast?_eq_some_getLast nonempty]

namespace Cursor

open Text

variable {text : List Char} {lines : List (List Char)} {minimum : Int} {lineNumber column : Nat}

/-- The letters of the last run of a text, or none where it has no run. -/
def lastRun (text : List Char) : List Char :=
  (text.rdropWhile (!isIdentifierChar ·)).rtakeWhile isIdentifierChar

/-- The letters are a run with no identifier character behind it, or there are none and no run. -/
def IsLastRun (text letters : List Char) : Prop :=
  (∃ before after, IsRun before letters after text ∧ ∀ character ∈ after, ¬ isIdentifierChar character) ∨
    letters = [] ∧ ∀ character ∈ text, ¬ isIdentifierChar character

theorem isLastRun_lastRun (text : List Char) : IsLastRun text (lastRun text) := by
  have cut : text.rdropWhile (!isIdentifierChar ·) ++ text.rtakeWhile (!isIdentifierChar ·) = text :=
    List.rdropWhile_append_rtakeWhile
  have gap : ∀ character ∈ text.rtakeWhile (!isIdentifierChar ·), ¬ isIdentifierChar character := by
    intro character member
    simpa using List.mem_rtakeWhile_imp member
  have ends := List.rdropWhile_last_not (!isIdentifierChar ·) text
  unfold lastRun
  generalize text.rdropWhile (!isIdentifierChar ·) = kept at cut ends
  generalize text.rtakeWhile (!isIdentifierChar ·) = rest at cut gap
  subst cut
  cases kept using List.reverseRecOn with
  | nil => exact .inr ⟨rfl, by simpa using gap⟩
  | append_singleton front last =>
      have isIdentifier : isIdentifierChar last := by simpa using ends (by simp)
      have run := isRun_around front rest isIdentifier
      have none : rest.takeWhile isIdentifierChar = [] := by
        cases rest with
        | nil => rfl
        | cons next rest => exact List.takeWhile_cons_of_neg (gap next List.mem_cons_self)
      have all : rest.dropWhile isIdentifierChar = rest := by
        simpa [none] using List.takeWhile_append_dropWhile (p := isIdentifierChar) (l := rest)
      rw [none, all] at run
      rw [List.rtakeWhile_concat_pos _ _ _ isIdentifier, List.append_assoc]
      exact .inl ⟨_, _, run, gap⟩

theorem lastRun_eq_nil_iff : lastRun text = [] ↔ ∀ character ∈ text, ¬ isIdentifierChar character := by
  rcases isLastRun_lastRun text with ⟨before, after, run, _⟩ | ⟨empty, absent⟩
  · refine iff_of_false run.nonempty fun absent => ?_
    obtain ⟨letter, member⟩ := List.exists_mem_of_ne_nil _ run.nonempty
    have inText : letter ∈ before ++ lastRun text ++ after := by simp [member]
    rw [run.whole] at inText
    exact absent letter inText (run.inside letter member)
  · exact iff_of_true empty absent

/-- Letters as they are answered: nothing instead of too few. -/
def atLeast (minimum : Int) (letters : List Char) : String :=
  if letters.length < minimum then "" else String.ofList letters

theorem endingAt_eq (within : column ≤ text.length) :
    endingAt (.int minimum) text ((text.take column).rdropWhile (!isIdentifierChar ·)).length =
      .ok (atLeast minimum (lastRun (text.take column))) := by
  have start : (text.take column).rdropWhile (!isIdentifierChar ·) <+: text :=
    (List.rdropWhile_prefix _ _).trans (List.take_prefix column text)
  unfold lastRun
  generalize (text.take column).rdropWhile (!isIdentifierChar ·) = kept at start ⊢
  obtain ⟨rest, rfl⟩ := start
  have whole : kept.rdropWhile isIdentifierChar ++ kept.rtakeWhile isIdentifierChar = kept :=
    List.rdropWhile_append_rtakeWhile
  have starts : completionStart (kept ++ rest) kept.length = .ok (kept.rdropWhile isIdentifierChar).length := by
    rw [completionStart_eq (by simp), List.take_left]
  have size : (kept.length : Int) - (kept.rdropWhile isIdentifierChar).length =
      (kept.rtakeWhile isIdentifierChar).length := by
    have lengths := congrArg List.length whole
    rw [List.length_append] at lengths
    omega
  have between := Value.slice_between (kept.rdropWhile isIdentifierChar) (kept.rtakeWhile isIdentifierChar) rest
  rw [whole] at between
  simp only [endingAt, starts, bind, Except.bind, size, Value.less, Value.number?, between, atLeast, decide_eq_true_eq]
  split <;> rfl

/-- The line before another one, counted round. -/
def lineBefore (lines : List (List Char)) : Nat → List Char
  | 0 => lines.getLast?.getD []
  | above + 1 => lines[above]?.getD []

theorem nth_lineBefore (inside : lineNumber < lines.length) :
    Value.nth lines (lineNumber - 1) = .ok (lineBefore lines lineNumber) := by
  cases lineNumber with
  | zero =>
      have nonempty : lines ≠ [] := List.ne_nil_of_length_pos inside
      rw [lineBefore, List.getLast?_eq_some_getLast nonempty]
      exact Value.nth_before_first nonempty
  | succ above =>
      have index : ((above + 1 : Nat) : Int) - 1 = above := by omega
      have before : above < lines.length := by omega
      rw [index, Value.nth_of_lt before, lineBefore, List.getElem?_eq_getElem before]
      rfl

theorem previous_of_run (inside : lineNumber < lines.length) (within : column ≤ lines[lineNumber].length)
    (found : lastRun (lines[lineNumber].take column) ≠ []) :
    previous (.int minimum) lines lineNumber column =
      .ok (atLeast minimum (lastRun (lines[lineNumber].take column))) := by
  have notAtStart : ((lines[lineNumber].take column).rdropWhile (!isIdentifierChar ·)).length ≠ 0 := by
    simpa [lastRun_eq_nil_iff] using found
  simp only [previous, Value.nth_of_lt inside, endBefore_eq within, bind, Except.bind]
  rw [if_pos (by simpa using notAtStart)]
  exact endingAt_eq within

theorem previous_of_no_run (inside : lineNumber < lines.length) (within : column ≤ lines[lineNumber].length)
    (absent : lastRun (lines[lineNumber].take column) = []) :
    previous (.int minimum) lines lineNumber column =
      .ok (atLeast minimum (lastRun (lineBefore lines lineNumber))) := by
  have atStart : (lines[lineNumber].take column).rdropWhile (!isIdentifierChar ·) = [] := by
    simpa [lastRun_eq_nil_iff] using absent
  simp only [previous, Value.nth_of_lt inside, endBefore_eq within, bind, Except.bind, atStart, nth_lineBefore inside]
  rw [if_neg (by simp)]
  generalize lineBefore lines lineNumber = before
  have ending : endingAt (.int minimum) before _ = _ := endingAt_eq (Nat.le_refl before.length)
  have whole := endBefore_eq (Nat.le_refl before.length)
  rw [List.take_length] at ending whole
  rw [whole]
  exact ending

theorem atLeast_of_le {letters : List Char} (enough : minimum ≤ letters.length) :
    atLeast minimum letters = String.ofList letters :=
  if_neg (Int.not_lt.mpr enough)

theorem atLeast_eq_empty_iff (minimum : Int) (letters : List Char) :
    atLeast minimum letters = "" ↔ letters = [] ∨ letters.length < minimum := by
  unfold atLeast
  split
  · rename_i short
    exact iff_of_true rfl (.inr short)
  · rename_i enough
    simp [enough]

def linesOf (contents : String) : List (List Char) := splitChars '\n' contents.toList

/-- A request comes from a file with some contents, and from a place in one of its lines or at the end of one. -/
structure StandsAt (request : Value) (contents : String) (lineNumber column : Nat) : Prop where
  hasLine : request.field "line_num" = .ok (.int lineNumber)
  hasColumn : request.field "column_num" = .ok (.int column)
  hasContents : ∃ path files file, request.field "filepath" = .ok (.text path) ∧
    request.field "file_data" = .ok files ∧ files.field path = .ok file ∧ file.field "contents" = .ok (.text contents)
  inFile : lineNumber < (linesOf contents).length
  inLine : column ≤ (linesOf contents)[lineNumber].length

theorem StandsAt.previousIn_eq {request : Value} {contents : String}
    (stands : StandsAt request contents lineNumber column) (minimum : Value) :
    previousIn minimum request = previous minimum (linesOf contents) lineNumber column := by
  obtain ⟨path, files, file, hasPath, hasFiles, hasFile, hasContents⟩ := stands.hasContents
  simp only [previousIn, stands.hasLine, stands.hasColumn, hasPath, hasFiles, Value.asText, hasFile, hasContents,
    Value.asTextFor, Value.asInt, bind, Except.bind]
  rfl

/-- The run before a column: the last one before it in its line or, where there is none, the last one of the line before.
The first line has no line before it. -/
def preceding (lines : List (List Char)) (lineNumber column : Nat) : List Char :=
  let inLine := lastRun ((lines[lineNumber]?.getD []).take column)
  if inLine ≠ [] then inLine
  else
    match lineNumber with
    | 0 => []
    | above + 1 => lastRun (lines[above]?.getD [])

/-- There is no run before a column of the first line, but one in the last line that is long enough. -/
structure Wraps (minimum : Int) (lines : List (List Char)) (lineNumber column : Nat) : Prop where
  isFirst : lineNumber = 0
  absent : lastRun ((lines[lineNumber]?.getD []).take column) = []
  found : lastRun (lines.getLast?.getD []) ≠ []
  longEnough : minimum ≤ (lastRun (lines.getLast?.getD [])).length

/-- Wherever a request comes from in its file, the answer is the run before that place if it has at least as many letters
as wanted, and nothing otherwise, except from a place on the first line with no run before it: the answer is then the
last run of the last line, if that has enough letters. -/
theorem previousIn_precedes_iff {request : Value} {contents : String} {lineNumber column : Nat}
    (stands : StandsAt request contents lineNumber column) (minimum : Int) :
    (∀ text, IsLastRun text (lastRun text)) ∧
    ∃ answer, previousIn (.int minimum) request = .ok answer ∧
      (answer = atLeast minimum (preceding (linesOf contents) lineNumber column) ↔
        ¬ Wraps minimum (linesOf contents) lineNumber column) ∧
      (Wraps minimum (linesOf contents) lineNumber column →
        answer = String.ofList (lastRun ((linesOf contents).getLast?.getD []))) := by
  refine ⟨isLastRun_lastRun, ?_⟩
  rw [stands.previousIn_eq]
  obtain ⟨_, _, _, inFile, inLine⟩ := stands
  set lines := linesOf contents
  have line : lines[lineNumber]?.getD [] = lines[lineNumber] := by simp [inFile]
  by_cases absent : lastRun (lines[lineNumber].take column) = []
  · refine ⟨_, previous_of_no_run inFile inLine absent, ?_⟩
    cases lineNumber with
    | zero =>
        -- the line at `-1` is read, which is the last one
        have nothing : atLeast minimum (preceding lines 0 column) = "" := by
          simp [preceding, line, absent, atLeast_eq_empty_iff]
        have wraps_iff : Wraps minimum lines 0 column ↔
            lastRun (lineBefore lines 0) ≠ [] ∧ minimum ≤ (lastRun (lineBefore lines 0)).length :=
          ⟨fun wraps => ⟨wraps.found, wraps.longEnough⟩, fun ends => ⟨rfl, line ▸ absent, ends.1, ends.2⟩⟩
        refine ⟨?_, fun wraps => atLeast_of_le wraps.longEnough⟩
        rw [nothing, atLeast_eq_empty_iff, wraps_iff, not_and_or, not_not, Int.not_le]
    | succ above =>
        have other : ¬ Wraps minimum lines (above + 1) column := fun wraps => Nat.succ_ne_zero above wraps.isFirst
        refine ⟨iff_of_true ?_ other, fun wraps => absurd wraps other⟩
        simp [preceding, line, absent, lineBefore]
  · have other : ¬ Wraps minimum lines lineNumber column := fun wraps => absent (line ▸ wraps.absent)
    refine ⟨_, previous_of_run inFile inLine absent, iff_of_true ?_ other, fun wraps => absurd wraps other⟩
    simp [preceding, line, absent]

theorem previousIn_precedes_iff_above :
    let request : Value := .record [("line_num", .int 1), ("column_num", .int 2), ("filepath", .text "/f"),
      ("file_data", .record [("/f", .record [("contents", .text "a1 = b_2;\n  c")])])]
    StandsAt request "a1 = b_2;\n  c" 1 2 ∧ previousIn (.int 3) request = .ok "b_2" := by
  intro request
  have stands : StandsAt request "a1 = b_2;\n  c" 1 2 :=
    ⟨rfl, rfl, ⟨_, _, _, rfl, rfl, rfl, rfl⟩, by decide +kernel, by decide +kernel⟩
  obtain ⟨_, answer, answered, precedes, _⟩ := previousIn_precedes_iff stands 3
  have isPreceding := precedes.mpr fun wraps => absurd wraps.isFirst (by decide)
  refine ⟨stands, ?_⟩
  rw [answered, isPreceding]
  exact congrArg Except.ok (by decide +kernel)

/-- Before the first character of a file there is nothing, but the end of its last line is answered. -/
theorem last_line_precedes_first :
    let request : Value := .record [("line_num", .int 0), ("column_num", .int 0), ("filepath", .text "/f"),
      ("file_data", .record [("/f", .record [("contents", .text "\nfoo")])])]
    StandsAt request "\nfoo" 0 0 ∧ atLeast 2 (preceding (linesOf "\nfoo") 0 0) = "" ∧
      previousIn (.int 2) request = .ok "foo" := by
  intro request
  have stands : StandsAt request "\nfoo" 0 0 :=
    ⟨rfl, rfl, ⟨_, _, _, rfl, rfl, rfl, rfl⟩, by decide +kernel, Nat.zero_le _⟩
  refine ⟨stands, by decide +kernel, ?_⟩
  rw [stands.previousIn_eq, previous_of_no_run stands.inFile stands.inLine rfl]
  exact congrArg Except.ok (by decide +kernel)

end Cursor

end Typeahead
