import Mathlib.Data.List.DropRight
import Mathlib.Data.List.TakeWhile
import Typeahead.Cursor

namespace Typeahead

/-! The identifier at a column of a line. The scans from a column to the left and to the right stop where a run of
identifier characters ends, so what lies between their ends is a run that goes on to neither side. -/

theorem Value.slice_between {α : Type} (before letters after : List α) :
    Value.slice (before ++ letters ++ after) (some before.length) (some (before ++ letters).length) = letters := by
  have start : before.length ≤ (before ++ letters ++ after).length := by simp
  have stop : (before ++ letters).length ≤ (before ++ letters ++ after).length := by simp
  simp only [slice, Option.map_some, Option.getD_some, Int.natCast_nonneg, if_true, Int.toNat_natCast,
    Nat.min_eq_left start, Nat.min_eq_left stop]
  rw [List.take_left, List.drop_left]

namespace Cursor

open Text

variable {text before letters after : List Char} {column place : Nat}

/-- A run of identifier characters that goes on to neither side, with what stands before and after it in a text. -/
structure IsRun (before letters after text : List Char) : Prop where
  whole : before ++ letters ++ after = text
  nonempty : letters ≠ []
  inside : ∀ character ∈ letters, isIdentifierChar character
  opens : ∀ last ∈ before.getLast?, ¬ isIdentifierChar last
  closes : ∀ next ∈ after.head?, ¬ isIdentifierChar next

theorem identifierAt_of_lt (within : column < text.length) :
    identifierAt text column = .ok (isIdentifierChar text[column]) := by
  rw [identifierAt, Value.nth_of_lt within]
  rfl

/-- A walk to the left, from a column that is not negative, over the characters that pass a test. -/
theorem walk_left_eq {walk : Nat → Except Fault Nat} {passes : Char → Bool} (atStart : walk 0 = .ok 0)
    (step : ∀ column (within : column < text.length),
      walk (column + 1) = if passes text[column] then walk column else .ok (column + 1))
    (within : column ≤ text.length) :
    (if (column : Int) ≤ 0 then .ok column else (walk (column : Int).toNat).map Int.ofNat) =
      (.ok ((text.take column).rdropWhile passes).length : Except Fault Int) := by
  have walked : walk column = .ok ((text.take column).rdropWhile passes).length := by
    induction column with
    | zero => simpa using atStart
    | succ column ih =>
        rw [step column within, List.take_succ_eq_append_getElem within, List.rdropWhile_concat, ih (by omega)]
        split
        · rfl
        · simp [Nat.min_eq_left within]
  split
  · have none : column = 0 := by omega
    simp [none]
  · rw [Int.toNat_natCast, walked]
    rfl

theorem completionStart_eq (within : column ≤ text.length) :
    completionStart text column = .ok ((text.take column).rdropWhile isIdentifierChar).length := by
  refine walk_left_eq rfl (fun column within => ?_) within
  rw [startOfIdentifier, identifierAt_of_lt within]
  rfl

theorem endBefore_eq (within : column ≤ text.length) :
    endBefore text column = .ok ((text.take column).rdropWhile (!isIdentifierChar ·)).length := by
  refine walk_left_eq rfl (fun column within => ?_) within
  rw [skipGapBefore, identifierAt_of_lt within]
  change (if isIdentifierChar text[column] then _ else _) = _
  cases isIdentifierChar text[column] <;> rfl

theorem nextIdentifierChar?_eq (text : List Char) (column : Nat) :
    nextIdentifierChar? text column =
      ((text.drop column).findIdx? isIdentifierChar).map fun gap => ((column + gap : Nat) : Int) := by
  rw [nextIdentifierChar?]
  by_cases within : column < text.length
  · have later := nextIdentifierChar?_eq text (column + 1)
    rw [if_neg (by omega), identifierAt_of_lt within, List.drop_eq_getElem_cons within, List.findIdx?_cons]
    cases isIdentifierChar text[column] with
    | true => simp
    | false =>
        have next : (column : Int) + 1 = (column + 1 : Nat) := by omega
        simp only [next, later, Bool.false_eq_true, if_false, Option.map_map, Function.comp_def, Nat.add_assoc,
          Nat.add_comm 1]
  · rw [if_pos (by omega), List.drop_eq_nil_of_le (by omega)]
    rfl
termination_by text.length - column

theorem endOfIdentifier_eq (text : List Char) (column : Nat) :
    endOfIdentifier text column =
      .ok ((column + 1 + ((text.drop (column + 1)).takeWhile isIdentifierChar).length : Nat) : Int) := by
  rw [endOfIdentifier]
  by_cases within : column + 1 < text.length
  · have later := endOfIdentifier_eq text (column + 1)
    have next : (column : Int) + 1 = (column + 1 : Nat) := by omega
    rw [if_pos (by omega), next, identifierAt_of_lt within, List.drop_eq_getElem_cons within, List.takeWhile_cons]
    change (if isIdentifierChar text[column + 1] then _ else _) = _
    split
    · rw [later, List.length_cons]
      congr 2
      omega
    · rfl
  · rw [if_neg (by omega), List.drop_eq_nil_of_le (by omega)]
    rfl
termination_by text.length - column

theorem isRun_around {character : Char} (left right : List Char) (isIdentifier : isIdentifierChar character) :
    IsRun (left.rdropWhile isIdentifierChar)
      (left.rtakeWhile isIdentifierChar ++ character :: right.takeWhile isIdentifierChar)
      (right.dropWhile isIdentifierChar) (left ++ character :: right) where
  whole := by
    rw [← List.append_assoc, List.rdropWhile_append_rtakeWhile, List.append_assoc, List.cons_append,
      List.takeWhile_append_dropWhile]
  nonempty := by simp
  inside := by
    intro letter member
    rcases List.mem_append.mp member with before | after
    · exact List.mem_rtakeWhile_imp before
    · rcases List.mem_cons.mp after with rfl | after
      · exact isIdentifier
      · exact List.mem_takeWhile_imp after
  opens := by
    intro last isLast
    obtain ⟨nonempty, rfl⟩ := List.mem_getLast?_eq_getLast isLast
    exact List.rdropWhile_last_not isIdentifierChar left nonempty
  closes := by
    intro next isNext
    have stops := List.head?_dropWhile_not isIdentifierChar right
    rw [Option.mem_def.mp isNext] at stops
    simpa using stops

/-- The scans from an identifier character find the ends of the run around it. -/
theorem exists_run_around (within : place < text.length) (isIdentifier : isIdentifierChar text[place]) :
    ∃ before letters after, IsRun before letters after text ∧ before.length ≤ place ∧
      place < (before ++ letters).length ∧ completionStart text place = .ok before.length ∧
      endOfIdentifier text place = .ok (before ++ letters).length := by
  have run := isRun_around (text.take place) (text.drop (place + 1)) isIdentifier
  rw [← List.drop_eq_getElem_cons within, List.take_append_drop] at run
  have left := congrArg List.length
    (List.rdropWhile_append_rtakeWhile : (text.take place).rdropWhile isIdentifierChar ++ _ = _)
  rw [List.length_append, List.length_take, Nat.min_eq_left (Nat.le_of_lt within)] at left
  refine ⟨_, _, _, run, by omega, ?_, completionStart_eq (Nat.le_of_lt within), ?_⟩
  · simp only [List.length_append, List.length_cons]
    omega
  · rw [endOfIdentifier_eq]
    congr 2
    simp only [List.length_append, List.length_cons]
    omega

theorem current_of_place {place start stop : Int} (next : nextIdentifierChar? text column = some place)
    (starts : completionStart text place = .ok start) (stops : endOfIdentifier text place = .ok stop) :
    current text column = String.ofList (Value.slice text (some start) (some stop)) := by
  simp only [current, next, starts, stops]
  rfl

theorem current_of_none (absent : ∀ character ∈ text.drop column, ¬ isIdentifierChar character) :
    current text column = "" := by
  have none : nextIdentifierChar? text column = none := by
    rw [nextIdentifierChar?_eq, List.findIdx?_eq_none_iff.mpr (by simpa using absent)]
    rfl
  rw [current, none]

theorem current_of_next (present : ∃ character ∈ text.drop column, isIdentifierChar character) :
    ∃ before letters after, IsRun before letters after text ∧ column < (before ++ letters).length ∧
      (∀ character ∈ before.drop column, ¬ isIdentifierChar character) ∧
      current text column = String.ofList letters := by
  obtain ⟨gap, found⟩ : ∃ gap, (text.drop column).findIdx? isIdentifierChar = some gap := by
    rw [← Option.isSome_iff_exists, List.findIdx?_isSome, List.any_eq_true]
    exact present
  have next : nextIdentifierChar? text column = some (column + gap : Nat) := by
    rw [nextIdentifierChar?_eq, found]
    rfl
  obtain ⟨within, isIdentifier, isFirst⟩ := List.findIdx?_eq_some_iff_getElem.mp found
  rw [List.length_drop] at within
  rw [List.getElem_drop] at isIdentifier
  obtain ⟨before, letters, after, run, starts, stops, start, stop⟩ := exists_run_around (by omega) isIdentifier
  refine ⟨before, letters, after, run, by omega, fun character member => ?_, ?_⟩
  · -- the run starts at the first identifier character or before it, so what precedes the run has none
    obtain ⟨index, inside, rfl⟩ := List.getElem_of_mem member
    rw [List.length_drop] at inside
    have same := isFirst index (by omega)
    simpa [← run.whole, List.getElem_append_left (show column + index < before.length by omega)] using same
  · rw [current_of_place next start stop, ← run.whole, Value.slice_between]

theorem mem_drop_of_mem_getElem? {character : Char} (isAt : character ∈ text[column]?) : character ∈ text.drop column := by
  apply List.mem_of_getElem? (i := 0)
  rw [List.getElem?_drop]
  exact isAt

theorem IsRun.exists_at (run : IsRun before letters after text) (starts : before.length ≤ column)
    (stops : column < (before ++ letters).length) : ∃ character ∈ text[column]?, isIdentifierChar character := by
  rw [List.length_append] at stops
  have within : column - before.length < letters.length := by omega
  refine ⟨letters[column - before.length], ?_, run.inside _ (List.getElem_mem within)⟩
  rw [← run.whole, List.append_assoc, List.getElem?_append_right starts, List.getElem?_append_left within]
  exact List.getElem?_eq_getElem within

/-- A request with a line and a column is answered with the whole run of identifier characters that the column is in
or, from a column in no run, with the first run behind it; and with nothing exactly if no identifier character stands at
the column or behind it. -/
theorem currentIn_answers_whole_run {request : Value} {line : String} {column : Nat}
    (hasColumn : request.field "column_num" = .ok (.int column))
    (hasLine : request.field "line_value" = .ok (.text line)) :
    ∃ identifier, currentIn request = .ok identifier ∧
      ((∃ character ∈ line.toList[column]?, isIdentifierChar character) →
        ∃ before letters after, IsRun before letters after line.toList ∧ before.length ≤ column ∧
          column < (before ++ letters).length ∧ identifier = String.ofList letters) ∧
      ((¬ ∃ character ∈ line.toList[column]?, isIdentifierChar character) →
        (∃ character ∈ line.toList.drop column, isIdentifierChar character) →
        ∃ before letters after, IsRun before letters after line.toList ∧ column < before.length ∧
          (∀ character ∈ before.drop column, ¬ isIdentifierChar character) ∧ identifier = String.ofList letters) ∧
      (identifier = "" ↔ ∀ character ∈ line.toList.drop column, ¬ isIdentifierChar character) := by
  refine ⟨current line.toList column, ?_, ?_⟩
  · rw [currentIn, hasColumn, hasLine]
    rfl
  generalize line.toList = text
  by_cases present : ∃ character ∈ text.drop column, isIdentifierChar character
  · obtain ⟨before, letters, after, run, stops, isFirst, answer⟩ := current_of_next present
    refine ⟨?_, ?_, ?_⟩
    · rintro ⟨character, isAt, isIdentifier⟩
      refine ⟨before, letters, after, run, ?_, stops, answer⟩
      by_contra outside
      rw [← run.whole, List.append_assoc, List.getElem?_append_left (Nat.lt_of_not_le outside)] at isAt
      exact isFirst character (mem_drop_of_mem_getElem? isAt) isIdentifier
    · intro other _
      refine ⟨before, letters, after, run, ?_, isFirst, answer⟩
      by_contra inside
      exact other (run.exists_at (by omega) stops)
    · have someLetter : current text column ≠ "" := by
        rw [answer]
        simpa using run.nonempty
      exact iff_of_false someLetter fun absent => present.elim fun character both => absent character both.1 both.2
  · have absent : ∀ character ∈ text.drop column, ¬ isIdentifierChar character := by simpa using present
    refine ⟨?_, fun _ found => absurd found present, iff_of_true (current_of_none absent) absent⟩
    rintro ⟨character, isAt, isIdentifier⟩
    exact absurd isIdentifier (absent character (mem_drop_of_mem_getElem? isAt))

theorem currentIn_answers_whole_run_behind :
    let line := "x = (gr_1)"
    let request : Value := .record [("line_value", .text line), ("column_num", .int 1)]
    (¬ ∃ character ∈ line.toList[1]?, isIdentifierChar character) ∧
      (∃ character ∈ line.toList.drop 1, isIdentifierChar character) ∧
      ∃ identifier, currentIn request = .ok identifier ∧ identifier ≠ "" ∧
        ∃ before letters after, IsRun before letters after line.toList ∧ 1 < before.length ∧
          (∀ character ∈ before.drop 1, ¬ isIdentifierChar character) ∧ identifier = String.ofList letters := by
  intro line request
  have blank : line.toList[1]? = some ' ' := by decide +kernel
  have other : ¬ ∃ character ∈ line.toList[1]?, isIdentifierChar character := by
    rintro ⟨character, isAt, isIdentifier⟩
    rw [blank, Option.mem_some_iff] at isAt
    subst character
    exact absurd isIdentifier (by decide +kernel)
  have present : ∃ character ∈ line.toList.drop 1, isIdentifierChar character :=
    ⟨'g', by decide +kernel, by decide +kernel⟩
  have hasColumn : request.field "column_num" = .ok (.int (1 : Nat)) := rfl
  obtain ⟨identifier, answer, _, behind, empty⟩ := currentIn_answers_whole_run hasColumn rfl
  refine ⟨other, present, identifier, answer, fun isEmpty => ?_, behind other present⟩
  obtain ⟨character, member, isIdentifier⟩ := present
  exact empty.mp isEmpty character member isIdentifier

end Cursor

end Typeahead
