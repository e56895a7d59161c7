import Mathlib.Order.Bounds.Basic
import Typeahead.Proofs.RequestPlaces

namespace Typeahead

/-! What the editor and the server see at the cursor. The editor asks where the identifier before the cursor starts,
whether the last character typed is in one, and whether it has just ended one. Each of these looks leads to the same
runs of identifier characters, and so does the server's look for the identifier to keep. -/

namespace Cursor

open Text

variable {text letters before after : List Char} {typed : Char} {column : Nat}

section Starts

theorem isLeast_length_rdropWhile (passes : Char → Bool) (text : List Char) :
    IsLeast {first | ∀ character ∈ text.drop first, passes character} (text.rdropWhile passes).length := by
  have cut : text.rdropWhile passes ++ text.rtakeWhile passes = text := List.rdropWhile_append_rtakeWhile
  have passing : ∀ character ∈ text.rtakeWhile passes, passes character := fun _ => List.mem_rtakeWhile_imp
  have stops := List.rdropWhile_last_not passes text
  generalize text.rdropWhile passes = kept at cut stops ⊢
  generalize text.rtakeWhile passes = rest at cut passing
  subst cut
  constructor
  · simpa using passing
  · -- from any earlier place on, the character at which the walk stopped is there too
    intro first all
    by_contra less
    have inside : first < kept.length := Nat.lt_of_not_le less
    have behind : kept.drop first ≠ [] := by simpa using inside
    refine stops (List.ne_nil_of_length_pos (by omega)) (all _ ?_)
    rw [List.drop_append_of_le_length (Nat.le_of_lt inside), ← List.getLast_drop behind]
    exact List.mem_append_left rest (List.getLast_mem behind)

theorem lastIsIdentifier_eq (within : column ≤ text.length) :
    lastIsIdentifier text column = decide (((text.take column).rdropWhile isIdentifierChar).length < column) := by
  cases column with
  | zero => rfl
  | succ column =>
      have index : ((column + 1 : Nat) : Int) - 1 = column := by omega
      have shorter := (List.rdropWhile_prefix isIdentifierChar (text.take column)).length_le
      rw [List.length_take] at shorter
      rw [lastIsIdentifier, index, if_neg (by omega), Value.nth_of_lt within, List.take_succ_eq_append_getElem within,
        List.rdropWhile_concat]
      change isIdentifierChar text[column] = _
      cases isIdentifierChar text[column] with
      | true =>
          have less : ((text.take column).rdropWhile isIdentifierChar).length < column + 1 := by omega
          simp [less]
      | false => simp [within]

end Starts

section Ends

theorem IsRun.rtakeWhile_eq (run : IsRun before letters after text) :
    (before ++ letters).rtakeWhile isIdentifierChar = letters := by
  have opens := run.opens
  rw [List.rtakeWhile, List.reverse_append, List.takeWhile_append_of_pos (by simpa using run.inside)]
  cases before using List.reverseRecOn with
  | nil => simp
  | append_singleton front last => simp_all

theorem IsRun.lastRun_eq (run : IsRun before letters (typed :: after) text) :
    lastRun (before ++ letters ++ [typed]) = letters := by
  have outside : ¬ isIdentifierChar typed := run.closes typed rfl
  have ends : ∀ nonempty, isIdentifierChar ((before ++ letters).getLast nonempty) := by
    intro nonempty
    rw [List.getLast_append_of_ne_nil _ run.nonempty]
    exact run.inside _ (List.getLast_mem run.nonempty)
  rw [lastRun, List.rdropWhile_concat_pos _ _ _ (by simpa using outside),
    List.rdropWhile_eq_self_iff.mpr (by simpa using ends), run.rtakeWhile_eq]

/-- The letters are a run, and the character right behind it is the last one before the column. -/
def JustEnded (text : List Char) (column : Nat) (letters : List Char) : Prop :=
  ∃ before typed after, IsRun before letters (typed :: after) text ∧ column = (before ++ letters ++ [typed]).length

theorem exists_justEnded_iff (front after : List Char) (typed : Char) :
    (∃ letters, JustEnded (front ++ typed :: after) (front.length + 1) letters) ↔
      (∃ last ∈ front.getLast?, isIdentifierChar last) ∧ ¬ isIdentifierChar typed := by
  constructor
  · intro ⟨letters, before, next, rest, run, isColumn⟩
    have sameLength : (before ++ letters).length = front.length := by
      simp only [List.length_append, List.length_singleton] at isColumn ⊢
      omega
    obtain ⟨rfl, ends⟩ := List.append_inj run.whole sameLength
    obtain ⟨rfl, rfl⟩ : next = typed ∧ rest = after := by simpa using ends
    refine ⟨⟨letters.getLast run.nonempty, ?_, run.inside _ (List.getLast_mem _)⟩, run.closes next rfl⟩
    rw [List.getLast?_append_of_ne_nil _ run.nonempty]
    exact List.getLast?_eq_some_getLast run.nonempty
  · intro ⟨⟨last, isLast, inside⟩, outside⟩
    obtain ⟨front, rfl⟩ := List.getLast?_eq_some_iff.mp isLast
    have run := isRun_around front (typed :: after) inside
    rw [List.takeWhile_cons_of_neg outside, List.dropWhile_cons_of_neg outside] at run
    have cut := congrArg List.length
      (List.rdropWhile_append_rtakeWhile : front.rdropWhile isIdentifierChar ++ _ = front)
    refine ⟨_, _, _, _, by simpa using run, ?_⟩
    simp only [List.length_append, List.length_cons, List.length_nil] at cut ⊢
    omega

theorem identifierFinished_behind (front after : List Char) (typed : Char) :
    identifierFinished (front ++ typed :: after) ((front.length + 1 : Nat) : Int) =
      (!isIdentifierChar typed &&
        (front.getLast?.any isIdentifierChar || identifierFinished.blank (front ++ [typed]))) := by
  have index : ((front.length + 1 : Nat) : Int) - 1 = front.length := by omega
  have upTo : (front ++ typed :: after).take (front.length + 1) = front ++ [typed] := by
    rw [List.append_cons]
    exact List.take_left' (by simp)
  rw [identifierFinished, index, if_neg (by omega), Value.nth_middle, Value.slice_to, upTo]
  dsimp only
  by_cases inside : isIdentifierChar typed
  · simp [inside]
  · rw [if_neg inside]
    cases front using List.reverseRecOn with
    | nil => simp [inside]
    | append_singleton front last =>
        have lastIndex : (((front ++ [last]).length + 1 : Nat) : Int) - 2 = front.length := by
          simp only [List.length_append, List.length_singleton]
          omega
        have atLast := Value.nth_middle front (typed :: after) last
        rw [List.append_cons] at atLast
        rw [lastIndex, if_pos (by simp), atLast]
        simp [inside]

/-- Where something other than white space has been typed, an identifier is finished exactly if a run has ended with
the character before the last one. -/
theorem identifierFinished_iff (within : column ≤ text.length)
    (notBlank : ∃ character ∈ text.take column, ¬ isSpace character) :
    identifierFinished text column ↔ ∃ letters, JustEnded text column letters := by
  obtain ⟨upTo, after, rfl, rfl⟩ : ∃ upTo after, upTo ++ after = text ∧ upTo.length = column :=
    ⟨_, _, List.take_append_drop column text, List.length_take_of_le within⟩
  rw [List.take_left] at notBlank
  cases upTo using List.reverseRecOn with
  | nil => simp at notBlank
  | append_singleton front typed =>
      have other : identifierFinished.blank (front ++ [typed]) = false := by
        rw [identifierFinished.blank, List.all_eq_false.mpr notBlank, Bool.and_false]
      rw [List.length_append, List.length_singleton, List.append_assoc, List.singleton_append,
        exists_justEnded_iff, identifierFinished_behind, other]
      simp [and_comm, Option.any_eq_true]

theorem JustEnded.lastRun_eq (ended : JustEnded text column letters) : lastRun (text.take column) = letters := by
  obtain ⟨before, typed, after, run, rfl⟩ := ended
  have upTo : text.take (before ++ letters ++ [typed]).length = before ++ letters ++ [typed] := by
    rw [← run.whole, List.append_cons _ _ after]
    exact List.take_left
  rw [upTo, run.lastRun_eq]

theorem JustEnded.nonempty (ended : JustEnded text column letters) : letters ≠ [] := by
  obtain ⟨before, typed, after, run, _⟩ := ended
  exact run.nonempty

theorem JustEnded.previousIn_eq {request : Value} (ended : JustEnded text column letters)
    (isAbout : IsAbout request text column) : previousIn (.int 0) request = .ok (String.ofList letters) := by
  obtain ⟨contents, lineNumber, stands, isLine⟩ := isAbout
  obtain ⟨inFile, rfl⟩ := List.getElem?_eq_some_iff.mp isLine
  have lastRun_eq := ended.lastRun_eq
  rw [stands.previousIn_eq, previous_of_run inFile stands.inLine (by simpa [lastRun_eq] using ended.nonempty),
    lastRun_eq, atLeast_of_le (Int.natCast_nonneg _)]

end Ends

end Cursor

namespace Editor

open Act Cursor Text

variable {workspace : Workspace} {line : String} {column : Nat}

theorem CursorIn.run_atCursor {α : Type} (stands : CursorIn workspace line column)
    (look : List Char → Int → Except Fault α) :
    (atCursor look).run.run workspace = (look line.toList column, workspace) := by
  have looked : getCursor.run.run workspace = (.ok workspace.editor.cursor, workspace) := rfl
  unfold atCursor
  rw [run_bind_ok stands.hasLine, run_bind_ok looked, stands.hasColumn]
  rfl

/-- A question that has its answer at the start of every line is asked of the line elsewhere only. -/
theorem CursorIn.run_unlessAtStart (stands : CursorIn workspace line column) {look : List Char → Int → Bool}
    {atStart : Bool} (same : look line.toList 0 = atStart) :
    (do
      if (← (← getCursor).2.asInt) ≤ 0 then return atStart
      atCursor fun line column => .ok (look line column) : Act Workspace Bool).run.run workspace =
        (.ok (look line.toList column), workspace) := by
  have looked : getCursor.run.run workspace = (.ok workspace.editor.cursor, workspace) := rfl
  have number : (liftM workspace.editor.cursor.2.asInt : Act Workspace Int).run.run workspace =
      (.ok (column : Int), workspace) := by
    rw [stands.hasColumn]
    rfl
  rw [run_bind_ok looked, run_bind_ok number]
  cases column with
  | zero =>
      simp only [Int.natCast_zero, le_refl, if_true, ← same]
      rfl
  | succ column => exact stands.run_atCursor fun line column => .ok (look line column)

theorem CursorIn.run_completionStart (stands : CursorIn workspace line column) :
    completionStart.run.run workspace =
      (.ok ((line.toList.take column).rdropWhile isIdentifierChar).length, workspace) := by
  rw [← completionStart_eq stands.inLine]
  exact stands.run_atCursor Cursor.completionStart

theorem CursorIn.run_lastIsIdentifier (stands : CursorIn workspace line column) :
    lastIsIdentifier.run.run workspace = (.ok (Cursor.lastIsIdentifier line.toList column), workspace) :=
  stands.run_unlessAtStart rfl

theorem CursorIn.run_identifierFinished (stands : CursorIn workspace line column) :
    identifierFinished.run.run workspace = (.ok (Cursor.identifierFinished line.toList column), workspace) :=
  stands.run_unlessAtStart rfl

/-- Wherever the cursor stands in a line, completion starts at the first place from which on there are only identifier
characters up to the cursor, and the last character is in an identifier exactly if that place is before the cursor.
Where something other than white space is before the cursor, an identifier is finished exactly if a run has ended right
before the last character, and the server takes this run from a request about the place. The editor sends such a
request. -/
theorem editor_and_server_agree_at_cursor (stands : CursorIn workspace line column) :
    ∃ (start : Nat) (finished : Bool),
      completionStart.run.run workspace = (.ok start, workspace) ∧
      lastIsIdentifier.run.run workspace = (.ok (decide (start < column)), workspace) ∧
      identifierFinished.run.run workspace = (.ok finished, workspace) ∧
      IsLeast {first | ∀ character ∈ (line.toList.take column).drop first, isIdentifierChar character} start ∧
      ((∃ character ∈ line.toList.take column, ¬ isSpace character) →
        (finished ↔ ∃ letters, JustEnded line.toList column letters ∧
          ∀ request, IsAbout request line.toList column →
            previousIn (.int 0) request = .ok (String.ofList letters))) ∧
      ∀ buffer lineNumber, ShowsLine workspace buffer lineNumber line →
        ∀ start query fields after, (requestData start query true).run.run workspace = (.ok fields, after) →
          IsAbout (.record fields) line.toList column := by
  refine ⟨_, _, stands.run_completionStart, ?_, stands.run_identifierFinished,
    isLeast_length_rdropWhile isIdentifierChar _, fun notBlank => ?_, ?_⟩
  · rw [stands.run_lastIsIdentifier, lastIsIdentifier_eq stands.inLine]
  · rw [identifierFinished_iff stands.inLine notBlank]
    refine exists_congr fun letters => (and_iff_left_of_imp fun ended request isAbout => ?_).symm
    exact ended.previousIn_eq isAbout
  · intro buffer lineNumber shows start query fields after done
    exact isAbout_requestData stands shows done

theorem editor_and_server_agree_at_cursor_of_call :
    let line := "  x = f_1("
    let workspace : Workspace := { editor := {
      buffers := [{ name := "/f", lines := ["a;", line] }], cursor := (.int 2, .int 10)
      answers := [("&filetype", .ok (.text "c")), ("getbufvar(", .ok (.text "0"))] } }
    CursorIn workspace line 10 ∧ identifierFinished.run.run workspace = (.ok true, workspace) ∧
      ∃ fields after, (requestData .null .null true).run.run workspace = (.ok fields, after) ∧
        previousIn (.int 0) (.record fields) = .ok "f_1" := by
  intro line workspace
  have stands : CursorIn workspace line 10 := ⟨rfl, rfl, by decide⟩
  have shows : ShowsLine workspace { name := "/f", lines := ["a;", line] } 1 line :=
    ⟨rfl, rfl, rfl, by decide, by simp [workspace]⟩
  have notBlank : ∃ character ∈ line.toList.take 10, ¬ isSpace character := ⟨'f', by decide, by decide⟩
  have isFinished : identifierFinished.run.run workspace = (.ok true, workspace) := by
    rw [stands.run_identifierFinished]
    exact congrArg (fun finished => (Except.ok finished, workspace)) (by decide)
  obtain ⟨_, finished, _, _, asked, _, ended, sent⟩ := editor_and_server_agree_at_cursor stands
  have same : finished = true := by simpa using congrArg Prod.fst (asked.symm.trans isFinished)
  obtain ⟨letters, justEnded, answers⟩ := (ended notBlank).mp same
  have isName : letters = ['f', '_', '1'] := justEnded.lastRun_eq.symm.trans (by decide)
  have isSent : ((requestData .null .null true).run.run workspace).1.isOk := by decide
  rcases ran : (requestData .null .null true).run.run workspace with ⟨result, after⟩
  rw [ran] at isSent
  cases result with
  | error fault => cases isSent
  | ok fields =>
      refine ⟨stands, isFinished, fields, after, rfl, ?_⟩
      rw [answers _ (sent _ _ shows _ _ _ _ ran), isName]

end Editor

end Typeahead
