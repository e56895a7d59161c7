import Typeahead.Proofs.EditorFrames
import Typeahead.Proofs.PrecedingIdentifier
import Typeahead.Proofs.TextPieces

namespace Typeahead

/-! The place that a request is about. A request has the number of the line and the column of the cursor, and the lines
of the current buffer as the contents of its file; so whoever reads it looks at the line that the editor shows. -/

namespace Cursor

/-- A request is about a column of a line: the line that it names in its file is that one. -/
def IsAbout (request : Value) (line : List Char) (column : Nat) : Prop :=
  ∃ contents lineNumber, StandsAt request contents lineNumber column ∧ (linesOf contents)[lineNumber]? = some line

theorem linesOf_join {lines : List String} (someLine : lines ≠ []) (noLineFeeds : ∀ line ∈ lines, '\n' ∉ line.toList) :
    linesOf (Text.join "\n" lines) = lines.map String.toList := by
  have joined : (Text.join "\n" lines).toList = ['\n'].intercalate (lines.map String.toList) :=
    String.toList_intercalate
  rw [linesOf, Text.splitChars_eq_splitOn, joined, List.splitOn_intercalate]
  · simpa using noLineFeeds
  · simpa using someLine

end Cursor

namespace Editor

open Act Cursor

variable {workspace state later after : Workspace} {buffer other : Buffer} {place index lineNumber column : Nat}
  {line : String}

/-- The editor and the folders are as before. -/
def Unmoved (before after : Workspace) : Prop := after.editor = before.editor ∧ after.places = before.places

instance : AllowsAsking Unmoved where
  refl _ := ⟨rfl, rfl⟩
  trans first second := ⟨second.1.trans first.1, second.2.trans first.2⟩
  asked _ _ := ⟨rfl, rfl⟩

theorem Unmoved.pathOf_eq (unmoved : Unmoved workspace state) (buffer : Buffer) :
    pathOf state buffer = pathOf workspace buffer := by
  rw [pathOf, pathOf, unmoved.2]

section Contents

variable {files : Value.Fields} {past : List (Buffer × Nat)}

/-- The file of a buffer is given with the buffer's lines as its contents. -/
def Gives (workspace : Workspace) (buffer : Buffer) (files : Value.Fields) : Prop :=
  ∃ file, files.lookup (pathOf workspace buffer) = some file ∧
    file.field "contents" = .ok (.text (Text.join "\n" buffer.lines))

/-- On the way through the buffers: the file of one of them is given with no other contents, and it is given once that
one has been passed. -/
structure Gathers (workspace : Workspace) (buffer : Buffer) (place : Nat) (past : List (Buffer × Nat))
    (files : Value.Fields) (state : Workspace) : Prop where
  unmoved : Unmoved workspace state
  only : files.lookup (pathOf workspace buffer) = none ∨ Gives workspace buffer files
  passed : (buffer, place) ∈ past → Gives workspace buffer files

theorem Gathers.skip (gathers : Gathers workspace buffer place past files state) (unmoved : Unmoved workspace later)
    (isOther : (buffer, place) ≠ (other, index)) :
    Gathers workspace buffer place (past ++ [(other, index)]) files later where
  unmoved := unmoved
  only := gathers.only
  passed member := gathers.passed ((List.mem_append.mp member).resolve_right (by simpa using isOther))

theorem Gathers.write (gathers : Gathers workspace buffer place past files state) (unmoved : Unmoved workspace later)
    (sameLines : pathOf workspace other = pathOf workspace buffer → other.lines = buffer.lines) (filetypes : Value) :
    Gathers workspace buffer place (past ++ [(other, index)])
      (files.set (pathOf later other)
        (.record [("contents", .text (Text.join "\n" other.lines)), ("filetypes", filetypes)])) later := by
  rw [unmoved.pathOf_eq]
  by_cases samePath : pathOf workspace other = pathOf workspace buffer
  · rw [samePath, sameLines samePath]
    have given : Gives workspace buffer (files.set (pathOf workspace buffer)
        (.record [("contents", .text (Text.join "\n" buffer.lines)), ("filetypes", filetypes)])) :=
      ⟨_, Table.lookup_put_self _ _ _, rfl⟩
    exact ⟨unmoved, .inr given, fun _ => given⟩
  · have kept (file : Value) : (files.set (pathOf workspace other) file).lookup (pathOf workspace buffer) =
        files.lookup (pathOf workspace buffer) := Table.lookup_put_other _ _ (Ne.symm samePath)
    refine ⟨unmoved, ?_, fun member => ?_⟩
    · rw [Gives, kept]
      exact gathers.only
    · rw [Gives, kept]
      refine gathers.passed ((List.mem_append.mp member).resolve_right fun here => samePath ?_)
      cases List.mem_singleton.mp here
      rfl

end Contents

/-- The cursor is in a line of the current buffer. No line of the buffer has a line feed in it, and a buffer that goes
by the same path has the same lines. -/
structure ShowsLine (workspace : Workspace) (buffer : Buffer) (lineNumber : Nat) (line : String) : Prop where
  isCurrent : Value.nth workspace.editor.buffers workspace.editor.current = .ok buffer
  atLine : workspace.editor.cursor.1 = .int (lineNumber + 1)
  isLine : buffer.lines[lineNumber]? = some line
  noLineFeeds : ∀ line ∈ buffer.lines, '\n' ∉ line.toList
  sameLines : ∀ other ∈ workspace.editor.buffers, pathOf workspace other = pathOf workspace buffer →
    other.lines = buffer.lines

theorem ShowsLine.linesOf_contents (shows : ShowsLine workspace buffer lineNumber line) :
    (linesOf (Text.join "\n" buffer.lines))[lineNumber]? = some line.toList := by
  have isLine := shows.isLine
  have someLine : buffer.lines ≠ [] := by
    intro none
    simp [none] at isLine
  simp [linesOf_join someLine shows.noLineFeeds, isLine]

theorem gives_unsavedContents (shows : ShowsLine workspace buffer lineNumber line) (unmoved : Unmoved workspace state)
    {contents : Value} (done : unsavedContents.run.run state = (.ok contents, after)) :
    ∃ files, contents = .record files ∧ Gives workspace buffer files := by
  obtain ⟨place, isPlace, atPlace⟩ := Value.exists_position_of_nth_ok shows.isCurrent
  obtain ⟨_, _, got, done⟩ := exists_of_run_bind_ok done
  cases got
  obtain ⟨files, middle, looped, done⟩ := exists_of_run_bind_ok done
  cases done
  dsimp only at looped
  rw [unmoved.1] at looped
  have gathered : Gathers workspace buffer place ([] ++ workspace.editor.buffers.zipIdx) files after := by
    refine holds_of_run_forIn_ok (Gathers workspace buffer place) ?_ ⟨unmoved, .inl rfl, by simp⟩ looped
    intro past ⟨other, index⟩ files state step after member gathers ran
    obtain ⟨isModified, asked, first, ran⟩ := exists_of_run_bind_ok ran
    have unmoved : Unmoved workspace asked := Chains.trans gathers.unmoved ((keeps_isModified other).of_run first)
    dsimp only at ran
    split at ran
    · obtain ⟨filetypes, later, second, ran⟩ := exists_of_run_bind_ok ran
      have unmoved : Unmoved workspace later := Chains.trans unmoved ((keeps_filetypesOf other).of_run second)
      have isBuffer : other ∈ workspace.editor.buffers := List.mem_of_getElem? (List.mem_zipIdx_iff_getElem?.mp member)
      cases ran
      exact ⟨_, rfl, gathers.write unmoved (shows.sameLines other isBuffer) _⟩
    · -- a buffer that is left out is not the current one
      rename_i leftOut
      cases ran
      refine ⟨_, rfl, gathers.skip unmoved fun same => ?_⟩
      cases same
      simp [isPlace] at leftOut
  exact ⟨files, rfl, gathered.passed (by simpa [List.mem_zipIdx_iff_getElem?] using atPlace)⟩

/-- The cursor stands in a line, before one of its characters or behind the last one. -/
structure CursorIn (workspace : Workspace) (line : String) (column : Nat) : Prop where
  hasLine : currentLine.run.run workspace = (.ok (.text line), workspace)
  hasColumn : workspace.editor.cursor.2 = .int column
  inLine : column ≤ line.toList.length

theorem run_currentPath (isCurrent : Value.nth workspace.editor.buffers workspace.editor.current = .ok buffer) :
    currentPath.run.run workspace = (.ok (pathOf workspace buffer), workspace) := by
  have looked := run_buffer workspace
  rw [isCurrent] at looked
  exact (run_bind_ok (run_get workspace)).trans (run_bind_ok looked)

theorem run_lineAndColumn (atLine : workspace.editor.cursor.1 = .int (lineNumber + 1))
    (atColumn : workspace.editor.cursor.2 = .int column) :
    lineAndColumn.run.run workspace = (.ok (.int lineNumber, .int column), workspace) := by
  have cursor : workspace.editor.cursor = (.int (lineNumber + 1), .int column) := Prod.ext atLine atColumn
  have line : (Value.int (lineNumber + 1)).minus (.int 1) = .ok (.int lineNumber) := by
    change Except.ok (Value.int (lineNumber + 1 - 1)) = _
    rw [Int.add_sub_cancel]
  have looked : getCursor.run.run workspace = (.ok (.int (lineNumber + 1), .int column), workspace) := by
    rw [← cursor]
    rfl
  unfold lineAndColumn
  rw [run_bind_ok looked]
  dsimp only
  rw [line]
  rfl

theorem isAbout_requestData (stands : CursorIn workspace line column)
    (shows : ShowsLine workspace buffer lineNumber line) {start query : Value} {fields : Value.Fields}
    (done : (requestData start query true).run.run workspace = (.ok fields, after)) :
    IsAbout (.record fields) line.toList column := by
  unfold requestData at done
  rw [run_bind_ok (run_lineAndColumn shows.atLine stands.hasColumn)] at done
  dsimp only at done
  rw [run_bind_ok (run_currentPath shows.isCurrent)] at done
  obtain ⟨filetypes, asked, first, done⟩ := exists_of_run_bind_ok done
  obtain ⟨shown, looked, second, done⟩ := exists_of_run_bind_ok done
  obtain ⟨contents, gathered, third, done⟩ := exists_of_run_bind_ok done
  have unmoved : Unmoved workspace looked :=
    Chains.trans (keeps_filetypes.of_run first) (keeps_currentLine.of_run second)
  obtain ⟨files, rfl, file, isFile, hasContents⟩ := gives_unsavedContents shows unmoved third
  have found : (Value.record files).field (pathOf workspace buffer) = .ok file := by rw [Value.field, isFile]
  obtain ⟨inFile, isText⟩ := List.getElem?_eq_some_iff.mp shows.linesOf_contents
  refine ⟨_, lineNumber, ?_, shows.linesOf_contents⟩
  -- a query is added behind the other fields, which are found as before
  cases done
  split <;> exact ⟨rfl, rfl, ⟨_, _, _, rfl, rfl, found, hasContents⟩, inFile, isText ▸ stands.inLine⟩

end Editor

end Typeahead
