import Typeahead.Proofs.ErrorsFirst
import Typeahead.Proofs.QuotedTexts

namespace Typeahead

/-! Which file's buffer the editor is asked for. The path stands in a literal as it is, its quotes are not written
twice, so that the editor reads the path that was meant if and only if it has no quote. -/

namespace Editor

section Written

/-- The text that is cut in a way. -/
def written (cuts : Cuts) : List Char :=
  cuts.1 ++ cuts.2.flatMap fun literal => '\'' :: (escapeChars literal.1 ++ '\'' :: literal.2)

/-- What can be cut is written with every quote of a literal twice. -/
theorem eq_written_of_cut :
    (∀ text cuts, cutPlain text = some cuts → text = written cuts) ∧
      ∀ text found, cutLiteral text = some found → text = escapeChars found.1 ++ '\'' :: written found.2 := by
  let Plainly (text : List Char) : Prop := ∀ cuts, cutPlain text = some cuts → text = written cuts
  let InLiteral (text : List Char) : Prop :=
    ∀ found, cutLiteral text = some found → text = escapeChars found.1 ++ '\'' :: written found.2
  refine cutPlain.mutual_induct Plainly InLiteral ?_ ?_ ?_ ?_ ?_ ?_ ?_
  · intro cuts isCut
    cases isCut
    rfl
  · intro rest ih cuts isCut
    rw [cutPlain, if_pos rfl] at isCut
    obtain ⟨found, isFound, rfl⟩ := Option.map_eq_some_iff.mp isCut
    rw [ih found isFound]
    simp [written]
  · intro character rest notQuote ih cuts isCut
    rw [cutPlain, if_neg notQuote] at isCut
    obtain ⟨found, isFound, rfl⟩ := Option.map_eq_some_iff.mp isCut
    rw [ih found isFound]
    simp [written]
  · intro found isCut
    cases isCut
  · intro rest ih found isCut
    rw [cutLiteral] at isCut
    obtain ⟨found, isFound, rfl⟩ := Option.map_eq_some_iff.mp isCut
    rw [ih found isFound]
    simp [escapeChars]
  · intro rest single ih found isCut
    rw [cutLiteral, if_pos rfl] at isCut
    · obtain ⟨found, isFound, rfl⟩ := Option.map_eq_some_iff.mp isCut
      rw [ih found isFound]
      simp [escapeChars]
    · exact single
  · intro character rest single notQuote ih found isCut
    rw [cutLiteral, if_neg notQuote] at isCut
    · obtain ⟨found, isFound, rfl⟩ := Option.map_eq_some_iff.mp isCut
      rw [ih found isFound]
      simp [escapeChars, notQuote]
    · exact single

theorem length_escapeChars (text : List Char) : (escapeChars text).length = text.length + text.count '\'' := by
  induction text with
  | nil => rfl
  | cons character text ih =>
      by_cases quote : character = '\''
      · subst quote
        rw [escapeChars, if_pos rfl, List.length_cons, List.length_cons, ih, List.count_cons_self, List.length_cons]
        omega
      · rw [escapeChars, if_neg quote, List.length_cons, ih, List.count_cons_of_ne quote, List.length_cons]
        omega

theorem escapeChars_eq_self_iff {text : List Char} : escapeChars text = text ↔ '\'' ∉ text := by
  constructor
  · intro same
    have lengths := length_escapeChars text
    rw [same] at lengths
    exact List.count_eq_zero.mp (by omega)
  · intro noQuote
    induction text with
    | nil => rfl
    | cons character text ih =>
        obtain ⟨notQuote, noQuote⟩ := not_or.mp (mt List.mem_cons.mpr noQuote)
        rw [escapeChars, if_neg (Ne.symm notQuote), ih noQuote]

end Written

section Calls

def Reading.cuts (reading : Reading) : Cuts :=
  (reading.before.toList, reading.literals.map fun literal => (literal.1.toList, literal.2.toList))

theorem eq_written_of_reading? {text : String} {reading : Reading} (reads : reading? text = some reading) :
    text = String.ofList (written reading.cuts) := by
  obtain ⟨cuts, isCut, rfl⟩ := Option.map_eq_some_iff.mp reads
  have same : (Reading.ofCuts cuts).cuts = cuts := by simp [Reading.cuts, Reading.ofCuts, Function.comp_def]
  rw [same, ← eq_written_of_cut.1 _ _ isCut, String.ofList_toList]

/-- What stands behind the path in the expression for the number of its buffer. -/
def behindPath (opens : Bool) : String := if opens then ", 1)" else ", 0)"

/-- How the expression for the number of the buffer of a file should be read. -/
def bufferCall (file : String) (opens : Bool) : Reading := ⟨"bufnr(", [(file, behindPath opens)]⟩

theorem bufferNumberOf_eq (path : String) (opens : Bool) :
    bufferNumberOf path opens = "bufnr('" ++ path ++ ("'" ++ behindPath opens) := by
  have ending : "', " ++ ((if opens then "1" else "0") ++ ")") = "'" ++ behindPath opens := by
    cases opens <;> decide
  rw [bufferNumberOf, ← ending, String.append_assoc, String.append_assoc]

theorem reading?_escaped_path (file : String) (opens : Bool) :
    reading? (bufferNumberOf (escape file) opens) = some (bufferCall file opens) := by
  have opening : "bufnr('" = "bufnr(" ++ "'" := by decide
  have noQuote : '\'' ∉ (behindPath opens).toList := by cases opens <;> decide
  rw [bufferNumberOf_eq]
  exact reading?_last_literal opening rfl (by decide) noQuote file

theorem bufferNumberOf_inj {first second : String} {opens : Bool} :
    bufferNumberOf first opens = bufferNumberOf second opens ↔ first = second := by
  simp [bufferNumberOf_eq]

/-- The only expression for a file has every quote of its path twice. -/
theorem reading?_eq_bufferCall_iff {expression file : String} {opens : Bool} :
    reading? expression = some (bufferCall file opens) ↔ expression = bufferNumberOf (escape file) opens := by
  constructor
  · intro reads
    rw [eq_written_of_reading? reads, ← eq_written_of_reading? (reading?_escaped_path file opens)]
  · rintro rfl
    exact reading?_escaped_path file opens

theorem reading?_bufferNumberOf_iff (file : String) (opens : Bool) :
    reading? (bufferNumberOf file opens) = some (bufferCall file opens) ↔ '\'' ∉ file.toList := by
  rw [reading?_eq_bufferCall_iff, bufferNumberOf_inj, ← escapeChars_eq_self_iff, ← String.toList_inj, escape,
    String.toList_ofList, eq_comm]

/-- The editor answers an expression for the number of a buffer, which it is to open, by the file that it reads in it. -/
def Numbers (workspace : Workspace) (number : String → Int) : Prop :=
  ∀ expression file, reading? expression = some (bufferCall file true) →
    intAnswerTo workspace expression = .ok (number file)

theorem run_bufferNumber (path : String) (opens : Bool) (workspace : Workspace) :
    (bufferNumber (.text path) opens).run.run workspace =
      (intAnswerTo workspace (bufferNumberOf (workspace.real path) opens),
        { workspace with
          events := workspace.events ++ [.evaluate (bufferNumberOf (workspace.real path) opens)] }) := by
  have isText : (liftM (Value.text path).asText : Act Workspace String).run.run workspace = (.ok path, workspace) := rfl
  unfold bufferNumber
  rw [Act.run_bind_ok isText, Act.run_bind_ok (Act.run_get workspace), run_evaluateInt]

theorem Numbers.bufferOf_eq {workspace : Workspace} {number : String → Int} (numbers : Numbers workspace number)
    {path : String} (noQuote : '\'' ∉ (workspace.real path).toList) :
    bufferOf workspace (.text path) = .ok (number (workspace.real path)) :=
  numbers _ _ ((reading?_bufferNumberOf_iff _ true).mpr noQuote)

end Calls

end Editor

namespace Client.Diagnostics

open Editor

section Items

variable {scene : Workspace} {α β : Type} {act : Act Workspace α} {next : α → Act Workspace β}

theorem Answers.bind {value : α} {last : β} (first : Answers scene act value) (rest : Answers scene (next value) last) :
    Answers scene (act >>= next) last := by
  intro events
  obtain ⟨added, running⟩ := first events
  obtain ⟨more, finishing⟩ := rest (events ++ added)
  exact ⟨added ++ more, by rw [Act.run_bind_ok running, finishing, List.append_assoc]⟩

theorem answers_pure (value : α) : Answers scene (pure value) value :=
  fun events => ⟨[], by rw [List.append_nil]; rfl⟩

theorem answers_except_bind {result : Except Fault α} {value : α} {last : β} (isOk : result = .ok value)
    (rest : Answers scene (next value) last) : Answers scene (liftM result >>= next) last := by
  subst isOk
  exact (answers_pure value).bind rest

theorem answers_bufferNumber {path : String} {number : Int} (isNumber : bufferOf scene (.text path) = .ok number) :
    Answers scene (bufferNumber (.text path) true) number := by
  intro events
  refine ⟨_, (run_bufferNumber path true { scene with events }).trans (Prod.ext ?_ rfl)⟩
  exact isNumber

/-- The item of a report in the location list. -/
def Report.item (report : Report) (text : Value) (number : Int) : Value :=
  .record [("bufnr", .int number), ("lnum", .int (report.line + 1)), ("col", .int (report.column + 1)),
    ("text", .text text.display), ("type", .text (if report.isError then "E" else "W")), ("valid", .int 1)]

theorem answers_locationRecord {diagnostic location text kind : Value} {path : String} {line column number : Int}
    (hasLocation : diagnostic.field "location" = .ok location) (hasPath : location.field "filepath" = .ok (.text path))
    (hasLine : location.field "line_num" = .ok (.int line))
    (hasColumn : location.field "column_num" = .ok (.int column))
    (hasText : diagnostic.field "text" = .ok text) (hasKind : diagnostic.field "kind" = .ok kind)
    (isNumber : bufferOf scene (.text path) = .ok number) :
    Answers scene (locationItem diagnostic) (.record [("bufnr", .int number), ("lnum", .int (line + 1)),
      ("col", .int (column + 1)), ("text", .text text.display), ("type", kind), ("valid", .int 1)]) := by
  refine answers_except_bind hasLocation (answers_except_bind hasPath ?_)
  refine (answers_bufferNumber isNumber).bind ?_
  refine answers_except_bind hasLine (answers_except_bind rfl ?_)
  refine answers_except_bind hasColumn (answers_except_bind rfl ?_)
  exact answers_except_bind hasText (answers_except_bind hasKind (answers_pure _))

theorem answers_locationItem {report : Report} {text : Value} {number : Int}
    (hasText : report.value.field "text" = .ok text) (isNumber : bufferOf scene (.text report.path) = .ok number) :
    Answers scene (locationItem report.value) (report.item text number) :=
  answers_locationRecord report.hasLocation report.hasPath report.hasLine report.hasColumn hasText report.hasKind
    isNumber

theorem answers_locationItems {diagnostics items : List Value}
    (each : List.Forall₂ (fun diagnostic item => Answers scene (locationItem diagnostic) item) diagnostics items) :
    Answers scene (locationItems (.list diagnostics)) (.list items) := by
  let add (diagnostic : Value) (before : List Value) : Act Workspace (ForInStep (List Value)) := do
    return .yield (before ++ [← locationItem diagnostic])
  have collecting (before : List Value) : Answers scene (forIn diagnostics before add) (before ++ items) := by
    induction each generalizing before with
    | nil =>
        rw [List.append_nil]
        exact answers_pure before
    | @cons diagnostic item _ _ first _ ih =>
        have adds : Answers scene (add diagnostic before) (.yield (before ++ [item])) := first.bind (answers_pure _)
        rw [List.forIn_cons, List.append_cons]
        exact adds.bind (ih _)
  exact answers_except_bind rfl ((collecting []).bind (answers_pure _))

end Items

/-- The editor is asked for the number of a buffer with the path of the file in a literal. It reads the real path of the
file there, with the fixed end of the call behind it, if and only if that path has no quote. So diagnostics are
attached to the buffers of their files, in the groups by buffer and line and in the location list, as long as no file
has a quote in its path. -/
theorem buffer_of_file_asked_for_iff (workspace : Workspace) :
    (∀ path opens, ∃ sent,
      (bufferNumber (.text path) opens).run.run workspace =
        (intAnswerTo workspace sent, { workspace with events := workspace.events ++ [.evaluate sent] }) ∧
      (reading? sent = some (bufferCall (workspace.real path) opens) ↔ '\'' ∉ (workspace.real path).toList)) ∧
    ∀ (number : String → Int) (reports : List Report), Numbers workspace number →
      (∀ report ∈ reports, '\'' ∉ (workspace.real report.path).toList) →
      (∃ groups, Answers workspace (grouped (.list (reports.map (·.value)))) groups ∧
        (spots groups).Perm (reports.map (Report.spot fun path => number (workspace.real path)))) ∧
      ((∀ report ∈ reports, ∃ text, report.value.field "text" = .ok text) →
        ∃ items, Answers workspace (locationItems (.list (reports.map (·.value)))) (.list items) ∧
          List.Forall₂ (fun report item => item.field "bufnr" = .ok (.int (number (workspace.real report.path))))
            reports items) := by
  refine ⟨fun path opens => ⟨_, run_bufferNumber path opens workspace, reading?_bufferNumberOf_iff _ opens⟩, ?_⟩
  intro number reports numbers noQuotes
  have numbered : ∀ report ∈ reports,
      bufferOf workspace (.text report.path) = .ok (number (workspace.real report.path)) :=
    fun report isReport => numbers.bufferOf_eq (noQuotes report isReport)
  constructor
  · obtain ⟨groups, collects⟩ := exists_collects reports fun path => number (workspace.real path)
    obtain ⟨_, _, moved, _⟩ := groups_of_sorted collects
    exact ⟨groups, collects.answers numbered, moved⟩
  · intro haveTexts
    choose! text hasText using haveTexts
    let item (report : Report) : Value := report.item (text report) (number (workspace.real report.path))
    have each : List.Forall₂ (fun diagnostic item => Answers workspace (locationItem diagnostic) item)
        (reports.map (·.value)) (reports.map item) := by
      rw [List.forall₂_map_left_iff, List.forall₂_map_right_iff, List.forall₂_same]
      exact fun report isReport => answers_locationItem (hasText report isReport) (numbered report isReport)
    refine ⟨reports.map item, answers_locationItems each, ?_⟩
    rw [List.forall₂_map_right_iff, List.forall₂_same]
    exact fun _ _ => rfl

section Files

/-- An editor with a buffer for one file that has the number 1; all other files are in buffer 2. -/
def twoBuffers : Workspace :=
  { editor := { answers := [("bufnr('/one.cpp', ", .ok (.int 1)), ("bufnr(", .ok (.int 2))] } }

/-- The numbers of the buffers of that editor. -/
def numberOfTwo (file : String) : Int := if file = "/one.cpp" then 1 else 2

/-- What follows the first literal does not change what it denotes. -/
theorem file_of_startsWith {expression file : String} (reads : reading? expression = some (bufferCall file true))
    (starts : Text.startsWith expression "bufnr('/one.cpp', " = true) : file = "/one.cpp" := by
  obtain ⟨rest, isRest⟩ := List.isPrefixOf_iff_prefix.mp starts
  have isExpression : expression = "bufnr('" ++ escape "/one.cpp" ++ ("'" ++ (", " ++ String.ofList rest)) := by
    rw [← String.toList_inj, ← isRest]
    simp [escape, escapeChars]
  have opening : "bufnr('" = "bufnr(" ++ "'" := by decide
  rw [isExpression, reading?_literal opening rfl (by decide) (by simp)] at reads
  obtain ⟨others, _, same⟩ := Option.map_eq_some_iff.mp reads
  have literals := congrArg Reading.literals same
  exact (Prod.mk.inj (List.cons.inj literals).1).1.symm

theorem numbers_twoBuffers : Numbers twoBuffers numberOfTwo := by
  intro expression file reads
  have isWritten := reading?_eq_bufferCall_iff.mp reads
  by_cases starts : Text.startsWith expression "bufnr('/one.cpp', " = true
  · have answered : twoBuffers.editor.answer? expression = some (.ok (.int 1)) := by simp [answer?, twoBuffers, starts]
    rw [file_of_startsWith reads starts, intAnswerTo, answerTo, answered]
    rfl
  · have isCall : Text.startsWith expression "bufnr(" = true := by
      rw [isWritten, bufferNumberOf_eq]
      simp [Text.startsWith]
    have notFirst : file ≠ "/one.cpp" := by
      rintro rfl
      apply starts
      rw [isWritten]
      decide +kernel
    have answered : twoBuffers.editor.answer? expression = some (.ok (.int 2)) := by
      simp [answer?, twoBuffers, starts, isCall]
    rw [intAnswerTo, answerTo, answered, numberOfTwo, if_neg notFirst]
    rfl

/-- A report of an error in the third line of a file. -/
def inThirdLine (path : String) : Report where
  value := .record [("location", .record [("filepath", .text path), ("line_num", .int 2), ("column_num", .int 0)]),
    ("kind", .text "E"), ("text", .text "undeclared")]
  location := .record [("filepath", .text path), ("line_num", .int 2), ("column_num", .int 0)]
  path := path
  line := 2
  column := 0
  isError := true
  hasLocation := rfl
  hasPath := rfl
  hasLine := rfl
  hasColumn := rfl
  hasKind := rfl

end Files

theorem buffer_of_file_asked_for_iff_two_files :
    Numbers twoBuffers numberOfTwo ∧
      ∃ groups, Answers twoBuffers
          (grouped (.list [(inThirdLine "/src/../one.cpp").value, (inThirdLine "two \"x\".cpp").value])) groups ∧
        (spots groups).Perm
          [⟨1, 3, (inThirdLine "/src/../one.cpp").value⟩, ⟨2, 3, (inThirdLine "two \"x\".cpp").value⟩] := by
  have noQuotes : ∀ report ∈ [inThirdLine "/src/../one.cpp", inThirdLine "two \"x\".cpp"],
      '\'' ∉ (twoBuffers.real report.path).toList := by
    decide +kernel
  obtain ⟨groups, answers, moved⟩ :=
    ((buffer_of_file_asked_for_iff twoBuffers).2 numberOfTwo _ numbers_twoBuffers noQuotes).1
  have firstFile : numberOfTwo (twoBuffers.real "/src/../one.cpp") = 1 := by decide +kernel
  have secondFile : numberOfTwo (twoBuffers.real "two \"x\".cpp") = 2 := by decide +kernel
  refine ⟨numbers_twoBuffers, groups, answers, ?_⟩
  simpa [Report.spot, inThirdLine, firstFile, secondFile] using moved

/-- With a quote in the path the expression has a literal that does not end, and with two of them it is read as the
expression for another file. -/
theorem path_with_quote_misread :
    (∃ answer, (bufferNumber (.text "/it's.cpp") true).run.run {} =
        (answer, { events := [.evaluate "bufnr('/it's.cpp', 1)"] })) ∧
      reading? "bufnr('/it's.cpp', 1)" = none ∧
      ∃ answer, (bufferNumber (.text "/it''s.cpp") true).run.run {} =
        (answer, { events := [.evaluate "bufnr('/it''s.cpp', 1)"] }) ∧
      reading? "bufnr('/it''s.cpp', 1)" = some (bufferCall "/it's.cpp" true) := by
  refine ⟨⟨_, run_bufferNumber "/it's.cpp" true {}⟩, by decide +kernel, _, run_bufferNumber "/it''s.cpp" true {}, ?_⟩
  decide +kernel

end Client.Diagnostics

end Typeahead
