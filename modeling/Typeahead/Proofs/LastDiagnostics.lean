import Typeahead.Proofs.CacheUsers
import Typeahead.Proofs.Since

namespace Typeahead.Completer.SemanticState

open Frontend (Diagnostic)

/-! The diagnostics that are kept for the cursor. There is one list of them for all files, and each parse that the
engine answers puts its own findings in the place of all that were kept, whichever files those lie in. -/

/-- A question about the place in a file where the cursor is, counted from 0. -/
structure Asks (request : Value) (file : String) (line column : Int) : Prop where
  file : request.field "filepath" = .ok (.text file)
  line : request.field "line_num" = .ok (.int line)
  column : request.field "column_num" = .ok (.int column)

/-- A diagnostic lies in a file, on a line counted from 0. -/
def LiesOn (diagnostic : Diagnostic) (file : String) (line : Int) : Prop :=
  diagnostic.location.path = file ∧ diagnostic.location.line = line + 1

instance (diagnostic : Diagnostic) (file : String) (line : Int) : Decidable (LiesOn diagnostic file line) :=
  inferInstanceAs (Decidable (_ ∧ _))

section Explain

/-- What is said about a place, given the diagnostics that are kept. -/
def explain (kept : List Diagnostic) (file : String) (line column : Int) : Except Fault Value :=
  let here := kept.filter (LiesOn · file line)
  if here.isEmpty then .error (.refused noDiagnostic)
  else match nearest (column + 1) furthest here with
    | some diagnostic => .ok (Response.message (.text diagnostic.long))
    | none => .error (.noFeature "no diagnostic is near enough")

theorem explain_eq_refused_iff (kept : List Diagnostic) (file : String) (line column : Int) :
    explain kept file line column = .error (.refused noDiagnostic) ↔
      ∀ diagnostic ∈ kept, ¬ LiesOn diagnostic file line := by
  have nothing_iff : (kept.filter (LiesOn · file line)).isEmpty = true ↔
      ∀ diagnostic ∈ kept, ¬ LiesOn diagnostic file line := by
    simp
  rw [← nothing_iff]
  unfold explain
  dsimp only
  split
  · simp [*]
  · split <;> simp [*]

theorem same_place_eq (diagnostic : Diagnostic) (file : String) (line : Int) :
    ((Value.text file).same (.text diagnostic.location.path) &&
      (Value.int (line + 1)).same (.int diagnostic.location.line)) = decide (LiesOn diagnostic file line) := by
  change (file == diagnostic.location.path && line + 1 == diagnostic.location.line) = _
  rw [Bool.eq_iff_iff, decide_eq_true_iff, Bool.and_eq_true, beq_iff_eq, beq_iff_eq]
  exact and_congr eq_comm eq_comm

theorem run_detailedDiagnostic {request : Value} {file : String} {line column : Int}
    (asks : Asks request file line column) (state : SemanticState) (workspace : Workspace) :
    (detailedDiagnostic request).run.run (state, workspace) =
      (explain state.diagnostics file line column, state, workspace) := by
  have here : (state.diagnostics.filter fun diagnostic => (Value.text file).same (.text diagnostic.location.path) &&
      (Value.int (line + 1)).same (.int diagnostic.location.line)) = state.diagnostics.filter (LiesOn · file line) :=
    List.filter_congr fun diagnostic _ => same_place_eq diagnostic file line
  unfold detailedDiagnostic explain
  rw [asks.line, asks.column, asks.file, ← here]
  -- reading the request comes down to values
  iterate 6 refine (Act.run_bind_ok rfl).trans ?_
  dsimp only
  split
  · next none =>
      rw [List.isEmpty_iff.mp none]
      rfl
  · split
    · rfl
    · refine (Act.run_bind_ok rfl).trans ?_
      change (match nearest (column + 1) furthest _ with
        | some diagnostic => pure (Response.message (.text diagnostic.long))
        | none => throw (.noFeature "no diagnostic is near enough") : Doing Value).run.run (state, workspace) = _
      cases nearest (column + 1) furthest _ with
      | some diagnostic => rfl
      | none => rfl

end Explain

section Findings

/-- The diagnostics that are kept stay as they are, whether or not the act fails. -/
def Spares {α : Type} (act : Doing α) : Prop :=
  act.Keeps fun before after => after.1.diagnostics = before.1.diagnostics

theorem spares_flagsFor (request : Value) : Spares (flagsFor request) := keeps_flagsFor (fun _ _ => rfl) request

theorem spares_update (path : String) (files : List OpenFile) (flags : List String) :
    Spares (update path files flags) := by
  unfold update
  refine Act.Keeps.bind (fun _ => rfl) fun engine => ?_
  cases engine with
  | none => exact fun _ => rfl
  | some engine => exact Act.Keeps.bind (fun _ => rfl) fun _ => Act.keeps_pure _

/-- Findings are not kept before the engine has answered. -/
theorem spares_findings (request : Value) : Spares (findings request) := by
  unfold findings
  refine Act.keeps_except_bind fun path => ?_
  cases path with
  | text path =>
      refine Act.keeps_except_bind fun _ => Act.keeps_except_bind fun _ => Act.keeps_except_bind fun contents => ?_
      refine Act.keeps_except_bind fun text => ?_
      dsimp only
      split
      · exact Act.keeps_throw _
      split
      · exact Act.keeps_throw _
      refine Act.Keeps.bind (spares_flagsFor request) fun flags => ?_
      split
      · split
        · exact Act.keeps_throw _
        refine Act.keeps_except_bind fun files => ?_
        exact Act.Keeps.bind (spares_update _ _ _) fun _ => Act.keeps_pure _
      · exact Act.keeps_throw _
  | _ => exact Act.keeps_throw _

end Findings

/-- A file that is ready to be parsed, and the workspace at that time. -/
structure Parse where
  request : Value
  workspace : Workspace

namespace Parse

def perform (parse : Parse) (state : SemanticState) : SemanticState :=
  ((semantic.notice .fileReadyToParse parse.request).run.run (state, parse.workspace)).2.1

/-- What a parse finds, unless it is refused or fails before the engine has answered. -/
def found? (parse : Parse) (state : SemanticState) : Option (List Diagnostic) :=
  ((findings parse.request).run.run (state, parse.workspace)).1.toOption

def IsAnswered (parse : Parse) (state : SemanticState) : Prop := ∃ found, parse.found? state = some found

/-- A parse finds something on a line of a file, which need not be the file that it parses. -/
def FindsOn (file : String) (line : Int) (parse : Parse) (state : SemanticState) : Prop :=
  ∃ found, parse.found? state = some found ∧ ∃ diagnostic ∈ found, LiesOn diagnostic file line

theorem diagnostics_perform (parse : Parse) (state : SemanticState) :
    (parse.perform state).diagnostics = (parse.found? state).getD state.diagnostics := by
  have spared := spares_findings parse.request (state, parse.workspace)
  change ((parseFile parse.request).run.run (state, parse.workspace)).2.1.diagnostics = _
  unfold found? parseFile
  rcases running : (findings parse.request).run.run (state, parse.workspace) with ⟨result, ended, workspace⟩
  rw [running] at spared
  cases result with
  | error fault =>
      rw [Act.run_bind_error running]
      exact spared
  | ok found =>
      rw [Act.run_bind_ok running]
      -- what is answered may still fail, but the findings are kept by then
      have answers : Spares (do
          let limit ← (← get).1.core.settings.option "max_diagnostics_to_display"
          return Value.list ((← upTo limit found).map Response.diagnostic)) :=
        Act.keeps_get.bind fun _ => Act.keeps_except_bind fun _ => Act.keeps_except_bind fun _ => Act.keeps_pure _
      exact answers ({ ended with diagnostics := found }, workspace)

end Parse

/-- The completer after parses, one after another, whether or not they fail. -/
def afterParses (core : Core) (parses : List Parse) : SemanticState :=
  parses.foldl (fun state parse => parse.perform state) { core }

/-- The last parse that the engine answered found something on a line of a file. -/
def FoundLast (core : Core) (parses : List Parse) (file : String) (line : Int) : Prop :=
  Since (fun state parse => parse.perform state) (Parse.FindsOn file line) Parse.IsAnswered parses { core }

theorem afterParses_concat (core : Core) (parses : List Parse) (last : Parse) :
    afterParses core (parses ++ [last]) = last.perform (afterParses core parses) := by
  simp [afterParses]

theorem exists_kept_iff (core : Core) (parses : List Parse) (file : String) (line : Int) :
    (∃ diagnostic ∈ (afterParses core parses).diagnostics, LiesOn diagnostic file line) ↔
      FoundLast core parses file line := by
  induction parses using List.reverseRecOn with
  | nil => exact iff_of_false (by simp [afterParses]) (not_since_nil _)
  | append_singleton parses last ih =>
      rw [afterParses_concat, Parse.diagnostics_perform, FoundLast, since_concat_iff]
      change _ ↔ last.FindsOn file line (afterParses core parses) ∨
        (FoundLast core parses file line ∧ ¬ last.IsAnswered (afterParses core parses))
      unfold Parse.FindsOn Parse.IsAnswered
      cases last.found? (afterParses core parses) with
      | some found => simp
      | none => simpa using ih

/-- What is answered about the cursor's place. -/
def detail (request : Value) (state : SemanticState) (workspace : Workspace) : Except Fault Value :=
  ((semantic.detailedDiagnostic request).run.run (state, workspace)).1

theorem detail_eq {request : Value} {file : String} {line column : Int} (asks : Asks request file line column)
    (state : SemanticState) (workspace : Workspace) :
    detail request state workspace = explain state.diagnostics file line column :=
  congrArg Prod.fst (run_detailedDiagnostic asks state workspace)

/-- A parse that finds nothing in a file leaves what is said about a line of it as it was, unless the engine answers
the parse and the last parse that it answered before found something on that line. -/
theorem detail_survives_parse_iff (core : Core) (parses : List Parse) (last : Parse) {request : Value} {file : String}
    {line column : Int} (asks : Asks request file line column)
    (elsewhere : ∀ found, last.found? (afterParses core parses) = some found →
      ∀ diagnostic ∈ found, diagnostic.location.path ≠ file) (before later : Workspace) :
    detail request (afterParses core (parses ++ [last])) later = detail request (afterParses core parses) before ↔
      ¬ (last.IsAnswered (afterParses core parses) ∧ FoundLast core parses file line) := by
  rw [detail_eq asks, detail_eq asks, afterParses_concat, Parse.diagnostics_perform, ← exists_kept_iff]
  unfold Parse.IsAnswered
  cases answered : last.found? (afterParses core parses) with
  | none => simp
  | some found =>
      have refused : explain found file line column = .error (.refused noDiagnostic) := by
        rw [explain_eq_refused_iff]
        exact fun diagnostic member lies => elsewhere found answered diagnostic member lies.1
      rw [Option.getD_some, refused, eq_comm, explain_eq_refused_iff]
      simp

/-- Says that a file of six lines is ready, and with which flags. -/
def readyRequest (file : String) : Value :=
  .record [("filepath", .text file), ("compilation_flags", Value.texts ["-Wall"]),
    ("file_data", .record [(file, .record [("contents", .text "\n\n\n\n\n"), ("filetypes", Value.texts ["cpp"])])])]

def cursorRequest (file : String) (line column : Int) : Value :=
  .record [("filepath", .text file), ("line_num", .int line), ("column_num", .int column)]

/-- A workspace where the engine finds diagnostics. -/
def finding (diagnostics : List Diagnostic) : Workspace := { semantic := some { diagnostics } }

/-- A completer of its own has the number of diagnostics that are shown among its options. -/
def semanticCore : Core := ⟨⟨[("max_diagnostics_to_display", .int 30)], .int 2, []⟩, {}⟩

/-- What was found in one file is not told any more once something was found in another one. -/
theorem detail_survives_parse_iff_elsewhere :
    let here : Diagnostic := { location := ⟨"/f.cpp", 3, 1⟩, long := "unused" }
    let there : Diagnostic := { location := ⟨"/g.cpp", 3, 1⟩, long := "undeclared" }
    let first : Parse := ⟨readyRequest "/f.cpp", finding [here]⟩
    let last : Parse := ⟨readyRequest "/g.cpp", finding [there]⟩
    last.found? (afterParses semanticCore [first]) = some [there] ∧
      detail (cursorRequest "/f.cpp" 2 0) (afterParses semanticCore [first]) {} = .ok (Response.message (.text "unused")) ∧
      detail (cursorRequest "/f.cpp" 2 0) (afterParses semanticCore [first, last]) {} = .error (.refused noDiagnostic) ∧
      last.IsAnswered (afterParses semanticCore [first]) ∧ FoundLast semanticCore [first] "/f.cpp" 2 := by
  intro here there first last
  have asks : Asks (cursorRequest "/f.cpp" 2 0) "/f.cpp" 2 0 := ⟨rfl, rfl, rfl⟩
  have found : last.found? (afterParses semanticCore [first]) = some [there] := by decide +kernel
  have elsewhere : ∀ found, last.found? (afterParses semanticCore [first]) = some found →
      ∀ diagnostic ∈ found, diagnostic.location.path ≠ "/f.cpp" := by
    intro kept same diagnostic member
    rw [found] at same
    cases same
    rw [List.mem_singleton.mp member]
    decide
  have before : (afterParses semanticCore [first]).diagnostics = [here] := by decide +kernel
  have later : (afterParses semanticCore [first, last]).diagnostics = [there] := by decide +kernel
  have told : detail (cursorRequest "/f.cpp" 2 0) (afterParses semanticCore [first]) {} =
      .ok (Response.message (.text "unused")) := by
    rw [detail_eq asks, before]
    rfl
  have lost : detail (cursorRequest "/f.cpp" 2 0) (afterParses semanticCore [first, last]) {} =
      .error (.refused noDiagnostic) := by
    rw [detail_eq asks, later]
    rfl
  have survives := detail_survives_parse_iff semanticCore [first] last asks elsewhere {} {}
  rw [List.singleton_append, lost, told] at survives
  exact ⟨found, told, lost, not_not.mp (mt survives.mpr nofun)⟩

/-- After a parse of another file, in which nothing is found at all, nothing is left to say about this one. -/
theorem detail_lost_after_other_parse :
    let here : Diagnostic := { location := ⟨"/f.cpp", 3, 1⟩, long := "unused" }
    let first : Parse := ⟨readyRequest "/f.cpp", finding [here]⟩
    let last : Parse := ⟨readyRequest "/g.cpp", finding []⟩
    detail (cursorRequest "/f.cpp" 2 0) (afterParses semanticCore [first]) {} = .ok (Response.message (.text "unused")) ∧
      last.found? (afterParses semanticCore [first]) = some [] ∧
      detail (cursorRequest "/f.cpp" 2 0) (afterParses semanticCore [first, last]) {} = .error (.refused noDiagnostic) := by
  intro here first last
  have asks : Asks (cursorRequest "/f.cpp" 2 0) "/f.cpp" 2 0 := ⟨rfl, rfl, rfl⟩
  have before : (afterParses semanticCore [first]).diagnostics = [here] := by decide +kernel
  have later : (afterParses semanticCore [first, last]).diagnostics = [] := by decide +kernel
  refine ⟨?_, by decide +kernel, ?_⟩
  · rw [detail_eq asks, before]
    rfl
  · rw [detail_eq asks, later]
    rfl

end Typeahead.Completer.SemanticState
