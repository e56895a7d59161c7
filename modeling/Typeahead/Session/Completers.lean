import Typeahead.Session.Surroundings
import Typeahead.Completer.General
import Typeahead.Completer.Semantic
import Typeahead.Completer.Analyzed
import Typeahead.Completer.Solution

namespace Typeahead.Session

/-! Sessions with one completer. -/

/-- The steps that every completer has; `others` are those of this one. -/
def completerSteps {σ : Type} (completer : Completer σ) (others : Steps σ) : Steps σ := fun name step => do
  match name with
  | "write" => writeStep step
  | "script" => scriptStep (← textField step "name") (← step.field "value")
  | "libclang" => scriptStep name (← step.field "script")
  | "should_use_now" => return .bool (← completer.shouldUse (← step.field "data"))
  | "should_use_now_inner" => return .bool (← completer.applies (← step.field "data"))
  | "above_threshold" =>
    return .bool (← Completer.isLongEnough (← completer.getCore).settings.minimum (← step.field "data"))
  | "compute" => completer.compute (← step.field "data")
  | "diagnostics" =>
    let _ ← step.field "data"
    throw .noDiagnosticSupport
  | "detailed_diagnostic" => completer.detailedDiagnostic (← step.field "data")
  | "debug_info" => completer.debugInfo (← step.field "data")
  | "event" =>
    let notice ← Completer.Notice.ofName (← textField step "name")
    completer.notice notice (← step.field "data")
  | "command" => completer.command (← step.field "arguments") (← step.field "data")
  | "filter_and_sort" => return ← Ranking.rankAnswer (← step.field "candidates") (← step.field "query")
  | "subcommands" => return Value.texts completer.subcommands
  | "help" => return .text completer.help
  | "current_filetype" => return ← Completer.currentFiletype completer.supported (← step.field "filetypes")
  | "supported_filetypes" => return Value.texts completer.supported
  | "shutdown" =>
    completer.shutdown
    return .null
  | "cached" => return (← completer.getCore).cache.completions
  | "cache_valid" =>
    return .bool ((← completer.getCore).cache.isFor (← step.field "line") (← step.field "column"))
  | "invalidate" =>
    completer.invalidate
    return .null
  | _ => others name step

def noSteps {σ : Type} : Steps σ := fun name _ => unknownStep name

def coreOf (workspace : Workspace) : Except Fault Completer.Core := do
  return { settings := ← Completer.Settings.ofOptions workspace.options }

/-- A completer that has only the common behaviour, and candidates that are given beforehand. -/
structure PlainState where
  core : Completer.Core
  answers : List Value

def plain (supported subcommands : List String) : Completer PlainState where
  core := (·.core)
  putCore core state := { state with core }
  supported := supported
  subcommands := subcommands
  applies := Completer.appliesByTrigger (·.core) supported
  gather _ := do
    Workspace.record .inner
    let (state, workspace) ← get
    match state.answers with
    | [] => return .null
    | first :: rest =>
      set (({ state with answers := rest }, workspace) : PlainState × Workspace)
      return first

/-- The flags given for files, as a cache that has them. -/
def flagCacheOf (input : Value) : Except Fault Flags.Cache := do
  let kept ← (fieldsOf (fieldOr input "flags" .null)).mapM fun (path, flags) => do return (path, ← flags.asTexts)
  return { kept }

def identifierSteps : Steps Completer.IdentifierState := fun name step => do
  match name with
  | "add" => Completer.IdentifierState.add (← step.field "identifier") (← step.field "data")
  | "add_tags" => Completer.IdentifierState.addTags (← step.field "files")
  | "add_syntax" => Completer.IdentifierState.addKeywords (← step.field "keywords") (← step.field "filetypes")
  | _ => unknownStep name
  return .null

def fileNameSteps : Steps Completer.FileNameState := fun name step => do
  match name with
  | "at_include" => return .bool (← Completer.FileNameState.atInclude (← step.field "data"))
  | "compute_inner" => Completer.fileName.gather (← step.field "data")
  | _ => unknownStep name

def generalSteps : Steps Completer.GeneralState := fun name _ => do
  match name with
  | "getting_completions" => throw (.noFeature "nothing is gathered in the background")
  | _ => unknownStep name

def solutionSteps : Steps Completer.SolutionState := fun name _ => do
  match name with
  | "cs_debug_info" => Completer.SolutionState.status
  | _ => unknownStep name

/-- The completers a session can have. -/
inductive CompleterKind where
  /-- Only the common behaviour, with candidates that are given beforehand. -/
  | plain
  | identifier
  | fileName
  | snippet
  /-- The three above behind one. -/
  | general
  | semantic
  | analyzed
  | solution
  deriving DecidableEq, Repr

/-- A session with one completer. -/
def completerAnswers (kind : CompleterKind) (input : Value) (workspace : Workspace) : Answer ⊕ List Answer :=
  let core := coreOf workspace
  match kind with
  | .plain =>
    let given (key : String) : List String := (itemsOf (fieldOr input key .null)).map textOrEmpty
    start (core.map fun core => ⟨core, itemsOf (fieldOr input "answers" .null)⟩)
      (completerSteps (plain (given "supported") (given "subcommands")) noSteps) input workspace
  | .identifier =>
    start (core.map fun core => { core }) (completerSteps Completer.identifier identifierSteps) input workspace
  | .fileName =>
    start (do return { core := ← core, flags := ← flagCacheOf input })
      (completerSteps Completer.fileName fileNameSteps) input workspace
  | .snippet =>
    start (core.map fun core => { core }) (completerSteps Completer.snippet noSteps) input workspace
  | .general =>
    let made : Except Fault Completer.GeneralState := do
      let state ← Completer.GeneralState.ofOptions workspace.options
      let flags ← flagCacheOf input
      return { state with fileNames := { state.fileNames with flags } }
    start made (completerSteps Completer.general generalSteps) input workspace
  | .semantic =>
    start (core.map fun core => { core }) (completerSteps Completer.semantic noSteps) input workspace
  | .analyzed =>
    start (core.map fun core => { core }) (completerSteps Completer.analyzed noSteps) input workspace
  | .solution =>
    start (core.map fun core => { core }) (completerSteps Completer.solution solutionSteps) input workspace

end Typeahead.Session
