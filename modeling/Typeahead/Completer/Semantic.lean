import Typeahead.Completer.Basic
import Typeahead.Filetype
import Typeahead.Frontend.Engine
import Typeahead.Response

namespace Typeahead.Completer

/-! Completions, diagnostics and places of symbols for the C family, from an engine that reads sources like
a compiler. -/

structure SemanticState where
  core : Core
  flags : Flags.Cache := {}
  engine : Frontend.Engine := {}
  /-- The diagnostics of the file parsed last, of all files they lie in. -/
  diagnostics : List Frontend.Diagnostic := []

namespace SemanticState

open Frontend (Location Diagnostic Completion)

abbrev Doing := Act (SemanticState × Workspace)

def subcommands : List String :=
  ["GoToDefinition", "GoToDeclaration", "GoTo", "GoToImprecise", "ClearCompilationFlagCache"]

def stillParsing : String := "Still parsing file, no completions yet."

def noFlags : String := "Still no compile flags, no completions yet."

def noCompletions : String := "No completions found; errors in the file?"

def invalidFile : String := "File is invalid."

def noDiagnostic : String := "No diagnostic for current line!"

/-- Files with fewer line ends than this are not parsed. -/
def leastLines : Nat := 5

def tooShort : String := "File is less than " ++ toString leastLines ++ " lines long; not compiling."

/-- Findings that say nothing about the file. -/
def ignoredFindings : List String := ["#pragma once in main file", "too many errors emitted, stopping now"]

variable {α : Type}

def withFlags (act : Flags.Cached α) : Doing α :=
  Act.on (fun (state, workspace) => (state.flags, workspace))
    (fun (flags, workspace) (state, _) => ({ state with flags }, workspace)) act

def withEngine (act : Frontend.Doing α) : Doing α :=
  Act.on (fun (state, workspace) => (state.engine, workspace))
    (fun (engine, workspace) (state, _) => ({ state with engine }, workspace)) act

/-- A file as it is in the editor. The length counts characters. -/
structure OpenFile where
  path : String
  contents : String

def OpenFile.value (file : OpenFile) : Value :=
  .list [.text file.path, .text file.contents, .int file.contents.length]

/-- The open files of the C family. -/
def openFiles (request : Value) : Except Fault (List OpenFile) := do
  let files ← (← (← request.field "file_data").asFields).mapM fun (path, file) => do
    if !(← Filetype.inCFamily (← file.field "filetypes")) then return none
    let contents ← file.field "contents"
    return if !contents.isPresent || path.isEmpty then none else some ⟨path, contents.display⟩
  return files.filterMap id

/-- Open files in the order of their names, as the prepared engine notes them. -/
def filesValue (files : List OpenFile) : Value :=
  let before (left right : OpenFile) : Bool := decide (¬ right.path < left.path)
  .list ((files.mergeSort before).map OpenFile.value)

/-- The flags a file is to be parsed with. -/
def flagsFor (request : Value) : Doing (Option (List String)) := do
  let path := (← request.field "filepath").display
  if ← request.holds (.text "compilation_flags") then
    let flags ← (← request.field "compilation_flags").elements
    let flags ← (flags.mapM (Value.asTextFor "startswith") : Except Fault _)
    return some (← Flags.prepare (← get).2.real flags path)
  let fields ← match request with
    | .record fields => pure fields
    | value => throw (.noFeature (Value.inQuotes value.kindName ++ " has no fields"))
  let data := (Value.Fields.get? fields "extra_conf_data").getD .null
  withFlags (Flags.forFile path true data)

/-- Whole numbers as the native engine takes them. -/
def nativeInt : Value → Except Fault Int
  | .int number => .ok number
  | .bool truth => .ok (if truth then 1 else 0)
  | _ => .error .wrongArgument

def unsaved (files : List OpenFile) : Frontend.Unsaved := files.map fun file => (file.path, file.contents)

/-- What the engine is asked is noted when its answers are prepared. -/
def ask (question : String) (arguments : List Value) : Doing Unit := Workspace.record (.semantic question arguments)

def prepared : Doing (Option PreparedEngine) := do
  let (_, workspace) ← get
  return if workspace.frontend.isSome then none else some (workspace.semantic.getD {})

def isUpdating (path : String) : Doing Bool := do
  match ← prepared with
  | some engine =>
    ask "updating" [.text path]
    return engine.isUpdating.isPresent
  | none => withEngine (Frontend.Engine.isUpdating path)

def completions (path : String) (line column : Value) (files : List OpenFile) (flags : List String) :
    Doing (List Completion) := do
  match ← prepared with
  | some engine =>
    ask "candidates" [.text path, line, column, filesValue files, Value.texts flags]
    return engine.completions
  | none =>
    withEngine (Frontend.Engine.completions path (← nativeInt line) (← nativeInt column) flags (unsaved files))

def update (path : String) (files : List OpenFile) (flags : List String) : Doing (List Diagnostic) := do
  match ← prepared with
  | some engine =>
    ask "update" [.text path, filesValue files, Value.texts flags]
    return engine.diagnostics
  | none => withEngine (Frontend.Engine.update path flags (unsaved files))

def delete (path : String) : Doing Unit := do
  match ← prepared with
  | some _ => ask "delete" [.text path]
  | none => withEngine (Frontend.Engine.delete path)

/-- What a symbol can be followed to. -/
inductive Target where
  | definition
  | declaration
  deriving DecidableEq, Repr

def Target.name : Target → String
  | .definition => "definition"
  | .declaration => "declaration"

def follow (target : Target) (path : String) (line column : Value) (files : List OpenFile) (flags : List String)
    (parseAgain : Bool) : Doing (Option Location) := do
  match ← prepared with
  | some engine =>
    ask target.name [.text path, line, column, filesValue files, Value.texts flags, .bool parseAgain]
    return match target with
      | .definition => engine.definition
      | .declaration => engine.declaration
  | none =>
    let line ← nativeInt line
    let column ← nativeInt column
    withEngine (match target with
      | .definition => do return some (← Frontend.Engine.definition path line column flags (unsaved files) parseAgain)
      | .declaration => do return some (← Frontend.Engine.declaration path line column flags (unsaved files) parseAgain))

def gather (request : Value) : Doing Value := do
  let path ← request.field "filepath"
  if !path.isPresent then return .null
  if ← isUpdating path.display then throw (.failed stillParsing)
  let some flags ← flagsFor request | throw (.failed noFlags)
  if flags.isEmpty then throw (.failed noFlags)
  let files ← openFiles request
  let line ← (← request.field "line_num").plus (.int 1)
  let column ← (← request.field "start_column").plus (.int 1)
  let found ← completions path.display line column files flags
  if found.isEmpty then throw (.failed noCompletions)
  return .list (found.map fun completion => Response.completion (.text completion.insertion)
    { extra := .text completion.returnType, detailed := .text completion.detailed, menu := .text completion.menu
      kind := .text completion.kind })

/-- The place that the symbol under the cursor leads to, if it leads to one. -/
def place (target : Target) (request : Value) (parseAgain : Bool) : Doing (Option Location) := do
  let path ← request.field "filepath"
  if !path.isPresent then throw (.refused invalidFile)
  let some flags ← flagsFor request | throw (.refused noFlags)
  if flags.isEmpty then throw (.refused noFlags)
  let files ← openFiles request
  let line ← (← request.field "line_num").plus (.int 1)
  let column ← (← request.field "column_num").plus (.int 1)
  return (← follow target path.display line column files flags parseAgain).filter Location.isValid

def respond (location : Option Location) (failure : String) : Doing Value := do
  match location with
  | some location =>
    Response.goTo (← get).2.real (.text location.path) (.int (location.line - 1)) (.int (location.column - 1)) .null
  | none => throw (.failed failure)

/-- Goes to the definition, or else to the declaration. -/
def goToEither (request : Value) (parseAgain : Bool) : Doing Value := do
  let found ← match ← place .definition request parseAgain with
    | some location => pure (some location)
    | none => place .declaration request parseAgain
  respond found "Can't jump to definition or declaration."

def command (arguments request : Value) : Doing Value := do
  if !arguments.isPresent then throw (.refused (helpText subcommands))
  match ← arguments.item 0 with
  | .text "GoToDefinition" => respond (← place .definition request true) "Can't jump to definition."
  | .text "GoToDeclaration" => respond (← place .declaration request true) "Can't jump to declaration."
  | .text "GoTo" => goToEither request true
  | .text "GoToImprecise" => goToEither request false
  | .text "ClearCompilationFlagCache" =>
    withFlags Flags.clear
    return .null
  | _ => throw (.refused (helpText subcommands))

/-- At most so many items; a negative number leaves out as many at the end. -/
def upTo {β : Type} (limit : Value) (items : List β) : Except Fault (List β) :=
  match limit with
  | .null => .ok items
  | limit => do return Value.slice items none (some (← limit.asInt))

/-- What the engine finds in a file, without the findings that are ignored. -/
def findings (request : Value) : Doing (List Diagnostic) := do
  let path ← request.field "filepath"
  let contents ← match path with
    | .text path => (← (← request.field "file_data").field path).field "contents"
    | path => throw (.missing path)
  let lines := ((← contents.asTextFor "count").toList.filter (· == '\n')).length
  if lines < leastLines then throw (.refused tooShort)
  if !path.isPresent then throw (.refused invalidFile)
  let some flags ← flagsFor request | throw (.refused noFlags)
  if flags.isEmpty then throw (.refused noFlags)
  let files ← openFiles request
  let found ← update path.display files flags
  return found.filter fun diagnostic => !ignoredFindings.contains diagnostic.text

def parseFile (request : Value) : Doing Value := do
  let kept ← findings request
  modify fun (state, workspace) => ({ state with diagnostics := kept }, workspace)
  let limit ← (← get).1.core.settings.option "max_diagnostics_to_display"
  return .list ((← upTo limit kept).map Response.diagnostic)

/-- The diagnostic whose column is nearest, of those less than `limit` away; the first of several. -/
def nearest (column : Int) (limit : Nat) : List Diagnostic → Option Diagnostic
  | [] => none
  | diagnostic :: rest =>
    let distance := (column - diagnostic.location.column).natAbs
    if distance < limit then some ((nearest column distance rest).getD diagnostic) else nearest column limit rest

/-- How far a diagnostic may be from the cursor. -/
def furthest : Nat := 999

def detailedDiagnostic (request : Value) : Doing Value := do
  let line ← (← request.field "line_num").plus (.int 1)
  let column ← (← request.field "column_num").plus (.int 1)
  let path ← request.field "filepath"
  let (state, _) ← get
  if state.diagnostics.isEmpty then throw (.refused noDiagnostic)
  let here := state.diagnostics.filter fun diagnostic =>
    path.same (.text diagnostic.location.path) && line.same (.int diagnostic.location.line)
  if here.isEmpty then throw (.refused noDiagnostic)
  match nearest (← column.asInt) furthest here with
  | some diagnostic => return Response.message (.text diagnostic.long)
  | none => throw (.noFeature "no diagnostic is near enough")

def debugInfo (request : Value) : Doing Value := do
  let path ← request.field "filepath"
  if !path.isPresent then return .text ""
  let flags := (← flagsFor request).getD []
  let source ← (Conf.pathFor path.display : Act Workspace _)
  return .text ("Flags for " ++ path.display ++ " loaded from " ++ source.getD "None" ++ ":\n" ++
    (Value.texts flags).literal)

def notice (notice : Notice) (request : Value) : Doing Value := do
  match notice with
  | .fileReadyToParse => parseFile request
  | .bufferUnload =>
    delete (← request.field "unloaded_buffer").display
    return .null
  | _ => return .null

end SemanticState

def semantic : Completer SemanticState where
  core := (·.core)
  putCore core state := { state with core }
  supported := Filetype.cFamily
  subcommands := SemanticState.subcommands
  applies := appliesByTrigger (·.core) Filetype.cFamily
  gather := SemanticState.gather
  notice := SemanticState.notice
  command := SemanticState.command
  detailedDiagnostic := SemanticState.detailedDiagnostic
  debugInfo := SemanticState.debugInfo

end Typeahead.Completer
