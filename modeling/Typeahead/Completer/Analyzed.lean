import Typeahead.Completer.Basic
import Typeahead.Response

namespace Typeahead.Completer

/-! Completions and definitions for Python, from an analysis of the sources. -/

structure AnalyzedState where
  core : Core

namespace AnalyzedState

abbrev Doing := Act (AnalyzedState × Workspace)

def subcommands : List String := ["GoToDefinition", "GoToDeclaration", "GoTo"]

/-- Opens the file of a request in the analysis. -/
def openSource (request : Value) : Doing Analysis := do
  let path ← request.field "filepath"
  let contents ← match path with
    | .text path => (← (← request.field "file_data").field path).field "contents"
    | path => throw (.missing path)
  let line ← (← request.field "line_num").plus (.int 1)
  let column ← request.field "column_num"
  Workspace.record (.analysis contents line column path)
  return (← get).2.analysis

def feature (item : Value) (key : String) : Except Fault Value :=
  match item.field? key with
  | some value => .ok value
  | none => .error (.noFeature ("a definition has no " ++ key))

def gather (request : Value) : Doing Value := do
  let analysis ← openSource request
  let found ← (analysis.completions.mapM fun item => do
    let name ← feature item "name"
    let description ← feature item "description"
    let detailed ← feature item "doc"
    return Response.completion (.text name.display)
      { extra := .text description.display, detailed := .text detailed.display } : Except Fault _)
  return .list found

/-- Where a name was assigned. -/
def assignments (request : Value) : Doing (List Definition) := do
  let analysis ← openSource request
  Workspace.record .assignments
  orNothing analysis.assignments
where
  orNothing : Option (List Definition) → Doing (List Definition)
    | some found => return found
    | none => throw (.failed "Cannot follow nothing. Put your cursor on a valid name.")

/-- What a name stands for. -/
def definitions (request : Value) : Doing (List Definition) := do
  let analysis ← openSource request
  Workspace.record .definitions
  assignments.orNothing analysis.definitions

def placeOf (definition : Definition) (description : Value) : Doing Value := do
  let line ← definition.line.minus (.int 1)
  Response.goTo (← get).2.real definition.path line definition.column description

/-- One definition is a place to go to; several are a list. -/
def respond (found : List Definition) (failure : String) : Doing Value := do
  match found with
  | [] => throw (.failed failure)
  | [definition] =>
    if definition.isBuiltin then
      throw (.failed (if definition.isKeyword then "Cannot get the definition of Python keywords."
        else "Builtin modules cannot be displayed."))
    placeOf definition .null
  | several =>
    let mut places := []
    for definition in several do
      let place ← if definition.isBuiltin then
          do pure (Response.description (← (Value.text "Builtin ").plus definition.description))
        else placeOf definition definition.description
      places := places ++ [place]
    return .list places

def command (arguments request : Value) : Doing Value := do
  if !arguments.isPresent then throw (.refused (helpText subcommands))
  match ← arguments.item 0 with
  | .text "GoToDefinition" => respond (← assignments request) "Can't jump to definition."
  | .text "GoToDeclaration" => respond (← definitions request) "Can't jump to declaration."
  | .text "GoTo" =>
    let found ← assignments request
    let found ← if found.isEmpty then definitions request else pure found
    respond found "Can't jump to definition or declaration."
  | _ => throw (.refused (helpText subcommands))

end AnalyzedState

def analyzed : Completer AnalyzedState where
  core := (·.core)
  putCore core _ := { core }
  supported := ["python"]
  subcommands := AnalyzedState.subcommands
  applies := appliesByTrigger (·.core) ["python"]
  gather := AnalyzedState.gather
  command := AnalyzedState.command

end Typeahead.Completer
