import Typeahead.Completer.Basic
import Typeahead.Path.Solution
import Typeahead.Response

namespace Typeahead.Completer

/-! Completions and definitions for C#, from a server of its own that is started for a solution. -/

structure SolutionState where
  core : Core
  /-- The port the server was started for. -/
  port : Option Int := none
  /-- Where the server writes what it prints: output and errors. -/
  logs : Option (String × String) := none

namespace SolutionState

abbrev Doing := Act (SolutionState × Workspace)

def subcommands : List String :=
  ["StartServer", "StopServer", "RestartServer", "ReloadSolution", "ServerRunning", "ServerReady",
   "GoToDefinition", "GoToDeclaration", "GoTo"]

/-- Whether the server has been given a port. Zero is none. -/
def hasPort (state : SolutionState) : Bool := state.port.getD 0 != 0

def setPort (port : Option Int) : Doing Unit := modify fun (state, workspace) => ({ state with port }, workspace)

def address : Doing String := do
  return "http://localhost:" ++ (((← get).1.port).map toString).getD "None"

/-- Asks the server; its answer is what it has ready. -/
def ask (question : String) (parameters : List (String × String)) : Doing Value := do
  Workspace.record (.query ((← address) ++ question) parameters)
  match (← get).2.solution.lookup question with
  | some answer => return answer
  | none => throw (.network "no server")

def parameters (request : Value) : Except Fault (List (String × String)) := do
  let line ← (← request.field "line_num").plus (.int 1)
  let column ← (← request.field "column_num").plus (.int 1)
  let path ← request.field "filepath"
  let contents ← match path with
    | .text path => (← (← request.field "file_data").field path).field "contents"
    | path => .error (.missing path)
  return [("line", line.display), ("column", column.display), ("buffer", contents.display),
    ("filename", path.display)]

/-- Whether the server says yes; one that cannot be asked does not. -/
def saysYes (question : String) : Doing Bool := do
  if !(← get).1.hasPort then return false
  try
    return (← ask question []).isPresent
  catch _ => return false

def isRunning : Doing Bool := saysYes "/checkalivestatus"

def isReady : Doing Bool := saysYes "/checkreadystatus"

/-- Which of several solutions belongs to a file: the one named like the file's folder next to them. -/
def choose (names : List String) (folder path : String) : Except Fault String :=
  let parts := Path.components path
  let depth := (Path.components folder).length
  let next := (parts[depth]?).getD ""
  match names.filter fun name => (Path.splitExtension (Path.name name)).1 == next with
  | [name] => .ok name
  | _ => .error (.failed ("Found multiple solution files instead of one!\n" ++ (Value.texts names).literal))

def solutionFor (workspace : Workspace) (path : String) : Except Fault (String × String) := do
  let (names, folder) := Path.solutionsFor workspace path
  match names with
  | [] => .error (.failed "Error starting OmniSharp server: no solutionfile found")
  | [name] => return (name, folder)
  | names => return (← choose names folder path, folder)

def serverPath (workspace : Workspace) : String :=
  Path.join workspace.places.solutionServer "OmniSharpServer/OmniSharp/bin/Debug/OmniSharp.exe"

def serverMissing (path : String) : String :=
  "OmniSharp server binary not found at " ++ path ++ ". Did you compile it? You can do so by running " ++
  "\"./install.sh --omnisharp-completer\"."

/-- The command that starts the server. -/
def startCommand (workspace : Workspace) (server : String) (port : Int) (solution : String) : String :=
  let command := server ++ " -p " ++ toString port ++ " -s " ++ solution
  let command := if !workspace.onWindows && !workspace.onCygwin then "mono " ++ command else command
  if workspace.onCygwin then command ++ " --client-path-mode Cygwin" else command

/-- Launches the server by a command. What it prints goes to files named after its port and its solution. -/
def spawn (command : String) (port : Int) (solution : String) : Doing Value := do
  let temporary ← (Workspace.temporaryFolder : Act Workspace _)
  let log (stream : String) : String :=
    Path.join temporary ("omnisharp_" ++ toString port ++ "_" ++ solution ++ "_" ++ stream ++ ".log")
  modify fun (state, workspace) => ({ state with logs := some (log "stdout", log "stderr") }, workspace)
  Workspace.write (log "stderr") (.text "") none
  Workspace.write (log "stdout") (.text "") none
  Workspace.record (.launch (.text command))
  return .null

/-- Launches the server for the solution that a file belongs to. -/
def launch (port : Int) (request : Value) : Doing Value := do
  let path ← match ← request.field "filepath" with
    | .text path => pure path
    | value => throw (value.wrongKind "expected str, bytes or os.PathLike object, not " "")
  let (_, workspace) ← get
  let (name, folder) ← solutionFor workspace path
  let server := serverPath workspace
  if !workspace.hasFile server then throw (.failed (serverMissing server))
  spawn (startCommand workspace server port (Path.join folder name)) port name

/-- Starts the server. The port is taken first, whatever comes after. -/
def start (request : Value) : Doing Value := do
  let port := (← get).2.freePort
  setPort (some port)
  launch port request

def stop : Doing Unit := do
  let _ ← ask "/stopserver" []
  setPort none

def gather (request : Value) : Doing Value := do
  let found ← ask "/autocomplete" (← parameters request)
  let items ← match found with
    | .null => pure []
    | found => found.elements
  let completions ← (items.mapM fun item => do
    let insertion ← item.field "CompletionText"
    let extra ← item.field "DisplayText"
    let detailed ← item.field "Description"
    return Response.completion insertion { extra, detailed } : Except Fault _)
  return .list completions

def goToDefinition (request : Value) : Doing Value := do
  let found ← ask "/gotodefinition" (← parameters request)
  match ← found.field "FileName" with
  | .null => throw (.failed "Can't jump to definition")
  | path =>
    let line ← (← found.field "Line").minus (.int 1)
    let column ← (← found.field "Column").minus (.int 1)
    Response.goTo (← get).2.real path line column .null

def command (arguments request : Value) : Doing Value := do
  if !arguments.isPresent then throw (.refused (helpText subcommands))
  match ← arguments.item 0 with
  | .text "StartServer" => start request
  | .text "StopServer" =>
    stop
    return .null
  | .text "RestartServer" =>
    if ← isRunning then stop
    start request
  | .text "ReloadSolution" => ask "/reloadsolution" []
  | .text "ServerRunning" => return .bool (← isRunning)
  | .text "ServerReady" => return .bool (← isReady)
  | .text "GoToDefinition" | .text "GoToDeclaration" | .text "GoTo" => goToDefinition request
  | .list _ => throw (.wrongKind "unhashable type: 'list'")
  | .record _ => throw (.wrongKind "unhashable type: 'dict'")
  | _ => throw (.refused (helpText subcommands))

def notice (notice : Notice) (request : Value) : Doing Value := do
  if notice = .fileReadyToParse then
    let (state, _) ← get
    if !state.hasPort then
      if (← state.core.settings.option "auto_start_csharp_server").isPresent then
        let _ ← start request
  return .null

/-- Where the server runs and writes its logs. -/
def status : Doing Value := do
  if ← isRunning then
    match (← get).1.logs with
    | some (output, errors) =>
      return .text ("Server running at: " ++ (← address) ++ "\nLogfiles:\n" ++ output ++ "\n" ++ errors)
    | none => throw (.noFeature "the server has written no logs")
  else return .text "Server is not running"

def shutdown : Doing Unit := do
  if (← (← get).1.core.settings.option "auto_stop_csharp_server").isPresent then
    if ← isRunning then stop

end SolutionState

def solution : Completer SolutionState where
  core := (·.core)
  putCore core state := { state with core }
  supported := ["cs"]
  subcommands := SolutionState.subcommands
  applies := appliesByTrigger (·.core) ["cs"]
  gather := SolutionState.gather
  notice := SolutionState.notice
  command := SolutionState.command
  debugInfo _ := throw (.wrongKind "no request is taken")
  shutdown := SolutionState.shutdown

end Typeahead.Completer
