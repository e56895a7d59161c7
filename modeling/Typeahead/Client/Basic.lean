import Typeahead.Client.Diagnostics
import Typeahead.Client.Request
import Typeahead.Completer.Available
import Typeahead.Machine

namespace Typeahead

/-! The client: it starts the completion server, sends it the editor's requests and reports, and shows what
comes back. -/

structure Client where
  options : Value.Fields
  diagnostics : Client.Diagnostics
  omni : Completer.OmniState
  /-- Whether the user has been told that the server is gone. -/
  isNotified : Bool := false
  /-- The files the server writes its output and its errors to. -/
  logs : Option (String × String) := none
  isLaunched : Bool := false
  optionsFile : String := ""
  /-- The filetypes whose keywords have been sent. -/
  filetypesSent : List String := []
  completion : Option (Client.CompletionRequest ⊕ Client.OmniRequest) := none
  parse : Option Client.EventRequest := none

namespace Client

abbrev Doing := Act (Client × Workspace)

def change (change : Client → Client) : Doing Unit := modify fun (client, workspace) => (change client, workspace)

def option (key : String) : Doing Value := do
  match (← get).1.options.lookup key with
  | some value => return value
  | none => throw (.missing (.text key))

/-- Does something with the part that shows diagnostics. -/
def onDiagnostics {α : Type} (act : Diagnostics.Doing α) : Doing α :=
  Act.on (fun (client, workspace) => (client.diagnostics, workspace))
    (fun (diagnostics, workspace) (client, _) => ({ client with diagnostics }, workspace)) act

/-- Does something with the completer for the editor's own function. -/
def onOmni {α : Type} (act : Completer.OmniState.Doing α) : Doing α :=
  Act.on (fun (client, workspace) => (client.omni, workspace))
    (fun (omni, workspace) (client, _) => ({ client with omni }, workspace)) act

def serverScript (workspace : Workspace) : String := Path.join workspace.places.install "python/ycm/server/ycmd.py"

/-- How long the server stays without requests, in seconds. -/
def idleSeconds : Nat := 10800

/-- How many lines of the server's log a crash notice is about. -/
def noticeLines : Nat := 30

def noticeHeading : String :=
  "The ycmd server SHUT DOWN (restart with :YcmRestartServer). Stderr (last " ++ toString noticeLines ++ " lines):\n\n"

def noticeWithoutLog : String :=
  "The ycmd server SHUT DOWN (restart with :YcmRestartServer).  check console output for logs!"

/-- The part of a log that stands in the notice: all but the last lines. -/
def noticePart (lines : List String) : List String := lines.take (lines.length - noticeLines)

def isServerAlive : Doing Bool := do return (← get).2.processEnd matches .null

/-- Tells the user once that the server has ended. -/
def notifyIfCrashed : Doing Unit := do
  if (← get).1.isNotified then return
  if ← isServerAlive then return
  change fun client => { client with isNotified := true }
  match (← get).1.logs with
  | some (_, errors) =>
    match (← get).2.contents? errors with
    | some content => Editor.postNotice (noticeHeading ++ String.join (noticePart (Text.lines content)))
    | none => throw (if (← get).2.hasFolder errors then .isFolder errors else .noFile errors)
  | none => Editor.postMessage noticeWithoutLog

/-- The names of the server's log files. -/
def logsFor (folder : String) (port : Int) : String × String :=
  let name (kind : String) : String := Path.join folder ("server_" ++ toString port ++ "_" ++ kind ++ ".log")
  (name "stdout", name "stderr")

/-- The arguments about log files, which are chosen unless the server writes to the editor's output. -/
def logArguments (port : Int) : Doing (List String) := do
  if (← option "server_use_vim_stdout").isPresent then return []
  let logs := logsFor (← (Workspace.temporaryFolder : Act Workspace String)) port
  change fun client => { client with logs := some logs }
  let kept ← option "server_keep_logfiles"
  return ["--stdout=" ++ logs.1, "--stderr=" ++ logs.2] ++ if kept.isPresent then ["--keep_logfiles"] else []

/-- Starts the server with a file that holds the options. That the process itself starts is taken for granted: what
was found as an interpreter is one, and its end is seen only when the process is asked for. -/
def startServer : Doing Unit := do
  let port := (← get).2.freePort
  let file := Path.join (← get).2.places.temporary "options"
  change fun client => { client with optionsFile := file }
  Workspace.write file (.text (Value.record (← get).1.options).exchange) none
  let interpreter ← (Machine.interpreter : Act Workspace Value)
  let level ← option "server_log_level"
  let arguments := [.text (serverScript (← get).2), .text ("--port=" ++ toString port),
    .text ("--options_file=" ++ file), .text ("--log=" ++ level.display),
    .text ("--idle_suicide_seconds=" ++ toString idleSeconds)]
  let arguments := arguments ++ (← logArguments port).map Value.text
  Workspace.record (.launch (.list (interpreter :: arguments)))
  change fun client => { client with isLaunched := true }
  modify fun (client, workspace) =>
    (client, { workspace with serverAddress := "http://localhost:" ++ toString port })
  notifyIfCrashed

def stopServer : Doing Unit := do
  if ← isServerAlive then Workspace.record .terminate
  Machine.removeFile (← get).1.optionsFile

def restartServer : Doing Unit := do
  Editor.postMessage "Restarting ycmd server..."
  change fun client => { client with isNotified := false }
  stopServer
  startServer

/-- A client that has started its server and keeps it awake. -/
def make (options : Value.Fields) : Act Workspace Client := do
  let core : Completer.Core := { settings := ← Completer.Settings.ofOptions options }
  let client : Client := { options, diagnostics := { options }, omni := { core } }
  let start : Doing Client := do
    startServer
    return (← get).1
  let client ← Act.on (fun workspace => (client, workspace)) (fun state _ => state.2) start
  Workspace.record .thread
  return client

/-- Whether a filetype of the current buffer has a completer of its own. -/
def hasOwnCompleter : Doing Bool := do
  let filetypes ← (Editor.filetypes : Act Workspace (List String))
  return filetypes.any (Completer.existsFor (← get).2)

/-- Whether completion is on for a filetype of the current buffer. -/
def isEnabled : Doing Bool := do
  let filetypes ← (Editor.filetypes : Act Workspace (List String))
  let disabled ← option "filetype_specific_completion_to_disable"
  let found ← (filetypes.mapM (disabled.holds <| .text ·) : Except Fault _)
  return !found.all id

/-- Whether the current buffer has a completer of its own that is on. -/
def isUsable : Doing Bool := do
  if !(← isEnabled) then return false
  hasOwnCompleter

/-- The values of the expressions that configuration files are told about. -/
def addConfData (extra : Value.Fields) : Doing Value.Fields := do
  let expressions ← option "extra_conf_vim_data"
  if !expressions.isPresent then return extra
  let mut data : Value.Fields := []
  for expression in ← expressions.elements do
    let name ← expression.asText
    data := data.set name (← (Editor.evaluateNumber name : Act Workspace Value))
  return extra.set "extra_conf_data" (.record data)

def addTagFiles (extra : Value.Fields) : Doing Value.Fields := do
  if !(← option "collect_identifiers_from_tags_files").isPresent then return extra
  let files ← (Editor.evaluate "tagfiles()" : Act Workspace Value)
  let folder := (← get).2.places.working
  let files ← ((← files.elements).mapM Value.asText : Except Fault _)
  return extra.set "tag_files" (Value.texts (files.map (Path.join folder)))

/-- The keywords of the current filetype, which are sent once. -/
def addKeywords (extra : Value.Fields) : Doing Value.Fields := do
  if !(← option "seed_identifiers_with_syntax").isPresent then return extra
  let filetypes ← (Editor.filetypes : Act Workspace (List String))
  let filetype := filetypes.headD ""
  if (← get).1.filetypesSent.contains filetype then return extra
  change fun client => { client with filetypesSent := client.filetypesSent ++ [filetype] }
  let keywords ← (Editor.highlightKeywords : Act Workspace (List String))
  return extra.set "syntax_keywords" (Value.texts keywords)

/-- The snippets the user has. -/
def addSnippets (workspace : Workspace) (extra : Value.Fields) : Except Fault Value.Fields :=
  match workspace.snippets with
  | some (.list snippets) => do
    let part (snippet : Value) (name : String) : Except Fault Value :=
      match snippet.field? name with
      | some value => .ok value
      | none => .error (.noFeature ("a snippet has no " ++ name))
    let shown ← snippets.mapM fun snippet => do
      return Value.record [("trigger", ← part snippet "trigger"), ("description", ← part snippet "description")]
    return extra.set "ultisnips_snippets" (.list shown)
  | _ => .ok extra

/-- Makes a request for completions: from the editor's own function where no other completer is there, else
from the server if it runs. -/
def makeCompletion (isForced : Bool) : Doing (Option (CompletionRequest ⊕ OmniRequest)) := do
  let completion ← if ← usesOmni then
      let request ← (OmniRequest.make : Act Workspace OmniRequest)
      pure (some (Sum.inr request))
    else
      let extra ← addConfData []
      let extra := if isForced then extra.set "force_semantic" (.bool true) else extra
      if ← isServerAlive then
        let request ← (CompletionRequest.make (.record extra) : Act Workspace CompletionRequest)
        pure (some (Sum.inl request))
      else pure none
  change fun client => { client with completion }
  return completion
where
  usesOmni : Doing Bool := do
    if ← hasOwnCompleter then return false
    if !(← isEnabled) then return false
    onOmni (Completer.OmniState.shouldUse .null)

def runCommand (arguments target : Value) : Doing Value := do
  if !(← isServerAlive) then return .null
  (CommandRequest.perform arguments target : Act Workspace Value)

/-- Asks the server about the place of the cursor. -/
def askHere (handler : String) : Act Workspace Value := do
  postData (.record (← Editor.requestData .null .null true)) handler

def definedSubcommands : Doing Value := do
  if !(← isServerAlive) then return .list []
  (askHere "defined_subcommands" : Act Workspace Value)

/-- Reports that the current file can be parsed, with all the server is told then. -/
def fileReady : Doing Unit := do
  onOmni Completer.OmniState.learn
  if !(← isServerAlive) then notifyIfCrashed
  let extra ← addConfData (← addKeywords (← addTagFiles []))
  let request : EventRequest := { name := "FileReadyToParse", extra := .record extra }
  change fun client => { client with parse := some request }
  let sent ← (request.send : Act Workspace EventRequest)
  change fun client => { client with parse := some sent }

/-- Reports something to the server if it runs. -/
def reportEvent (name : String) (extra : Doing Value) : Doing Unit := do
  if !(← isServerAlive) then return
  report name (← extra)

def bufferUnload (path : Value) : Doing Unit :=
  reportEvent "BufferUnload" (return .record [("unloaded_buffer", path)])

def bufferVisit : Doing Unit :=
  reportEvent "BufferVisit" do return .record (← addSnippets (← get).2 [])

def insertLeave : Doing Unit := reportEvent "InsertLeave" (return .null)

def identifierFinished : Doing Unit := reportEvent "CurrentIdentifierFinished" (return .null)

def cursorMoved : Doing Unit := onDiagnostics Diagnostics.cursorMoved

/-- Whether the server has answered the latest report of a file. -/
def diagnosticsReady : Doing Bool := do
  match (← get).1.parse with
  | none => return false
  | some request => return (← request.getExchange).isDone

/-- The diagnostics of the latest report of a file, which are handed out once. -/
def takeDiagnostics (asItems : Bool) : Doing Value := do
  match ← diagnosticsReady, (← get).1.parse with
  | true, some request =>
    let (diagnostics, _) ← (request.response : Act Workspace (Value × EventRequest))
    change fun client => { client with parse := none }
    if asItems then (Editor.locationItems diagnostics : Act Workspace Value) else return diagnostics
  | _, _ => return .list []

def updateDiagnostics : Doing Unit := do
  if !(← diagnosticsReady) then return
  let diagnostics ← takeDiagnostics false
  onDiagnostics (Diagnostics.update diagnostics)

/-- Shows all that is known about the diagnostic at the cursor. -/
def showDetails : Doing Unit := do
  if !(← isServerAlive) then return
  tryCatch showAnswer fun fault => do
    if !fault.isFromServer then throw fault
    Editor.postMessage fault.text
where
  showAnswer : Doing Unit := do
    let answer ← (askHere "detailed_diagnostic" : Act Workspace Value)
    if ← answer.holds (.text "message") then Editor.showText true (← answer.field "message").display

/-- A text behind what the server told about itself; a list takes it letter by letter. -/
def addStatus (status : Value) (text : String) : Except Fault Value :=
  match status with
  | .list items => do return .list (items ++ (← (Value.text text).elements))
  | status => status.plus (.text text)

def debugInfo : Doing Value := do
  let status ← if ← isServerAlive then (askHere "debug_info" : Act Workspace Value)
    else pure (.text "Server crashed, no debug info from server")
  let status ← addStatus status ("\nServer running at: " ++ (← get).2.serverAddress)
  let status ← addStatus status ("\nServer process ID: " ++ toString (← get).2.processNumber)
  match (← get).1.logs with
  | some (output, errors) => addStatus status ("\nServer logfiles:\n  " ++ output ++ "\n  " ++ errors)
  | none => return status

end Client

end Typeahead
