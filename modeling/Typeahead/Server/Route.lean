import Typeahead.Server.State

namespace Typeahead.Server

/-! What the server can be asked. An answer is a value in the exchange format, or none; a failure is
answered with the cause. -/

inductive Route where
  | eventNotification
  | runCommand
  | completions
  | options
  | healthy
  | setOptions
  | completionAvailable
  | subcommands
  | detailedDiagnostic
  | loadConf
  | ignoreConf
  | debugInfo
  deriving DecidableEq, Repr

def Route.ofText? : String → Option Route
  | "POST /event_notification" => some .eventNotification
  | "POST /run_completer_command" => some .runCommand
  | "POST /completions" => some .completions
  | "GET /user_options" => some .options
  | "GET /healthy" => some .healthy
  | "POST /user_options" => some .setOptions
  | "POST /semantic_completion_available" => some .completionAvailable
  | "POST /defined_subcommands" => some .subcommands
  | "POST /detailed_diagnostic" => some .detailedDiagnostic
  | "POST /load_extra_conf_file" => some .loadConf
  | "POST /ignore_extra_conf_file" => some .ignoreConf
  | "POST /debug_info" => some .debugInfo
  | _ => none

/-- Every answer with a value is announced as being in the exchange format. -/
def announce : Act Workspace Unit := Workspace.record (.header "Content-Type" "application/json")

/-- Replaces the options, and starts over with them. -/
def setOptions (options : Value) : Doing Unit := do
  if !options.isPresent then return ()
  let fields ← options.asTable
  modify fun (state, workspace) => (state, { workspace with options := fields })
  let state ← State.ofValue options
  modify fun (_, workspace) => (state, workspace)

/-- Who a request is for. -/
inductive Addressee where
  | identifiers
  | filetype (index : Nat)

def addressee (request : Value) : Doing Addressee := do
  let target ← match request with
    | .record fields => pure ((Value.Fields.get? fields "completer_target").getD .null)
    | value => throw (.noFeature (Value.inQuotes value.kindName ++ " has no fields"))
  if target.same (.text "identifier") then return .identifiers
  else if target.same (.text "filetype_default") || !target.isPresent then
    return .filetype (← State.forFiletypes (← request.field "filetypes"))
  else return .filetype (← State.forFiletypes (.list [target]))

def onAddressee {α : Type} (act : (σ : Type) → Completer σ → Act (σ × Workspace) α) : Addressee → Doing α
  | .identifiers => State.onGeneral (Completer.GeneralState.onIdentifiers (act _ Completer.identifier))
  | .filetype index => State.onCompleter index act

/-- Tells the completers what has happened; the one for the filetype may have something to say. -/
def eventNotification (request : Value) : Doing (Option Value) := do
  let name ← (Value.text "").plus (← request.field "event_name")
  let notice ← Completer.Notice.ofName (← name.asText)
  let _ ← State.onGeneral (Completer.general.notice notice request)
  let filetypes ← request.field "filetypes"
  if !(← State.isUsable filetypes) then return none
  let said ← State.onCompleter (← State.forFiletypes filetypes) fun _ completer => completer.notice notice request
  return if said.isPresent then some said else none

def completions (request : Value) : Doing Value := do
  let useFiletype ← State.shouldUseFiletype request
  let filetypes ← request.field "filetypes"
  if useFiletype then
    State.onCompleter (← State.forFiletypes filetypes) fun _ completer => completer.compute request
  else State.onGeneral (Completer.general.compute request)

/-- The subcommands of a completer. Those of the completer for solutions are a view of a table, which cannot
be written in the exchange format. -/
def subcommands (request : Value) : Doing Value := do
  let addressee ← addressee request
  if let .filetype index := addressee then
    if let some (.solution _) := (← get).1.completers[index]? then
      announce
      throw (.noFeature "a view of a table cannot be written")
  onAddressee (fun _ completer => return Value.texts completer.subcommands) addressee

def engineVersion : String := "scripted clang"

def debugInfo (request : Value) : Doing Value := do
  let (_, workspace) ← get
  let support := "Server has Clang support compiled in: " ++ (Value.bool workspace.hasNativeEngine).display
  let lines := [support] ++ if workspace.hasNativeEngine then ["Clang version: " ++ engineVersion] else []
  let more ← try
      let info ← onAddressee (fun _ completer => completer.debugInfo request) (← addressee request)
      pure [info.display]
    catch _ => pure []
  return .text (Text.join "\n" (lines ++ more))

/-- The file that a request is about; it may be absent. -/
def confPath (request : Value) : Except Fault String := do
  match ← request.field "filepath" with
  | .text path => return path
  | .null => return ""
  | value => .error (value.wrongKind "expected str, bytes or os.PathLike object, not " "")

def answer (route : Route) (request : Value) : Doing (Option Value) := do
  match route with
  | .eventNotification => eventNotification request
  | .runCommand =>
    let addressee ← addressee request
    let arguments ← request.field "command_arguments"
    return some (← onAddressee (fun _ completer => completer.command arguments request) addressee)
  | .completions => return some (← completions request)
  | .options => return some (.record (← get).1.options)
  | .healthy => return some (.bool true)
  | .setOptions =>
    setOptions request
    return none
  | .completionAvailable => return some (.bool (← State.isAvailable (← request.field "filetypes")))
  | .subcommands => return some (← subcommands request)
  | .detailedDiagnostic =>
    let addressee ← addressee request
    return some (← onAddressee (fun _ completer => completer.detailedDiagnostic request) addressee)
  | .loadConf =>
    let _ ← (Conf.load (← confPath request) true : Act Workspace _)
    return none
  | .ignoreConf =>
    (Conf.disable (← confPath request) : Act Workspace _)
    return none
  | .debugInfo => return some (← debugInfo request)

structure Reply where
  status : Int
  body : Value

/-- How a cause is written. -/
def causeFields : Fault → Value.Fields
  | .unknownConf path => [("extra_conf_file", .text path)]
  | _ => []

def failure (fault : Fault) (trace : String) : Value :=
  .record [("exception", .record (causeFields fault ++ [("TYPE", .text fault.name)])),
    ("message", match fault.message? with
      | some text => .text text
      | none => .null),
    ("traceback", .text trace)]

/-- Answers a request by its route. -/
def respond (route : String) (request : Value) (trace : String) : Doing Reply := do
  try
    match Route.ofText? route with
    | none => throw (.missing (.text route))
    | some route =>
      match ← answer route request with
      | some value =>
        announce
        return ⟨200, value⟩
      | none => return ⟨200, .null⟩
  catch fault =>
    announce
    return ⟨500, failure fault trace⟩

/-- The server with default options and nothing loaded. -/
def toDefaults (defaults : Value.Fields) : Doing Unit := do
  modify fun (state, workspace) => (state, { workspace with options := defaults })
  let state ← State.ofOptions defaults
  modify fun (_, workspace) => (state, { workspace with confs := {} })

def shutdown : Doing Unit := do
  State.shutdown
  Conf.shutdown

end Typeahead.Server
