import Typeahead.Session.Editor
import Typeahead.Client.Basic

namespace Typeahead.Session

/-! Sessions of what runs inside the editor. -/

/-- A request that is held between steps. -/
inductive HeldRequest where
  | completion (request : Client.CompletionRequest)
  | event (request : Client.EventRequest)
  | command (request : Client.CommandRequest)
  | omni (request : Client.OmniRequest)

/-- What a session has made so far. -/
structure ClientParts where
  request : Option HeldRequest := none
  diagnostics : Option Client.Diagnostics := none
  omni : Option Completer.OmniState := none
  client : Option Client := none

namespace ClientParts

abbrev Doing := Act (ClientParts × Workspace)

def hold (request : HeldRequest) : Doing Unit :=
  modify fun (parts, workspace) => ({ parts with request := some request }, workspace)

def held : Doing HeldRequest := do
  match (← get).1.request with
  | some request => return request
  | none => throw (.missing (.text "request"))

/-- Does something with a part that has been made. -/
def on {σ α : Type} (name : String) (part : ClientParts → Option σ) (put : σ → ClientParts → ClientParts)
    (act : Act (σ × Workspace) α) : Doing α := do
  match part (← get).1 with
  | none => throw (.missing (.text name))
  | some state =>
    Act.on (fun (_, workspace) => (state, workspace)) (fun (state, workspace) (parts, _) => (put state parts, workspace))
      act

def onDiagnostics {α : Type} (act : Client.Diagnostics.Doing α) : Doing α :=
  on "diagnostics" (·.diagnostics) (fun state parts => { parts with diagnostics := some state }) act

def onOmni {α : Type} (act : Completer.OmniState.Doing α) : Doing α :=
  on "omni" (·.omni) (fun state parts => { parts with omni := some state }) act

def onClient {α : Type} (act : Client.Doing α) : Doing α :=
  on "client" (·.client) (fun state parts => { parts with client := some state }) act

def wrongCount : Fault := .wrongKind "another number of arguments is needed"

def noPart (name : String) : Fault := .noFeature ("such a request has no " ++ name)

/-- Sends the held request, with a query where its kind has one. -/
def start (query : Option Value) : Doing Unit := do
  match ← held, query with
  | .completion request, some query =>
    hold (.completion (← (request.send query : Act Workspace Client.CompletionRequest)))
  | .event request, none => hold (.event (← (request.send : Act Workspace Client.EventRequest)))
  | .command request, none => hold (.command (← (request.send : Act Workspace Client.CommandRequest)))
  | .omni request, some query => hold (.omni (← onOmni (request.send query)))
  | _, _ => throw wrongCount

def isDone : Doing Bool := do
  match ← held with
  | .completion request => return (← request.getExchange).isDone
  | .event request => return (← request.getExchange).isDone
  | .command _ | .omni _ => return true

def response : Doing Value := do
  match ← held with
  | .completion request => (request.response : Act Workspace Value)
  | .event request =>
    let (answer, request) ← (request.response : Act Workspace (Value × Client.EventRequest))
    hold (.event request)
    return answer
  | .command request => return request.answer
  | .omni request => return ← request.response

def column : Doing Int := do
  match ← held with
  | .completion request => return request.start
  | .omni request => return request.request.start
  | _ => throw (noPart "start column")

end ClientParts

def requestSteps : Steps ClientParts := fun name step => do
  match name with
  | "get_handler" => (do Client.getData (← textField step "handler") : Act Workspace Value)
  | "post_handler" => (do Client.postData (← step.field "data") (← textField step "handler") : Act Workspace Value)
  | "new_completion" =>
    let request ← (Client.CompletionRequest.make (fieldOr step "extra" .null) : Act Workspace _)
    ClientParts.hold (.completion request)
    return .null
  | "new_event" =>
    ClientParts.hold (.event { name := ← textField step "name", extra := fieldOr step "extra" .null })
    return .null
  | "new_command" =>
    let request ← Client.CommandRequest.make (← step.field "arguments") (fieldOr step "target" .null)
    ClientParts.hold (.command request)
    return .null
  | "new_omni_request" =>
    ClientParts.onOmni (return ())
    let request ← (Client.OmniRequest.make : Act Workspace _)
    ClientParts.hold (.omni request)
    return .null
  | "start" =>
    ClientParts.start (step.field? "query")
    return .null
  | "done" => return .bool (← ClientParts.isDone)
  | "response" => ClientParts.response
  | "completion_column" => return .int (← ClientParts.column)
  | "after_command" =>
    match ← ClientParts.held with
    | .command request =>
      (request.follow : Act Workspace Unit)
      return .null
    | _ => throw (ClientParts.noPart "follow-up")
  | "send_command" =>
    (do Client.CommandRequest.perform (← step.field "arguments") (fieldOr step "target" .null) : Act Workspace Value)
  | "base_request" => return .list [.null, .bool true, .record []]
  | name => unknownStep name

/-- Diagnostics by buffer and line, with the numbers as texts. -/
def groupsValue (groups : Client.Groups) : Value :=
  .record (groups.map fun (buffer, lines) =>
    (toString buffer, .record (lines.map fun (line, diagnostics) => (toString line, .list diagnostics))))

def partSteps : Steps ClientParts := fun name step => do
  match name with
  | "new_diagnostics" =>
    modify fun (parts, workspace) => ({ parts with diagnostics := some { options := workspace.options } }, workspace)
    return .null
  | "update_diagnostics" =>
    let diagnostics ← step.field "diagnostics"
    ClientParts.onDiagnostics (Client.Diagnostics.update diagnostics)
    return .null
  | "cursor_moved" =>
    ClientParts.onDiagnostics Client.Diagnostics.cursorMoved
    return .null
  | "diagnostics_by_line" => ClientParts.onDiagnostics do return groupsValue (← get).1.groups
  | "new_omni" =>
    let settings ← Completer.Settings.ofOptions (← get).2.options
    modify fun (parts, workspace) => ({ parts with omni := some { core := { settings } } }, workspace)
    return .null
  | "omni_ready" =>
    ClientParts.onOmni Completer.OmniState.learn
    return .null
  | "omni_use_now" =>
    return .bool (← ClientParts.onOmni (Completer.OmniState.shouldUse (fieldOr step "data" .null)))
  | "omni_use_now_inner" =>
    let data ← step.field "data"
    return .bool (← ClientParts.onOmni (Completer.OmniState.applies data))
  | "omni_compute" =>
    let data ← step.field "data"
    ClientParts.onOmni (Completer.OmniState.compute data)
  | "omni_compute_inner" =>
    let data ← step.field "data"
    ClientParts.onOmni (Completer.OmniState.gather data)
  | _ => requestSteps name step

/-- The completions of the client's own kind of request, with how it went. -/
def completionsStep (query : Value) (isForced : Bool) : Client.Doing Value := do
  let answer (kind : String) (start : Int) (isDone : Bool) (items : Value) : Value :=
    .record [("kind", .text kind), ("column", .int start), ("done", .bool isDone), ("response", items)]
  match ← Client.makeCompletion isForced with
  | none => return .null
  | some (.inl request) =>
    let request ← (request.send query : Act Workspace Client.CompletionRequest)
    Client.change fun client => { client with completion := some (.inl request) }
    let isDone := (← request.getExchange).isDone
    return answer "CompletionRequest" request.start isDone (← (request.response : Act Workspace Value))
  | some (.inr request) =>
    let request ← Client.onOmni (request.send query)
    Client.change fun client => { client with completion := some (.inr request) }
    return answer "OmniCompletionRequest" request.request.start true (← request.response)

/-- The kind of a request as it is named in answers. -/
def completionKind : Option (Client.CompletionRequest ⊕ Client.OmniRequest) → Value
  | none => .null
  | some (.inl _) => .text "CompletionRequest"
  | some (.inr _) => .text "OmniCompletionRequest"

/-- Operations of the client by the names under which they are called, with their arguments. -/
abbrev ClientCalls := String → List Value → Client.Doing Value

def clientSteps (calls : ClientCalls) : Steps ClientParts := fun name step => do
  match editorSteps name step with
  | some act => act
  | none =>
    match name with
    | "new_ycm" =>
      let client ← (Client.make (← get).2.options : Act Workspace Client)
      modify fun (parts, workspace) => ({ parts with client := some client }, workspace)
      return .null
    | "completions" =>
      let query ← step.field "query"
      ClientParts.onClient (completionsStep query (flagOr step "force" false))
    | "parse" =>
      ClientParts.onClient Client.fileReady
      return .null
    | "ycm_diagnostics" => ClientParts.onClient (Client.takeDiagnostics (flagOr step "qf" false))
    | "ycm" =>
      let call ← textField step "call"
      ClientParts.onClient (calls call (itemsOf (fieldOr step "args" .null)))
    | _ => partSteps name step

end Typeahead.Session
