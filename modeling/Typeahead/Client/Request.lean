import Typeahead.Client.Exchange
import Typeahead.Completer.Omni
import Typeahead.Editor.Jump
import Typeahead.Response

namespace Typeahead.Client

/-! The requests an editor makes: for completions, for commands, and reports of what happens in it. -/

/-- Adds fields to the data of a request, if any are given. -/
def extend (fields : Value.Fields) (extra : Value) : Except Fault Value.Fields :=
  if !extra.isPresent then .ok fields
  else match extra with
    | .record more => .ok (fields.update more)
    | value => .error (value.wrongKind "" " object is not iterable")

/-- The cause when an answer is asked for before the request is sent. -/
def notSent : Fault := .noFeature "the request has not been sent"

structure CompletionRequest where
  start : Int
  data : Value.Fields
  exchange : Option Exchange := none

namespace CompletionRequest

def make (extra : Value) : Act Workspace CompletionRequest := do
  let start ← Editor.completionStart
  let data ← Editor.requestData (.int start) .null true
  return { start, data := ← extend data extra }

def send (request : CompletionRequest) (query : Value) : Act Workspace CompletionRequest := do
  let data := request.data.set "query" query
  let exchange ← Client.send .post "completions" (.record data) (.float 0.5)
  return { request with data, exchange := some exchange }

def getExchange (request : CompletionRequest) : Except Fault Exchange :=
  match request.exchange with
  | some exchange => .ok exchange
  | none => .error (notSent)

/-- The items for the editor's menu; when there is an error, the user is told and there are none. -/
def response (request : CompletionRequest) : Act Workspace Value := do
  let exchange ← request.getExchange
  let items : Except Fault (List Value) := do (← (← valueOf exchange).elements).mapM Response.editorItem
  match items with
  | .ok items => return .list items
  | .error fault =>
    Editor.postMessage fault.text
    return .list []

end CompletionRequest

structure EventRequest where
  name : String
  extra : Value := .null
  answer : Value := .null
  exchange : Option Exchange := none

namespace EventRequest

def send (request : EventRequest) : Act Workspace EventRequest := do
  let data ← extend (← Editor.requestData .null .null true) request.extra
  let data := data.set "event_name" (.text request.name)
  let exchange ← Client.send .post "event_notification" (.record data) timeout
  return { request with exchange := some exchange }

def getExchange (request : EventRequest) : Except Fault Exchange :=
  match request.exchange with
  | some exchange => .ok exchange
  | none => .error (notSent)

/-- Asks the user whether a configuration file may be loaded, and tells the server. -/
def settleConf (path : String) (question : String) : Act Workspace Unit := do
  let handler := if ← Editor.confirm question then "load_extra_conf_file" else "ignore_extra_conf_file"
  let _ ← postData (.record [("filepath", .text path)]) handler

def receive (exchange : Exchange) : Act Workspace Value :=
  match valueOf exchange with
  | .ok value => return value
  | .error (.unknownConf path) => do
    settleConf path (Fault.confirmConf path)
    return .null
  | .error fault => throw fault

/-- What the server found in the file, for the report that a file can be parsed; an answer that says
something is kept. -/
def response (request : EventRequest) : Act Workspace (Value × EventRequest) := do
  if request.answer.isPresent then return (request.answer, request)
  let exchange ← request.getExchange
  if request.name != "FileReadyToParse" then return (.list [], request)
  let answer ← tryCatch (receive exchange) fun fault => do
    Editor.postMessage fault.text
    return .null
  return (if answer.isPresent then answer else .list [], { request with answer })

end EventRequest

/-- Reports an event without waiting for an answer. -/
def report (name : String) (extra : Value) : Act Workspace Unit := do
  let _ ← EventRequest.send { name, extra }

/-- Old names of commands stand for the present ones. -/
def presentArguments (arguments : Value) : Except Fault Value := do
  if !arguments.isPresent then return arguments
  if !(← arguments.item 0).same (.text "GoToDefinitionElseDeclaration") then return arguments
  match arguments with
  | .list (_ :: rest) => return .list (.text "GoTo" :: rest)
  | value => .error (value.wrongKind "" " object does not support item assignment")

structure CommandRequest where
  arguments : Value
  target : Value
  goesSomewhere : Bool
  answer : Value := .null

namespace CommandRequest

def make (arguments target : Value) : Except Fault CommandRequest := do
  let arguments ← presentArguments arguments
  let goesSomewhere ← if arguments.isPresent then do
      pure (Text.startsWith (← (← arguments.item 0).asTextFor "startswith") "GoTo")
    else pure false
  return { arguments, target := if target.isPresent then target else .text "filetype_default", goesSomewhere }

/-- Sends the command and waits; what the server complains of is shown to the user. -/
def send (request : CommandRequest) : Act Workspace CommandRequest := do
  let data ← Editor.requestData .null .null true
  let data := data.update [("completer_target", request.target), ("command_arguments", request.arguments)]
  tryCatch (do return { request with answer := ← postData (.record data) "run_completer_command" }) fun fault => do
    if !fault.isFromServer then throw fault
    Editor.postMessage fault.text
    return request

/-- Goes to the place that the answer names, or shows a list of several. -/
def follow (request : CommandRequest) : Act Workspace Unit := do
  if !request.goesSomewhere || !request.answer.isPresent then return
  match request.answer with
  | .list places =>
    let items ← (places.mapM Response.listItem : Except Fault _)
    let _ ← Editor.evaluate ("setqflist( " ++ (Value.list items).literal ++ " )")
    let _ ← Editor.evaluate "youcompleteme#OpenGoToList()"
  | place =>
    let path ← place.field "filepath"
    let line ← (← place.field "line_num").plus (.int 1)
    let column ← (← place.field "column_num").plus (.int 1)
    Editor.jump path line column

/-- Sends a command and follows its answer. -/
def perform (arguments target : Value) : Act Workspace Value := do
  let request ← (← make arguments target).send
  request.follow
  return request.answer

end CommandRequest

/-- A request for the items of the editor's own completion function. -/
structure OmniRequest where
  request : CompletionRequest
  items : Option Value := none

namespace OmniRequest

def make : Act Workspace OmniRequest := do return { request := ← CompletionRequest.make .null }

def send (request : OmniRequest) (query : Value) : Completer.OmniState.Doing OmniRequest := do
  let data := request.request.data.set "query" query
  let items ← Completer.OmniState.compute (.record data)
  return { request := { request.request with data }, items := some items }

def response (request : OmniRequest) : Except Fault Value :=
  match request.items with
  | some items => .ok items
  | none => .error notSent

end OmniRequest

end Typeahead.Client
