import Typeahead.Workload.Completing
import Typeahead.Client.Diagnostics
import Typeahead.Client.Keepalive
import Typeahead.Client.Request
import Typeahead.Editor.Location
import Typeahead.Server.Route

namespace Typeahead.Workload

/-! The server and its client at work. -/

/-- A finding of the native engine in a line; findings are warnings and errors in turn. -/
def findingAt (path : String) (index : Nat) : Frontend.Diagnostic :=
  let place : Frontend.Location := ⟨path, index + 1, 1⟩
  { location := place, extent := ⟨place, place⟩, ranges := [], kind := if index % 2 == 0 then "W" else "E"
    text := "finding " ++ toString index, long := "" }

/-- The records that answers are made of. -/
def responses : Workload := fun size => return do
  let numbers := List.range size
  let real := (← get).real
  let completions ← (numbers.mapM fun index => Response.editorItem
    (Response.completion (.text ("name" ++ toString index)) { menu := .text "name()" }) : Except Fault _)
  let places ← (numbers.mapM fun (index : Nat) =>
    Response.goTo real (.text "/work/goal.cpp") (.int index) (.int 0) .null : Except Fault _)
  let findings := Value.record (numbers.map fun index =>
    (toString index, Response.diagnostic (findingAt "/work/goal.cpp" index)))
  let fixed := [Response.message (.text "done"), Response.location {}, Response.range {}]
  let first ← findings.field "0"
  let count := completions.length + places.length + sizeOf findings + (fixed.map sizeOf).foldl (· + ·) 0
  return .list [.int count, ← first.field "kind"]

/-- Diagnostics on their way into the editor: as signs and as items of its list. -/
def diagnostics : Workload := fun size => do
  let path := "/work/shown.cpp"
  modify fun workspace => { workspace with editor :=
    { buffers := [{ name := path, lines := List.replicate (size + 1) "x" }]
      answers := [("bufnr(", .ok (.text "1")), ("bufwinnr(", .ok (.text "1"))] } }
  let findings := Value.list ((List.range size).map fun index => Response.diagnostic (findingAt path index))
  return do
    let items ← Editor.locationItems findings
    let groups ← Client.Diagnostics.grouped findings
    let next ← Client.Diagnostics.updateSigns groups 1
    let fields := ((← items.elements).map sizeOf).foldl (· + ·) 0
    let lines := (groups.map fun (_, lines) => lines.length).foldl (· + ·) 0
    let first ← items.item 0
    return .list [.int (fields + lines + (next - 1) : Nat), .int (sizeOf items), ← first.field "type"]

/-- The filetypes of requests. -/
def servedFiletypes : List String := ["cpp", "c", "python", "cs", "objc", "objcpp", "ruby", "unknownlang"]

/-- Completers that a server makes for the filetypes it is asked about. -/
def serverState : Workload := fun size => do
  modify fun workspace =>
    let files := Completer.hooks.foldl (fun (files : Files) name =>
      files.write (Completer.hookPath workspace name) (.text "") none) workspace.files
    { workspace with semantic := some {}, files }
  let options := (← get).options
  return do
    withState (← Server.State.ofOptions options) do
      let found ← total size fun index => do
        let filetype := inTurn servedFiletypes index
        let filetypes := Value.texts [filetype]
        let isAvailable ← Server.State.isAvailable filetypes
        let isUsable ← Server.State.isUsable filetypes
        let isGeneral ← Server.State.shouldUseGeneral
          (Spot.request { path := "/work/any", filetype, lines := ["word"], column := 4, query := "word" })
        return isAvailable.toNat + isUsable.toNat + isGeneral.toNat
      let served := (← get).1.served
      let known := (served.filter (·.2.isSome)).length
      return .list [.int (found + served.length + known : Nat), Value.texts (Text.sorted (served.map (·.1)))]

/-- The routes that a request goes through. -/
def routes : List String :=
  ["POST /event_notification", "GET /healthy", "POST /semantic_completion_available", "POST /defined_subcommands",
   "POST /completions"]

/-- The answers of a server, as they are written. -/
def answers : Workload := fun size => do
  modify fun workspace =>
    { workspace with files := workspace.files.write (Completer.hookPath workspace "python") (.text "") none }
  let state ← Server.State.ofOptions (← get).options
  let requestFor (index : Nat) : Except Fault Value := do
    let spot : Spot :=
      { path := "/work/served.py", filetype := "python", lines := List.replicate (index + 1) "some_long_name"
        line := index, column := 4, query := "some" }
    return .record ((← spot.request.asFields) ++ [("event_name", .text "FileReadyToParse")])
  return do
    withState state do
      let found ← total size fun index => do
        let request ← requestFor index
        let replies ← routes.mapM fun route => Server.respond route request ""
        return (replies.map fun reply => reply.body.exchange.length).foldl (· + ·) 0
      return .int found

/-- A client that talks to a server, whose first look at a file finds something. -/
def clientTalk : Workload := fun size => do
  let completions := Value.list ((List.range 20).map fun index =>
    Response.completion (.text ("name" ++ toString index)) {})
  let findings := Value.list ((List.range 7).map fun index => Response.diagnostic (findingAt "/work/talk.cpp" index))
  let reply (body : Value) : Reply := { body, isEmpty := false }
  modify fun workspace => { workspace with
    serverIsHealthy := .bool true
    wire := { queues := [("completions", [reply completions]),
      ("event_notification", [reply findings, reply (.list [])]),
      ("defined_subcommands", [reply (Value.texts ["GoTo", "StopServer"])]), ("healthy", [reply (.bool true)])] }
    editor :=
      { buffers := [{ name := "/work/talk.cpp", lines := ["word"] }]
        answers := [("getbufvar(1, \"&mod\")", .ok (.text "0")), ("getbufvar(1, \"&ft\")", .ok (.text "cpp")),
          ("&filetype", .ok (.text "cpp"))] } }
  return do
    let event ← Client.EventRequest.send { name := "FileReadyToParse" }
    let (seen, _) ← event.response
    let found ← total size fun _ => do
      let request ← Client.CompletionRequest.make .null
      return sizeOf (← (← request.send (.text "")).response)
    let subcommands ← Client.postData (.record []) "defined_subcommands"
    let slept ← napOf (.int 99999)
    return .list [.int (sizeOf seen + found + sizeOf subcommands : Nat), slept]
where
  /-- Keeps the server awake once, and tells how long it slept before. -/
  napOf (interval : Value) : Act Workspace Value := do
    let _ ← (Client.Keepalive.pingFor interval 1).succeeds
    return ((← get).events.findSome? fun event => match event with
      | .sleep seconds => some seconds
      | _ => none).getD .null

end Typeahead.Workload
