import Typeahead.Server.Launch
import Typeahead.Server.Route

/-! The command line. It takes the server's arguments, brings the server up, and then answers requests that
come line by line: a record with a route and the data of the request. -/

namespace Typeahead.CommandLine

/-- The answer to one line. -/
def answer (line : String) : Server.Doing Value := do
  let some message := Value.read? line | throw .notReadable
  let route ← (← message.field "route").asText
  let reply ← Server.respond route ((message.field? "json").getD .null) ""
  return .record [("status", .int reply.status), ("body", reply.body)]

/-- The answer as it is printed; what cannot be answered is reported by its name. -/
def answerText (line : String) (server : Server.State × Workspace) : String × (Server.State × Workspace) :=
  let (result, after) := (answer line).run server
  (match result with
    | .ok value => value.plainExchange
    | .error fault => (Value.record [("error", .text fault.name)]).plainExchange, after)

partial def serve (input output : IO.FS.Stream) (server : Server.State × Workspace) : IO Unit := do
  let line ← input.getLine
  if line.isEmpty then return
  if (Text.strip line).isEmpty then serve input output server
  else
    let (text, server) := answerText line server
    output.putStrLn text
    output.flush
    serve input output server

/-- A workspace that has the options file the arguments name. -/
def workspaceFor (arguments : Server.Arguments) : IO Workspace := do
  if arguments.optionsFile.isEmpty then return {}
  let content ← IO.FS.readFile arguments.optionsFile
  let files : Files := {}
  return { files := files.write (Path.absolute "/" arguments.optionsFile) (.text content) none }

def usage : String :=
  "usage: typeahead [-h] [--host HOST] [--port PORT] [--log LOG] [--idle_suicide_seconds IDLE_SUICIDE_SECONDS] " ++
  "[--options_file OPTIONS_FILE] [--stdout STDOUT] [--stderr STDERR] [--keep_logfiles]"

end Typeahead.CommandLine

open Typeahead in
def main (line : List String) : IO UInt32 := do
  let some arguments := Server.Arguments.read? line
    | do
      IO.eprintln CommandLine.usage
      return 2
  let workspace ← CommandLine.workspaceFor arguments
  let (result, launched, workspace) := (Server.Launched.launch line false).run (({}, workspace) : Server.Launched × Workspace)
  match result, launched.state with
  | .error fault, _ =>
    IO.eprintln (fault.name ++ ": " ++ fault.text)
    return 1
  | .ok _, none => return 0
  | .ok _, some state =>
    CommandLine.serve (← IO.getStdin) (← IO.getStdout) (state, workspace)
    return 0
