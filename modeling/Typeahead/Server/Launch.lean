import Typeahead.Conf.Store
import Typeahead.Machine
import Typeahead.Options
import Typeahead.Server.Arguments
import Typeahead.Server.State
import Typeahead.Value.Read

namespace Typeahead.Server

/-! How the server comes up and goes down. -/

/-- What there is of a server so far. -/
structure Launched where
  state : Option State := none
  /-- The arguments by which signals are handled, once they are. -/
  handled : Option Arguments := none

namespace Launched

abbrev Doing := Act (Launched × Workspace)

def levels : List (String × Int) :=
  [("CRITICAL", 50), ("FATAL", 50), ("ERROR", 40), ("WARNING", 30), ("WARN", 30), ("INFO", 20), ("DEBUG", 10),
   ("NOTSET", 0)]

def levelOf (name : String) : Except Fault Int :=
  match levels.lookup name.toUpper with
  | some level => .ok level
  | none => .error (.refused ("Invalid log level: " ++ name))

/-- Makes an empty file, or empties one. -/
def openNew (path : String) : Act Workspace Unit := do
  let workspace ← get
  let folder := Path.folder path
  if path.isEmpty then throw (.noFile path)
  else if workspace.hasFolder path then throw (.isFolder path)
  else if !(folder.isEmpty || workspace.hasFolder folder) then
    throw (if workspace.hasFile folder then .notFolder path else .noFile path)
  else if Text.endsWith path "/" then throw (.isFolder path)
  else Workspace.write path (.text "") none

/-- The options in a file. -/
def readOptions (path : String) : Act Workspace Value := do
  match (← get).contents? path with
  | none => throw (if (← get).hasFolder path then .isFolder path else .noFile path)
  | some content =>
    match Value.read? content with
    | some options => return options
    | none => throw .notReadable

def stopSignals : List Int := [15, 2]

/-- Brings up the server. The native part must not have been loaded before, because the user's global
configuration file may prepare for it. -/
def launch (line : List String) (isCoreLoaded : Bool) : Doing Unit := do
  let some arguments := Arguments.read? line | throw .exits
  arguments.output.forM fun path => (openNew path : Act Workspace Unit)
  arguments.errors.forM fun path => (openNew path : Act Workspace Unit)
  Workspace.record (.logging (← levelOf arguments.log))
  let options ← if arguments.optionsFile.isEmpty then pure (.record Options.defaults)
    else (readOptions arguments.optionsFile : Act Workspace Value)
  let fields ← options.asTable
  modify fun (launched, workspace) => (launched, { workspace with options := fields })
  if isCoreLoaded then throw (.failed "ycm_core already imported, ycmd has a bug!")
  Conf.beforeStart
  if !(← get).2.onWindows then Workspace.record .newSession
  if options.isPresent then
    let state ← State.ofValue options
    modify fun (launched, workspace) => ({ launched with state := some state }, workspace)
  stopSignals.forM fun signal => (Workspace.record (.handleSignal signal) : Act Workspace Unit)
  modify fun (launched, workspace) => ({ launched with handled := some arguments }, workspace)
  if 0 < arguments.idleSeconds then Workspace.record .thread
  Workspace.record (.install "WatchdogPlugin")
  Workspace.record (.serve arguments.host arguments.port 30)

/-- Ends the server on a signal, and removes its log files unless they are kept. -/
def handleSignal (arguments : Arguments) : Act Workspace Unit := do
  if !arguments.keepsLogs then
    arguments.errors.forM Machine.removeFile
    arguments.output.forM Machine.removeFile
  throw .exits

end Launched

end Typeahead.Server
