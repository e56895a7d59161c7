import Typeahead.Editor.Basic

namespace Typeahead.Machine

/-! The machine the program runs on: its executables, files, processes and ports. -/

/-- The executable of a name: a file in the working folder goes before those on the search path. -/
def executable? (workspace : Workspace) (name : String) : Option String :=
  if workspace.hasFile name then some name
  else (Text.split ':' workspace.places.search).findSome? fun folder =>
    let path := Path.join folder name
    if workspace.hasFile path then some path else none

def firstExecutable? (workspace : Workspace) (names : List String) : Option String :=
  names.findSome? (executable? workspace)

/-- Where an interpreter lies on Windows when it is not on the search path. -/
def windowsInterpreters : List String := ["C:\\python27\\pythonw.exe", "C:\\python26\\pythonw.exe"]

def interpreterNames (workspace : Workspace) : List String :=
  if workspace.onWindows then ["pythonw", "python2", "python"] else ["python2", "python"]

def installedInterpreter (workspace : Workspace) : Except Fault String :=
  match firstExecutable? workspace (interpreterNames workspace) with
  | some path => .ok path
  | none =>
    match if workspace.onWindows then windowsInterpreters.find? workspace.has else none with
    | some path => .ok path
    | none => .error (.failed "Python 2.7/2.6 not installed!")

def findInterpreter : Act Workspace Value := do
  if !(← get).hasEditor then return .text (← get).places.interpreter
  let chosen ← Editor.evaluate "g:ycm_path_to_python_interpreter"
  if chosen.isPresent then return chosen
  return .text (← installedInterpreter (← get))

/-- The interpreter for the server, which is looked for once. -/
def interpreter : Act Workspace Value := do
  match (← get).interpreter with
  | some found => return found
  | none =>
    let found ← findInterpreter
    modify fun workspace => { workspace with interpreter := some found }
    return found

/-- Removes a file if there is one. -/
def removeFile (path : String) : Act Workspace Unit :=
  modify fun workspace => match workspace.located? path with
    | some found => { workspace with files := workspace.files.remove found }
    | none => workspace

/-- Ends a process. -/
def terminate (process : Value) : Act Workspace Unit := do
  if (← get).onWindows then
    Workspace.record (.openProcess process)
    Workspace.record .terminateProcess
    Workspace.record .closeHandle
  else Workspace.record (.kill process (.int 15))

/-- Whom else the access rights of a path let in: all rights for a folder that was opened to everybody. -/
def othersAccess (workspace : Workspace) (path : String) : String :=
  if workspace.files.shared.contains path then "0o77"
  else if workspace.hasFolder path then "0o55"
  else "0o44"

end Typeahead.Machine
