import Typeahead.Completer.Basic
import Typeahead.Filetype
import Typeahead.Path.Typed
import Typeahead.Response

namespace Typeahead.Completer

/-! Names of files and folders: after an opened include line those on the include paths, and after a slash
those in the folder that stands before it. -/

structure FileNameState where
  core : Core
  flags : Flags.Cache := {}

namespace FileNameState

abbrev Doing := Act (FileNameState × Workspace)

/-- Does something with the flags. -/
def withFlags {α : Type} (act : Flags.Cached α) : Doing α :=
  Act.on (fun (state, workspace) => (state.flags, workspace))
    (fun (flags, workspace) (state, _) => ({ state with flags }, workspace)) act

/-- The start of a line up to a column; without a column, all of it. -/
def lineUpTo (line column : Value) : Except Fault (List Char) := do
  let stop ← if column matches .null then pure none else (column.asInt).map some
  return Value.slice (← line.asText).toList none stop

/-- The file a request comes from, and its filetypes. -/
def sourceOf (request : Value) : Except Fault (String × Value) := do
  let path := (← request.field "filepath").display
  return (path, ← (← (← request.field "file_data").field path).field "filetypes")

/-- Whether the path of an include line has just been opened. -/
def atInclude (request : Value) : Except Fault Bool := do
  let column ← request.field "start_column"
  let line ← request.field "line_value"
  let (_, filetypes) ← sourceOf request
  if ← Filetype.inCFamily filetypes then return Path.startsInclude (← lineUpTo line column) else return false

def applies (request : Value) : Except Fault Bool := do
  let column ← request.field "start_column"
  let line ← request.field "line_value"
  if !column.isPresent then return false
  let before ← line.item (← (← column.minus (.int 1)).asInt)
  if before.same (.text "/") then return true else atInclude request

/-- The names that paths have, in the order in which they first occur, and what stands under each of them: 1 for files,
2 for folders, 3 for both. -/
structure Listing where
  names : List String := []
  marks : List (String × Nat) := []

namespace Listing

/-- What stands under a name; 0 if it has not occurred. -/
def mark (listing : Listing) (name : String) : Nat := (listing.marks.lookup name).getD 0

def markOf (isFolder : Bool) : Nat := if isFolder then 2 else 1

/-- Takes in a path. -/
def note (isFolder : String → Bool) (listing : Listing) (path : String) : Listing :=
  let name := Path.name path
  let known := listing.mark name
  { names := if known = 0 then listing.names ++ [name] else listing.names
    marks := Table.put name (known ||| markOf (isFolder path)) listing.marks }

def ofPaths (isFolder : String → Bool) (paths : List String) : Listing := paths.foldl (note isFolder) {}

def labels : List (Nat × String) := [(1, "[File]"), (2, "[Dir]"), (3, "[File&Dir]")]

def label (mark : Nat) : Except Fault String :=
  match labels.lookup mark with
  | some label => .ok label
  | none => .error (.missing (.int mark))

end Listing

/-- One completion for each name, labelled with what stands under it. -/
def completions (isFolder : String → Bool) (paths : List String) : Except Fault Value := do
  let listing := Listing.ofPaths isFolder paths
  let items ← listing.names.mapM fun name => do
    return Response.completion (.text name) { extra := .text (← Listing.label (listing.mark name)) }
  return .list items

/-- The paths in a folder; none if it cannot be listed. -/
def pathsIn (workspace : Workspace) (folder : String) : List String :=
  ((workspace.names? folder).getD []).map (Path.join folder)

/-- The paths for an include line, in order and each once. -/
def includePaths (path : String) (line : Path.Include) : Doing (List String) := do
  let folders ← withFlags (Flags.foldersFor path)
  let folders := if line.inBrackets then folders else folders ++ [Path.folder path]
  let (_, workspace) ← get
  let found := folders.flatMap fun folder => pathsIn workspace (Path.join folder (String.ofList line.path))
  return Text.sorted found.eraseDups

/-- The paths for a line that ends with a path, seen from the file's folder or the working folder. -/
def plainPaths (workspace : Workspace) (fromWorkingFolder : Bool) (path line : String) : List String :=
  let typed := match Path.atEnd line.toList with
    | some typed => workspace.expandHome (String.ofList typed)
    | none => ""
  let folder := if !fromWorkingFolder && !Path.isAbsolute typed then Path.join (Path.folder path) typed else typed
  pathsIn workspace folder

def gather (request : Value) : Doing Value := do
  let line ← request.field "line_value"
  let column ← request.field "start_column"
  let (path, filetypes) ← sourceOf request
  let line ← lineUpTo line column
  let opened := if ← Filetype.inCFamily filetypes then Path.Include.ofLine? line else none
  match opened with
  | some opened =>
    let paths ← includePaths path opened
    completions (← get).2.hasFolder paths
  | none =>
    let (state, workspace) ← get
    let fromWorkingFolder ← state.core.settings.option "filepath_completion_use_working_dir"
    completions workspace.hasFolder (plainPaths workspace fromWorkingFolder.isPresent path (String.ofList line))

end FileNameState

def fileName : Completer FileNameState where
  core := (·.core)
  putCore core state := { state with core }
  supported := []
  applies request := FileNameState.applies request
  gather := FileNameState.gather

end Typeahead.Completer
