import Typeahead.Event
import Typeahead.Frontend.Basic
import Typeahead.Files
import Typeahead.Fault
import Typeahead.Value.Access

namespace Typeahead

/-! The surroundings of a session: its files, the editor, the answers that other programs have ready, the
user's options, and the events so far. -/

structure Buffer where
  name : String := ""
  number : Int := 1
  lines : List String := [""]

structure Editor where
  buffers : List Buffer := [{}]
  current : Int := 0
  /-- The line, counted from 1, and the column, counted from 0. -/
  cursor : Value × Value := (.int 1, .int 0)
  /-- The current line, where it differs from the buffer's. -/
  line : Option Value := none
  /-- Answers to expressions, by how these start: a value, or what the editor complains of. -/
  answers : List (String × Except String Value) := []
  globals : Option Value := none

/-- What the completion server sends back. -/
structure Reply where
  status : Int := 200
  body : Value := .null
  isEmpty : Bool := true
  /-- Why nothing came back at all. -/
  failure : Option String := none

/-- The replies the completion server has ready, by the last part of the address. The last one of a queue
stays. -/
structure Wire where
  queues : List (String × List Reply) := []
  /-- Whether queued messages are left lying. -/
  isPending : Bool := false

/-- A configuration file that has been loaded. -/
structure ConfModule where
  path : String
  file : ConfFile

/-- Which configuration files have been loaded or turned down, and which one belongs to a source file. -/
structure ConfStore where
  modules : List (String × Option ConfModule) := []
  sources : List (String × Option String) := []

/-- A definition that an analysis of sources finds. -/
structure Definition where
  path : Value := .null
  line : Value := .null
  column : Value := .null
  isKeyword : Bool := false
  description : Value := .text ""
  isBuiltin : Bool := false

/-- The answers of an analysis of sources. A name that leads nowhere has no list of definitions. -/
structure Analysis where
  completions : List Value := []
  definitions : Option (List Definition) := some []
  assignments : Option (List Definition) := some []

/-- An engine for the C family whose answers are prepared. -/
structure PreparedEngine where
  isUpdating : Value := .bool false
  completions : List Frontend.Completion := []
  diagnostics : List Frontend.Diagnostic := []
  definition : Option Frontend.Location := none
  declaration : Option Frontend.Location := none

/-- The places a session runs in. -/
structure Places where
  working : String := "/"
  home : String := "/home"
  search : String := "/bin"
  temporary : String := "/tmp"
  install : String := "/opt"
  /-- Where the native part of the program lies. -/
  native : String := "/ycm/python"
  /-- The interpreter that runs this program when there is no editor. -/
  interpreter : String := "/running/python"
  /-- Where the server for solutions lies. -/
  solutionServer : String := "/opt"
  /-- Links from one folder to another. -/
  links : List (String × String) := []

structure Workspace where
  places : Places := {}
  files : Files := {}
  platform : String := "linux"
  hasEditor : Bool := true
  coreVersion : Option Value := some (.int 9)
  editor : Editor := {}
  wire : Wire := {}
  serverIsHealthy : Value := .bool false
  serverAddress : String := "http://localhost:6666"
  analysis : Analysis := {}
  /-- The answers of the server for solutions, by what it is asked. -/
  solution : List (String × Value) := []
  /-- The number that a launched process gets. -/
  processNumber : Nat := 4242
  /-- How a launched process has ended, if it has. -/
  processEnd : Value := .null
  semantic : Option PreparedEngine := none
  /-- A port of this machine that nobody uses. -/
  freePort : Int := 0
  frontend : Option Frontend := none
  snippets : Option Value := none
  options : Value.Fields := []
  confs : ConfStore := {}
  /-- The interpreter that was found when one was first needed. -/
  interpreter : Option Value := none
  events : List Event := []

/-- Something that is done on a state and may fail; what changed before the failure stays changed. -/
abbrev Act (σ : Type) := ExceptT Fault (StateM σ)

namespace Act

variable {σ τ α : Type}

/-- Does something on a part of the state. -/
def on (get : σ → τ) (put : τ → σ → σ) (act : Act τ α) : Act σ α := fun state =>
  let (result, part) := act.run (get state)
  (result, put part state)

/-- Whether it succeeds. -/
def succeeds (act : Act σ α) : Act σ Bool := do
  try
    let _ ← act
    return true
  catch _ => return false

/-- Does something that has no state beside the workspace. -/
def alone (act : Act (Unit × σ) α) : Act σ α := on (fun state => ((), state)) (fun state _ => state.2) act

end Act

/-- What is done in a workspace can be done beside any other state. -/
instance (priority := low) {σ : Type} : MonadLift (Act Workspace) (Act (σ × Workspace)) where
  monadLift act := Act.on (·.2) (fun workspace state => (state.1, workspace)) act

namespace Workspace

def record (event : Event) : Act Workspace Unit :=
  modify fun workspace => { workspace with events := workspace.events ++ [event] }

def absolute (workspace : Workspace) (path : String) : String := Path.absolute workspace.places.working path

def real (workspace : Workspace) (path : String) : String := Path.real workspace.places.links workspace.places.working path

def expandHome (workspace : Workspace) (path : String) : String := Path.expandHome workspace.places.home path

/-- Where something that exists lies. -/
def located? (workspace : Workspace) (path : String) : Option String :=
  workspace.files.locate? workspace.places.working path

def has (workspace : Workspace) (path : String) : Bool := workspace.files.has workspace.places.working path

def hasFile (workspace : Workspace) (path : String) : Bool := workspace.files.hasFile workspace.places.working path

def hasFolder (workspace : Workspace) (path : String) : Bool :=
  workspace.files.hasFolder workspace.places.working path

def names? (workspace : Workspace) (path : String) : Option (List String) :=
  workspace.files.names? workspace.places.working path

def file? (workspace : Workspace) (path : String) : Option File :=
  workspace.files.file? workspace.places.working path

/-- The text of a file; a configuration file has none to show. -/
def contents? (workspace : Workspace) (path : String) : Option String :=
  (workspace.file? path).map fun file => match file.content with
    | .text content => content
    | .conf _ => ""

/-- Writes a file. The folder of the file is taken to be there and to let itself be written to: this never fails. -/
def write (path : String) (content : Content) (modified : Option Float) : Act Workspace Unit :=
  modify fun workspace => { workspace with files := workspace.files.write (workspace.absolute path) content modified }

/-- The folder for the program's own temporary files, which is made when it is first asked for. -/
def temporaryFolder : Act Workspace String := do
  let workspace ← get
  let folder := Path.join workspace.places.temporary "ycm_temp"
  if !workspace.has folder then set { workspace with files := workspace.files.makeSharedFolder folder }
  return folder

/-- Whether there is an engine for the C family. -/
def hasNativeEngine (workspace : Workspace) : Bool := workspace.semantic.isSome || workspace.frontend.isSome

def onWindows (workspace : Workspace) : Bool := workspace.platform == "win32"

def onCygwin (workspace : Workspace) : Bool := workspace.platform == "cygwin"

/-- The value of an option. -/
def option (key : String) : Act Workspace Value := do
  match (← get).options.lookup key with
  | some value => return value
  | none => throw (.missing (.text key))

end Workspace

end Typeahead
