import Typeahead.Workspace
import Typeahead.Path.Glob

namespace Typeahead.Conf

/-! Configuration files of projects. They are programs, so that one is run only when the options allow it
or the user has agreed; what was decided is remembered. A file stands for the functions that it has and what they
answer: files whose code fails, when they are run or when they are asked for flags, are left out. -/

def fileName : String := ".ycm_extra_conf.py"

/-- The configuration file for all projects, which needs no consent. -/
def globalPath : Act Workspace String := do
  match ← Workspace.option "global_ycm_extra_conf" with
  | .text path => return (← get).expandHome path
  | value => throw (value.wrongKind "expected str, bytes or os.PathLike object, not " "")

/-- Whether a path matches a pattern, both seen from the root. -/
def matchesPattern (workspace : Workspace) (path pattern : String) : Bool :=
  Path.matchesGlob (workspace.absolute path) (workspace.absolute (workspace.expandHome pattern))

/-- What the first pattern that matches says; a `!` in front forbids. -/
def firstVerdict (workspace : Workspace) (path : String) : List Value → Except Fault (Option Bool)
  | [] => .ok none
  | pattern :: rest => do
    let pattern ← pattern.asTextFor "lstrip"
    let first ← Value.nth pattern.toList 0
    let bare := String.ofList (pattern.toList.dropWhile (· == '!'))
    if matchesPattern workspace path bare then return some (first != '!') else firstVerdict workspace path rest

/-- Whether a file may be run without asking; a fault if only the user can tell. -/
def mayRun (path : String) : Act Workspace Bool := do
  if path == (← globalPath) then return true
  if !(← Workspace.option "confirm_extra_conf").isPresent then return true
  let patterns ← (← Workspace.option "extra_conf_globlist").elements
  match ← firstVerdict (← get) path patterns with
  | some verdict => return verdict
  | none => throw (.unknownConf path)

def remember (path : String) (module : Option ConfModule) : Act Workspace Unit :=
  modify fun workspace =>
    { workspace with confs := { workspace.confs with modules := Table.put path module workspace.confs.modules } }

/-- Turns a file down for the rest of the session. -/
def disable (path : String) : Act Workspace Unit := remember path none

/-- Runs a file, and remembers it. -/
def run (path : String) : Act Workspace ConfModule := do
  match (← get).file? path with
  | some file =>
    let module : ConfModule := match file.content with
      | .conf conf => ⟨path, conf⟩
      | .text _ => ⟨path, { style := .missing }⟩
    remember path (some module)
    return module
  | none => throw (if (← get).hasFolder path then .isFolder path else .noFile path)

/-- The configuration in a file, if it may be run. With `force` it is run in any case. -/
def load (path : String) (force : Bool := false) : Act Workspace (Option ConfModule) := do
  if path.isEmpty then return none
  if force then return some (← run path)
  match (← get).confs.modules.lookup path with
  | some known => return known
  | none =>
    if ← mayRun path then return some (← run path)
    else
      disable path
      return none

/-- The configuration files in the folders around a source file, the nearest first. -/
def around (workspace : Workspace) (source : String) : List String :=
  ((Path.enclosing source).map fun folder => Path.join folder fileName).filter workspace.has

/-- The configuration file for all projects, if there is one. -/
def fallback : Act Workspace (List String) := do
  let path ← globalPath
  return if !path.isEmpty && (← get).has path then [path] else []

/-- The configuration files that could belong to a source file, the global one last. -/
def candidates (source : String) : Act Workspace (List String) := do
  return around (← get) source ++ (← fallback)

/-- The first of the files that can be loaded. -/
def firstLoaded : List String → Act Workspace (Option String)
  | [] => return none
  | path :: rest => do
    if (← load path).isSome then return some path else firstLoaded rest

/-- The configuration file that belongs to a source file. -/
def pathFor (source : String) : Act Workspace (Option String) := do
  match (← get).confs.sources.lookup source with
  | some known => return known
  | none =>
    let found ← match ← firstLoaded (around (← get) source) with
      | some path => pure (some path)
      | none => do firstLoaded (← fallback)
    modify fun workspace =>
      { workspace with confs := { workspace.confs with sources := (source, found) :: workspace.confs.sources } }
    return found

/-- The configuration that belongs to a source file. -/
def moduleFor (source : String) : Act Workspace (Option ConfModule) := do
  match ← pathFor source with
  | some path => load path
  | none => return none

/-- Calls a function of the global configuration file, if there is such a file and such a function. -/
def callGlobal (name : String) : Act Workspace Unit := do
  let path ← globalPath
  if path.isEmpty || !(← get).has path then return ()
  match ← load path true with
  | some module =>
    if module.file.methods.contains name then Workspace.record (.conf name)
  | none => return ()

def beforeStart : Act Workspace Unit := callGlobal "YcmCorePreload"

def shutdown : Act Workspace Unit := do
  callGlobal "VimClose"
  callGlobal "Shutdown"

def reset : Act Workspace Unit := modify fun workspace => { workspace with confs := {} }

/-- Asks a configuration for the flags of a file. -/
def flagsFor (module : ConfModule) (path : String) (data : Value) : Except Fault Value :=
  match module.file.style with
  | .named => .ok (module.file.result path data)
  | .plain => .ok (module.file.result path .null)
  | .fromData => do return .record [("flags", ← data.field "flags"), ("do_cache", .bool true)]
  | .missing => .error (.noFeature "the module gives no flags")

end Typeahead.Conf
