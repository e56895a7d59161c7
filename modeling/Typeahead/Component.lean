import Typeahead.Fault
import Typeahead.Text.Basic

namespace Typeahead

/-! The parts the program is loaded from, and what each of them needs to be there. -/

/-- Something a part needs when it is loaded. -/
inductive Need where
  /-- Another part, of the program or of the installation. -/
  | part (name : String)
  /-- The native part, without which there is no server. -/
  | core
  /-- The analysis of sources, whose absence is explained. -/
  | analysis
  /-- The snippets, which the program does without. -/
  | snippets
  /-- A ranking of candidates: the editor's own where there is an editor, else the native part's. -/
  | ranking

/-- What is known of a part once it is loaded. -/
structure Loaded where
  hasSnippets : Option Bool := none
  /-- Where the ranking of candidates comes from. -/
  ranking : Option String := none

namespace Component

/-- Which parts cannot be had, and whether the snippets can. -/
structure Installation where
  folder : String
  missing : List String := []
  hasSnippets : Bool := false

def coreMissing (folder : String) : String :=
  "Error importing ycm_core. Are you sure you have placed a version 3.2+ libclang.[so|dll|dylib] in folder \"" ++
  folder ++ "\"? See the Installation Guide in the docs. Full error: import of ycm_core halted; None in sys.modules"

def analysisMissing : String :=
  "Error importing jedi. Make sure the jedi submodule has been checked out. In the YouCompleteMe folder, run " ++
  "\"git submodule update --init --recursive\""

def require (installation : Installation) (name : String) : Except Fault Unit :=
  if installation.missing.contains name then .error (.noModule name) else .ok ()

/-- Gets one thing that a part needs. -/
def supply (installation : Installation) (loaded : Loaded) : Need → Except Fault Loaded
  | .part name => do
    require installation name
    return loaded
  | .core =>
    if installation.missing.contains "ycm_core" then .error (.failed (coreMissing installation.folder)) else .ok loaded
  | .analysis =>
    if installation.missing.contains "jedi" then .error (.unusableModule analysisMissing) else .ok loaded
  | .snippets =>
    .ok { loaded with
      hasSnippets := some (installation.hasSnippets && !installation.missing.contains "UltiSnips") }
  | .ranking => do
    let source := if installation.missing.contains "vim" then "ycm_core" else "ycm_client_support"
    require installation source
    return { loaded with ranking := some source }

/-- The names of the groups a part lies in, from the outermost on, and its own. -/
def path (name : String) : List String :=
  let parts := Text.split '.' name
  (List.range parts.length).map fun count => Text.join "." (parts.take (count + 1))

def parts (names : List String) : List Need := names.map .part

/-- The parts of the program, each with what it needs in the order in which it asks for it. -/
def needs : List (String × List Need) :=
  [("ycm", []),
   ("ycm.base", parts ["vim", "ycm", "ycm_client_support"]),
   ("ycm.client", []),
   ("ycm.client.base_request", parts ["vim", "requests", "urlparse", "retries", "requests_futures.sessions",
    "ycm.unsafe_thread_pool_executor", "ycm", "ycm.utils", "ycm.server.responses"]),
   ("ycm.client.command_request", parts ["vim", "ycm.client.base_request", "ycm", "ycm.utils"]),
   ("ycm.client.completion_request", parts ["ycm", "ycm.utils", "ycm.client.base_request"]),
   ("ycm.client.event_notification", parts ["ycm", "ycm.server.responses", "ycm.client.base_request"]),
   ("ycm.client.omni_completion_request", parts ["ycm.client.completion_request"]),
   ("ycm.client.ycmd_keepalive", parts ["time", "threading", "ycm.client.base_request"]),
   ("ycm.completers", []),
   ("ycm.completers.all", []),
   ("ycm.completers.all.identifier_completer", parts ["os", "logging", "ycm_core", "collections",
    "ycm.completers.general_completer", "ycm", "ycm.utils", "ycm.server"]),
   ("ycm.completers.all.omni_completer", parts ["vim", "ycm", "ycm.completers.completer",
    "ycm.client.base_request"]),
   ("ycm.completers.c.hook", parts ["ycm_core", "ycm.completers.cpp.clang_completer"]),
   ("ycm.completers.completer", parts ["abc", "threading", "collections", "ycm.utils"] ++ [.ranking] ++ parts
    ["ycm.completers.completer_utils", "ycm.server.responses"]),
   ("ycm.completers.completer_utils", parts ["collections", "copy", "os"]),
   ("ycm.completers.cpp", []),
   ("ycm.completers.cpp.clang_completer", parts ["collections", "ycm_core", "ycm.server", "ycm", "ycm.utils",
    "ycm.completers.completer", "ycm.completers.cpp.flags"]),
   ("ycm.completers.cpp.clang_helpers", []),
   ("ycm.completers.cpp.flags", parts ["ycm_core", "os", "inspect", "ycm", "ycm.utils", "ycm.server.responses"]),
   ("ycm.completers.cpp.hook", parts ["ycm_core", "ycm.completers.cpp.clang_completer"]),
   ("ycm.completers.cs", []),
   ("ycm.completers.cs.cs_completer", parts ["os", "glob", "ycm.completers.completer", "ycm.server", "ycm",
    "urllib2", "urllib", "urlparse", "json", "logging"]),
   ("ycm.completers.cs.hook", parts ["ycm.completers.cs.cs_completer"]),
   ("ycm.completers.general", []),
   ("ycm.completers.general.filename_completer", parts ["os", "re", "collections", "ycm.completers.completer",
    "ycm.completers.cpp.clang_completer", "ycm.completers.cpp.flags", "ycm.utils", "ycm.server"]),
   ("ycm.completers.general.general_completer_store", parts ["ycm.completers.completer",
    "ycm.completers.all.identifier_completer", "ycm.completers.general.filename_completer",
    "ycm.completers.general.ultisnips_completer"]),
   ("ycm.completers.general.syntax_parse", parts ["re", "vim", "ycm"]),
   ("ycm.completers.general.ultisnips_completer", parts ["ycm.completers.general_completer", "ycm.server"]),
   ("ycm.completers.general_completer", parts ["ycm.completers.completer"]),
   ("ycm.completers.objc.hook", parts ["ycm_core", "ycm.completers.cpp.clang_completer"]),
   ("ycm.completers.objcpp.hook", parts ["ycm_core", "ycm.completers.cpp.clang_completer"]),
   ("ycm.completers.python", []),
   ("ycm.completers.python.hook", parts ["ycm.completers.python.jedi_completer"]),
   ("ycm.completers.python.jedi_completer", parts ["ycm.completers.completer", "ycm.server"] ++ [.analysis]),
   ("ycm.diagnostic_interface", parts ["collections", "ycm", "vim"]),
   ("ycm.extra_conf_store", parts ["os", "imp", "random", "string", "sys", "logging", "threading", "ycm",
    "ycm.server.responses", "fnmatch"]),
   ("ycm.server", []),
   ("ycm.server.handlers", parts ["os"] ++ [.core] ++ parts ["atexit", "logging", "json", "bottle", "httplib",
    "server_state", "ycm", "ycm.server.responses"]),
   ("ycm.server.responses", parts ["os"]),
   ("ycm.server.server_state", parts ["imp", "os", "ycm.utils", "ycm.completers.general.general_completer_store",
    "ycm.completers.completer_utils"]),
   ("ycm.server.server_utils", parts ["sys", "os"]),
   ("ycm.server.watchdog_plugin", parts ["time", "os", "copy", "ycm", "threading"]),
   ("ycm.server.ycmd", parts ["server_utils", "sys", "logging", "json", "argparse", "waitress", "signal", "os",
    "ycm", "ycm.server.watchdog_plugin"]),
   ("ycm.unsafe_thread_pool_executor", parts ["threading", "weakref", "sys", "concurrent.futures", "queue"]),
   ("ycm.user_options_store", parts ["json", "os", "frozendict"]),
   ("ycm.utils", parts ["tempfile", "os", "sys", "signal", "functools", "socket", "stat", "json",
    "distutils.spawn", "subprocess", "collections"]),
   ("ycm.vimsupport", parts ["vim", "os", "json", "ycm.utils", "ycm"]),
   ("ycm.youcompleteme", parts ["os", "vim", "tempfile", "json", "signal", "subprocess", "ycm",
    "ycm.diagnostic_interface", "ycm.completers.all.omni_completer", "ycm.completers.general",
    "ycm.completers.completer_utils", "ycm.client.ycmd_keepalive", "ycm.client.base_request",
    "ycm.client.command_request", "ycm.client.completion_request", "ycm.client.omni_completion_request",
    "ycm.client.event_notification", "ycm.server.responses"] ++ [.snippets])]

/-- Loads a part of the program. -/
def load (installation : Installation) (name : String) : Except Fault Loaded := do
  let some asked := needs.lookup name | .error (.noModule name)
  (path name).forM (require installation)
  asked.foldlM (supply installation) {}

end Component

end Typeahead
