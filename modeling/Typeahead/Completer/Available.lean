import Typeahead.Workspace

namespace Typeahead.Completer

/-! Which filetypes have a completer of their own: those with a hook file in the program's folder. -/

def folder (workspace : Workspace) : String := Path.join workspace.places.install "python/ycm/completers"

/-- The file that makes the completer of a filetype. -/
def hookPath (workspace : Workspace) (filetype : String) : String :=
  Path.joinAll (folder workspace) [filetype, "hook.py"]

def existsFor (workspace : Workspace) (filetype : String) : Bool := workspace.has (hookPath workspace filetype)

/-- The hook files a complete installation has. -/
def hooks : List String := ["c", "cpp", "cs", "objc", "objcpp", "python"]

end Typeahead.Completer
