import Typeahead.Text.Basic
import Typeahead.Path

namespace Typeahead.Flags

/-! A project's own flags, with relative folders seen from a working folder. -/

open Text

/-- Flags whose folder is made absolute. -/
def relocatedFlags : List String := ["-isystem", "-I", "-iquote", "--sysroot="]

/-- A flag that runs on into a folder, with the folder seen from the working folder. -/
def relocateAttached (workingFolder flag : String) : Option String :=
  (relocatedFlags.find? fun start => startsWith flag start).map fun start =>
    start ++ Path.join workingFolder (drop start.length flag)

def relocateFrom (workingFolder : String) (nextIsFolder : Bool) : List String → List String
  | [] => []
  | flag :: rest =>
    let alone := if nextIsFolder && !Path.isAbsolute flag then Path.join workingFolder flag else flag
    let exact := relocatedFlags.contains flag
    let relocated := if exact then alone else (relocateAttached workingFolder flag).getD alone
    let rest := relocateFrom workingFolder exact rest
    if relocated.isEmpty then rest else relocated :: rest

/-- Makes the folders in flags absolute. Without a working folder nothing changes. -/
def relocate (flags : List String) (workingFolder : String) : List String :=
  if workingFolder.isEmpty then flags else relocateFrom workingFolder false flags

def isHeader (filename : String) : Bool :=
  [".h", ".hxx", ".hpp", ".hh"].contains (Path.splitExtension filename).2

def sourceExtensions : List String := [".cpp", ".cxx", ".cc", ".c", ".m", ".mm"]

end Typeahead.Flags
