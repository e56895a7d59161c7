import Typeahead.Text.Basic
import Typeahead.Fault
import Typeahead.Path

namespace Typeahead.Flags

/-! Compiler flags, made ready for an engine that only analyses a file: flags that name outputs, other
files or machine types go. -/

open Text

/-- Flags that take a folder or file as the flag behind them. -/
def includeFlags : List String := ["-isystem", "-I", "-iquote", "--sysroot=", "-isysroot", "-include"]

/-- What the flag before has been, where it matters for the next one. -/
structure Previous where
  skipNext : Bool := false
  isInclude : Bool := false
  startsWithDash : Bool := false

/-- Drops `-c`, `-o` with its file, the file itself and stray file names. `real` resolves a path. -/
def removeUnusedFrom (real : String → String) (filename : String) (previous : Previous) : List String → List String
  | [] => []
  | flag :: rest =>
    let dashed := startsWith flag "-"
    if previous.skipNext || flag == "-c" || flag == "-o" || flag == filename || real flag == filename ||
        (!dashed && (!previous.startsWithDash || (!previous.isInclude && contains flag "/"))) then
      removeUnusedFrom real filename
        { previous with skipNext := !previous.skipNext && flag == "-o", startsWithDash := dashed } rest
    else
      flag :: removeUnusedFrom real filename
        { skipNext := false, isInclude := includeFlags.contains flag, startsWithDash := dashed } rest

/-- A first flag without a dash is the compiler. -/
def withoutCompiler (flags : List String) : Except Fault (List String) :=
  match flags with
  | [] => .error .outOfRange
  | first :: rest => .ok (if startsWith first "-" then flags else rest)

def removeUnused (real : String → String) (flags : List String) (filename : String) : Except Fault (List String) :=
  (withoutCompiler flags).map (removeUnusedFrom real filename {})

/-- Drops machine flags: `-arch` with the flag behind it, and whatever else starts like it. -/
def sanitizeFrom (skipNext : Bool) : List String → List String
  | [] => []
  | flag :: rest =>
    if flag == "-arch" then sanitizeFrom true rest
    else if startsWith flag "-arch" then sanitizeFrom skipNext rest
    else if skipNext then sanitizeFrom false rest
    else flag :: sanitizeFrom false rest

def sanitize (flags : List String) : List String := sanitizeFrom false flags

def prepare (real : String → String) (flags : List String) (filename : String) : Except Fault (List String) :=
  (removeUnused real flags filename).map sanitize

/-- Drops a leading compiler, if any. -/
def dropCompiler (flags : List String) : List String :=
  match flags with
  | [] => []
  | first :: rest => if startsWith first "-" then flags else rest

/-- Flags that are followed by, or run on into, a folder. -/
def folderFlags : List String := ["-isystem", "-I", "-iquote"]

/-- The folders a single flag names by running on into them. -/
def attachedFolders : List String → String → List String
  | [], _ => []
  | start :: rest, flag =>
    if flag == start then []
    else if startsWith flag start then drop start.length flag :: attachedFolders rest flag
    else attachedFolders rest flag

/-- The folders that flags name for include files. -/
def includeFoldersFrom (nextIsFolder : Bool) : List String → List String
  | [] => []
  | flag :: rest =>
    (if nextIsFolder then [flag] else []) ++ attachedFolders folderFlags flag ++
      includeFoldersFrom (folderFlags.contains flag) rest

def includeFolders (flags : List String) : List String :=
  (includeFoldersFrom false flags).filter (!·.isEmpty)

end Typeahead.Flags
