import Typeahead.Value
import Typeahead.Path

namespace Typeahead

/-! A tree of files. Paths are looked up part by part, so that a detour through a missing folder leads
nowhere. -/

/-- How the flags function of a configuration file is called. -/
inductive ConfStyle where
  /-- With the file's name and further named data. -/
  | named
  /-- With the file's name only. -/
  | plain
  /-- With named data, out of which it takes the flags. -/
  | fromData
  /-- There is no such function. -/
  | missing
  deriving DecidableEq, Repr

/-- A configuration file: what its flags function gives and which other functions it has. -/
structure ConfFile where
  /-- What the flags function gives for the name of a file and further data. -/
  result : String → Value → Value := fun _ _ => .null
  style : ConfStyle := .named
  methods : List String := []

inductive Content where
  | text (content : String)
  | conf (file : ConfFile)

structure File where
  content : Content
  modified : Float

structure Files where
  files : List (String × File) := []
  folders : List String := ["/"]
  /-- Folders that are open to everybody. -/
  shared : List String := []
  /-- How many files have been written so far. -/
  writes : Nat := 0

namespace Files

def isFolderAt (files : Files) (path : String) : Bool := files.folders.contains path

def fileAt? (files : Files) (path : String) : Option File := files.files.lookup path

def existsAt (files : Files) (path : String) : Bool := files.isFolderAt path || (files.fileAt? path).isSome

/-- Follows the parts of a path from a folder; only folders lead on. -/
def walk (files : Files) (here : String) : List String → Option String
  | [] => some here
  | part :: rest =>
    if !files.isFolderAt here then none
    else if part.isEmpty || part == "." then walk files here rest
    else if part == ".." then walk files (Path.folder here) rest
    else
      let next := Path.join here part
      if files.existsAt next then walk files next rest else none

/-- The absolute path of something that exists. -/
def locate? (files : Files) (workingFolder path : String) : Option String :=
  if path.isEmpty then none
  else
    let start := if Path.isAbsolute path then "/" else workingFolder
    files.walk start (Text.split '/' path)

def file? (files : Files) (workingFolder path : String) : Option File :=
  (files.locate? workingFolder path).bind files.fileAt?

def has (files : Files) (workingFolder path : String) : Bool := (files.locate? workingFolder path).isSome

def hasFolder (files : Files) (workingFolder path : String) : Bool :=
  match files.locate? workingFolder path with
  | some found => files.isFolderAt found
  | none => false

def hasFile (files : Files) (workingFolder path : String) : Bool := (files.file? workingFolder path).isSome

/-- The names in a folder, in the order of their characters; nothing for what is no folder. -/
def names? (files : Files) (workingFolder path : String) : Option (List String) :=
  match files.locate? workingFolder path with
  | none => none
  | some folder =>
    if !files.isFolderAt folder then none
    else
      let inside := (files.files.map (·.1) ++ files.folders).filter fun entry =>
        entry != "/" && Path.folder entry == folder
      some (Text.sorted (inside.map Path.name))

private def addOnce (items : List String) (item : String) : List String :=
  if items.contains item then items else items ++ [item]

/-- Makes a folder with all those around it. -/
def makeFolder (files : Files) (path : String) : Files :=
  let all := (path :: Path.enclosing path).reverse
  { files with folders := all.foldl addOnce files.folders }

/-- Makes a folder that is open to everybody. -/
def makeSharedFolder (files : Files) (path : String) : Files :=
  let files := files.makeFolder path
  { files with shared := addOnce files.shared path }

/-- The time of a write that names none: later than any before it. -/
def timeOfWrite (files : Files) : Float := 1700000000.0 + Float.ofNat files.writes

/-- Writes a file at an absolute path, and makes the folders around it. -/
def write (files : Files) (path : String) (content : Content) (modified : Option Float) : Files :=
  let files := match Path.enclosing path with
    | folder :: _ => files.makeFolder folder
    | [] => files
  { files with
    files := Table.put path ⟨content, modified.getD files.timeOfWrite⟩ files.files
    writes := files.writes + 1 }

def remove (files : Files) (path : String) : Files :=
  { files with files := files.files.filter fun (name, _) => name != path }

end Files

end Typeahead
