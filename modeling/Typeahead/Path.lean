import Typeahead.Text.Basic

namespace Typeahead.Path

/-! Paths with `/` between their parts. A path that starts with `/` is absolute. -/

def isAbsolute (path : String) : Bool := Text.startsWith path "/"

/-- Continues a path with another one; an absolute one starts afresh. -/
def join (path next : String) : String :=
  if isAbsolute next then next
  else if path.isEmpty || Text.endsWith path "/" then path ++ next
  else path ++ "/" ++ next

def joinAll (path : String) (parts : List String) : String := parts.foldl join path

/-- The part after the last separator, and what stands before it including the separator. -/
def cut (path : List Char) : List Char × List Char :=
  let tail := (path.reverse.takeWhile (· != '/')).reverse
  (path.take (path.length - tail.length), tail)

/-- Separators at the end go, unless there is nothing else. -/
def trimSeparators (path : List Char) : List Char :=
  let trimmed := (path.reverse.dropWhile (· == '/')).reverse
  if trimmed.isEmpty then path else trimmed

/-- The folder part. -/
def folderChars (path : List Char) : List Char := trimSeparators (cut path).1

def folder (path : String) : String := String.ofList (folderChars path.toList)

def nameChars (path : List Char) : List Char := (cut path).2

/-- The last part. -/
def name (path : String) : String := String.ofList (nameChars path.toList)

/-- A path without its extension, and the extension with its dot. Dots at the start of the name start no
extension. -/
def splitExtensionChars (path : List Char) : List Char × List Char :=
  let (before, name) := cut path
  let dots := name.takeWhile (· == '.')
  let rest := name.dropWhile (· == '.')
  let extension := (rest.reverse.takeWhile (· != '.')).reverse
  if rest.contains '.' then
    let stem := rest.take (rest.length - extension.length - 1)
    (before ++ dots ++ stem, '.' :: extension)
  else (path, [])

def splitExtension (path : String) : String × String :=
  let (stem, extension) := splitExtensionChars path.toList
  (String.ofList stem, String.ofList extension)

/-- Drops empty and `.` parts and lets `..` take back the part before it. -/
def resolveParts (rooted : Bool) (parts : List String) : List String :=
  let step (done : List String) (part : String) : List String :=
    if part.isEmpty || part == "." then done
    else if part == ".." then
      match done with
      | [] => if rooted then [] else [part]
      | last :: rest => if last == ".." then part :: done else rest
    else part :: done
  (parts.foldl step []).reverse

/-- The same path without detours. Exactly two separators at the start are kept. -/
def normalize (path : String) : String :=
  let root :=
    if Text.startsWith path "//" && !Text.startsWith path "///" then "//"
    else if isAbsolute path then "/" else ""
  let parts := resolveParts (!root.isEmpty) (Text.split '/' path)
  let result := root ++ Text.join "/" parts
  if result.isEmpty then "." else result

/-- The path seen from the root. -/
def absolute (workingFolder path : String) : String :=
  normalize (if isAbsolute path then path else join workingFolder path)

/-- Follows one part of a path. The folders so far stand the innermost first; a part that is a link leads to
the link's target. -/
def follow (links : List (String × String)) (folders : List String) (part : String) : List String :=
  if part.isEmpty || part == "." then folders
  else if part == ".." then folders.drop 1
  else
    let next := part :: folders
    match links.lookup ("/" ++ Text.join "/" next.reverse) with
    | some target => ((Text.split '/' target).filter fun part => !part.isEmpty).reverse
    | none => next

/-- The absolute path without detours and links. -/
def real (links : List (String × String)) (workingFolder path : String) : String :=
  let path := if isAbsolute path then path else join workingFolder path
  "/" ++ Text.join "/" ((Text.split '/' path).foldl (follow links) []).reverse

/-- Replaces a leading `~` by the home folder. -/
def expandHome (home path : String) : String :=
  match path.toList with
  | ['~'] => home
  | '~' :: '/' :: rest =>
    let home := String.ofList (home.toList.reverse.dropWhile (· == '/')).reverse
    home ++ "/" ++ String.ofList rest
  | _ => path

theorem isPrefix_trimSeparators (path : List Char) : trimSeparators path <+: path := by
  simp only [trimSeparators]
  split
  · exact List.prefix_refl path
  · rw [← List.reverse_suffix, List.reverse_reverse]
    exact List.dropWhile_suffix _

theorem isPrefix_folderChars (path : List Char) : folderChars path <+: path :=
  (isPrefix_trimSeparators _).trans (List.take_prefix _ _)

theorem length_folderChars_lt {path : List Char} (named : (nameChars path).isEmpty = false) :
    (folderChars path).length < path.length := by
  have within : (nameChars path).length ≤ path.length := by
    simp only [nameChars, cut, List.length_reverse]
    exact Nat.le_trans (List.takeWhile_sublist _).length_le (by simp)
  have some : 0 < (nameChars path).length := by
    cases equal : nameChars path with
    | nil => simp [equal] at named
    | cons => simp
  have before : (cut path).1.length = path.length - (nameChars path).length := by
    simp only [cut, nameChars, List.length_take]
    omega
  have := (isPrefix_trimSeparators (cut path).1).length_le
  simp only [folderChars]
  omega

theorem length_folder_le (path : String) : (folder path).length ≤ path.length := by
  rw [folder, String.length_ofList, ← String.length_toList]
  exact (isPrefix_folderChars path.toList).length_le

/-- A path that is not its own folder is longer than its folder. -/
theorem length_folder_lt {path : String} (moves : folder path ≠ path) : (folder path).length < path.length := by
  refine Nat.lt_of_le_of_ne (length_folder_le path) fun same => moves ?_
  rw [folder, String.length_ofList, ← String.length_toList] at same
  rw [folder, (isPrefix_folderChars path.toList).eq_of_length same, String.ofList_toList]

/-- The parts of a path: a root stands for itself. -/
def componentChars (path : List Char) : List (List Char) :=
  let last := nameChars path
  let before := folderChars path
  if named : last.isEmpty then (if before.isEmpty then [] else [before])
  else
    have := length_folderChars_lt (by simpa using named)
    componentChars before ++ [last]
termination_by path.length

def components (path : String) : List String := (componentChars path.toList).map String.ofList

/-- All folders that enclose a file, the nearest first. -/
def enclosing (path : String) : List String :=
  let parts := components (folder path)
  let folders := (List.range parts.length).map fun index =>
    match parts.take (index + 1) with
    | [] => ""
    | first :: rest => joinAll first rest
  folders.reverse

/-- Drops what two lists of parts have in common at their start. -/
def dropCommon : List String → List String → List String × List String
  | left :: lefts, right :: rights =>
    if left == right then dropCommon lefts rights else (left :: lefts, right :: rights)
  | lefts, rights => (lefts, rights)

/-- The way from a folder to a path; both are absolute. -/
def relative (folder path : String) : String :=
  let parts (path : String) : List String := (Text.split '/' (normalize path)).filter (!·.isEmpty)
  let (up, down) := dropCommon (parts folder) (parts path)
  match up.map (fun _ => "..") ++ down with
  | [] => "."
  | steps => Text.join "/" steps

end Typeahead.Path
