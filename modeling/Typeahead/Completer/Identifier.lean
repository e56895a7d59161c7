import Typeahead.Completer.Basic
import Typeahead.Identifier.Database
import Typeahead.Identifier.Search
import Typeahead.Cursor
import Typeahead.Response

namespace Typeahead.Completer

/-! Identifiers seen in buffers, in tags files and among the keywords of a filetype. -/

structure IdentifierState where
  core : Core
  database : Identifier.Database := {}
  /-- When each tags file had been changed as it was last read. -/
  tagTimes : List (String × Float) := []

namespace IdentifierState

abbrev Doing := Act (IdentifierState × Workspace)

def onDatabase {α : Type} (act : Act Identifier.Database α) : Doing α :=
  Act.on (·.1.database) (fun database (state, workspace) => ({ state with database }, workspace)) act

/-- How many completions are given at most. -/
def limit : Nat := 10

/-- The candidates of at least a given length. -/
def removeSmall (candidates : List String) (minimum : Value) : Except Fault (List String) := do
  if minimum.same (.int 0) then return candidates
  let kept ← candidates.mapM fun candidate => do
    return (candidate, !(← (Value.int candidate.length).less minimum))
  return (kept.filter (·.2)).map (·.1)

def shouldUse (request : Value) : Doing Bool := do isLongEnough (← get).1.core.settings.minimum request

def compute (request : Value) : Doing Value := do
  if !(← shouldUse request) then return .list []
  let query := Text.strip (← (← request.field "query").asTextFor "strip")
  let filetype := (← (← request.field "filetypes").item 0).display
  let (state, _) ← get
  let found ← state.database.query (Bytes.ofString query) (Bytes.ofString filetype)
  let shown := (found.take limit).map Bytes.toString
  let long ← removeSmall shown (← state.core.settings.option "min_num_identifier_candidate_chars")
  return .list (long.map fun text => Response.completion (.text text) {})

def sourceOf (filetype path : Value) : Identifier.Source :=
  ⟨Bytes.ofString filetype.display, Bytes.ofString path.display⟩

def add (identifier request : Value) : Doing Unit := do
  let filetype ← (← request.field "filetypes").item 0
  let path ← request.field "filepath"
  if filetype.isPresent && path.isPresent && identifier.isPresent then
    onDatabase (modify (·.add (sourceOf filetype path) [Bytes.ofString identifier.display]))

def addPrevious (request : Value) : Doing Unit := do
  let minimum ← (← get).1.core.settings.option "min_num_of_chars_for_completion"
  add (.text (← Cursor.previousIn minimum request)) request

def addUnderCursor (request : Value) : Doing Unit := do
  let identifier ← Cursor.currentIn request
  if !identifier.isEmpty then add (.text identifier) request

def addBuffer (request : Value) : Doing Unit := do
  let filetype ← (← request.field "filetypes").item 0
  let path ← request.field "filepath"
  let fromIgnored := (← (← get).1.core.settings.option "collect_identifiers_from_comments_and_strings").isPresent
  if filetype.isPresent && path.isPresent then
    let contents ← (← (← request.field "file_data").field (← path.asText)).field "contents"
    onDatabase (Identifier.Database.addBuffer Identifier.Search.givesUp (sourceOf filetype path)
      (Bytes.ofString contents.display) fromIgnored)

/-- The tags files that have changed since they were read; their times are noted. -/
def changedTags (paths : List Value) : Doing (List String) := do
  let mut changed := []
  for path in paths do
    let (state, workspace) ← get
    if let .text path := path then
      let time? := if workspace.hasFolder path then some (workspace.files.timeOfWrite)
        else (workspace.file? path).map (·.modified)
      if let some time := time? then
        if !(time ≤ (state.tagTimes.lookup path).getD 0) then
          set ({ state with tagTimes := Table.put path time state.tagTimes }, workspace)
          changed := changed ++ [path]
  return changed

def addTags (paths : Value) : Doing Unit := do
  let changed ← changedTags (← paths.elements)
  let (_, workspace) ← get
  for path in changed do
    onDatabase (modify (·.addTags (Bytes.ofString path) (Bytes.ofString ((workspace.contents? path).getD ""))))

/-- The file under which the keywords of a filetype are known. -/
def keywordFile : String := "YCM_PLACEHOLDER_FOR_SYNTAX"

def addKeywords (keywords filetypes : Value) : Doing Unit := do
  let texts := (← keywords.elements).map Value.display
  let first ← filetypes.item 0
  let path ← (Value.text keywordFile).plus first
  onDatabase (modify (·.add (sourceOf first path) (texts.map Bytes.ofString)))

def notice (notice : Notice) (request : Value) : Doing Value := do
  match notice with
  | .fileReadyToParse =>
    addBuffer request
    if ← request.holds (.text "tag_files") then addTags (← request.field "tag_files")
    if ← request.holds (.text "syntax_keywords") then
      addKeywords (← request.field "syntax_keywords") (← request.field "filetypes")
  | .insertLeave => addUnderCursor request
  | .identifierFinished => addPrevious request
  | .bufferVisit | .bufferUnload => pure ()
  return .null

end IdentifierState

def identifier : Completer IdentifierState where
  core := (·.core)
  putCore core state := { state with core }
  supported := []
  applies := appliesByTrigger (·.core) []
  gather _ := return .null
  decides := some IdentifierState.shouldUse
  computes := some IdentifierState.compute
  notice := IdentifierState.notice

end Typeahead.Completer
