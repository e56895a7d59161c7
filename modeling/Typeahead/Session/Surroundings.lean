import Typeahead.Session.Basic
import Typeahead.Options
import Typeahead.Completer.Available

namespace Typeahead.Session

/-! The surroundings of a session, read from records: files, options, and what the editor, the servers, the
analyses and the compiler front end answer. -/

def contentOf (value : Value) : Content :=
  match value with
  | .text content => .text content
  | value => match value.field? "conf" with
    | some conf =>
      let style := match fieldOr conf "style" (.text "kwargs") with
        | .text "plain" => .plain
        | .text "client_flags" => .fromData
        | .text "missing" => .missing
        | _ => .named
      let methods := (itemsOf (fieldOr conf "methods" .null)).map textOrEmpty
      .conf { result := fun _ _ => fieldOr conf "result" .null, style, methods }
    | none => .text ""

/-- Writes a file below a folder; a path that ends with a separator is a folder. -/
def writeEntry (folder : String) (files : Files) (path : String) (value : Value) (modified : Option Float) : Files :=
  let full := Path.absolute folder (Path.join folder path)
  if Text.endsWith path "/" then files.makeFolder full else files.write full (contentOf value) modified

def writeStep (step : Value) : Act Workspace Value := do
  let path ← textField step "path"
  let content ← step.field "content"
  let modified ← match step.field? "mtime" with
    | none | some .null => pure none
    | some value => do pure (some (← value.asFloat))
  modify fun workspace =>
    { workspace with files := writeEntry workspace.places.working workspace.files path content modified }
  return .null

def locationOf (value : Value) : Frontend.Location :=
  match value with
  | .list [path, line, column] => ⟨textOrEmpty path, intOrZero line, intOrZero column⟩
  | _ => {}

def rangeOf (value : Value) : Frontend.Range :=
  match value with
  | .list [start, stop] => ⟨locationOf start, locationOf stop⟩
  | _ => {}

/-- A chunk, with pieces down to a depth. -/
def chunkOf (depth : Nat) (value : Value) : Frontend.Chunk :=
  let items := itemsOf value
  let kind := intOrZero (items[0]?.getD .null)
  let nested := match depth with
    | 0 => []
    | depth + 1 => (itemsOf (items[2]?.getD .null)).map (chunkOf depth)
  .mk (.ofCode kind) (textOrEmpty (items[1]?.getD .null)) nested

/-- A finding, with those that explain it down to a depth. -/
def findingOf (depth : Nat) (value : Value) : Frontend.Finding :=
  let children := match depth with
    | 0 => []
    | depth + 1 =>
      ((itemsOf (fieldOr value "children" .null)).filter fun child => !(child matches .null)).map (findingOf depth)
  .mk (intOrZero (fieldOr value "severity" .null)) (locationOf (fieldOr value "location" .null))
    (textOrEmpty (fieldOr value "spelling" .null)) (textOrEmpty (fieldOr value "formatted" .null))
    ((itemsOf (fieldOr value "ranges" .null)).map rangeOf) children

def offerOf (value : Value) : Frontend.Offer :=
  { chunks := if (fieldOr value "null" .null).isPresent then none
      else some ((itemsOf (fieldOr value "chunks" .null)).map (chunkOf value.depth))
    availability := intOrZero (fieldOr value "availability" (.int 0))
    cursorKind := intOrZero (fieldOr value "cursor" (.int 1)) }

def tokenOf (value : Value) : Frontend.Token :=
  match value with
  | .list [path, line, column, spelling] => ⟨locationOf (.list [path, line, column]), textOrEmpty spelling⟩
  | _ => ⟨{}, ""⟩

def symbolOf (value : Value) : Frontend.Symbol :=
  let place := itemsOf (fieldOr value "at" .null)
  { line := intOrZero (place[0]?.getD .null), column := intOrZero (place[1]?.getD .null)
    location := locationOf (fieldOr value "location" .null)
    kind := intOrZero (fieldOr value "kind" (.int 1))
    referenced := intOrZero (fieldOr value "referenced" (.int (-1)))
    definition := intOrZero (fieldOr value "definition" (.int (-1))) }

def commandOf (value : Value) : Frontend.Command :=
  { folder := textOrEmpty (fieldOr value "directory" .null)
    arguments := (itemsOf (fieldOr value "args" .null)).map textOrEmpty }

def frontendOf (script : Value) : Frontend :=
  { parseFails := flagOr script "parse_fails" false, reparseFails := flagOr script "reparse_fails" false
    hasNoResults := flagOr script "null_results" false
    offers := (itemsOf (fieldOr script "completions" .null)).map offerOf
    findings := (itemsOf (fieldOr script "diagnostics" .null)).map (findingOf script.depth)
    tokens := (itemsOf (fieldOr script "tokens" .null)).map tokenOf
    symbols := (itemsOf (fieldOr script "cursors" .null)).map symbolOf
    databases := (fieldsOf (fieldOr script "databases" .null)).map fun (folder, files) =>
      (folder, (fieldsOf files).map fun (path, commands) => (path, (itemsOf commands).map commandOf)) }

def preparedOf (script : Value) : PreparedEngine :=
  let completion (value : Value) : Frontend.Completion :=
    let text (key : String) : String := textOrEmpty (fieldOr value key .null)
    { insertion := text "insert", menu := text "main", returnType := text "extra", detailed := text "detailed"
      kind := text "kind" }
  let diagnostic (value : Value) : Frontend.Diagnostic :=
    { location := locationOf (fieldOr value "location" .null), extent := rangeOf (fieldOr value "extent" .null)
      ranges := (itemsOf (fieldOr value "ranges" .null)).map rangeOf
      kind := textOrEmpty (fieldOr value "kind" .null), text := textOrEmpty (fieldOr value "text" .null)
      long := textOrEmpty (fieldOr value "long" .null) }
  { isUpdating := fieldOr script "updating" (.bool false)
    completions := (itemsOf (fieldOr script "candidates" .null)).map completion
    diagnostics := (itemsOf (fieldOr script "diagnostics" .null)).map diagnostic
    definition := (script.field? "definition").map locationOf
    declaration := (script.field? "declaration").map locationOf }

def analysisOf (script : Value) : Analysis :=
  let definition (value : Value) : Definition :=
    { path := fieldOr value "path" .null, line := fieldOr value "line" .null, column := fieldOr value "column" .null
      isKeyword := flagOr value "keyword" false, description := fieldOr value "description" (.text "")
      isBuiltin := flagOr value "builtin" false }
  let found (key : String) : Option (List Definition) :=
    match fieldOr script key (.list []) with
    | .text _ => none
    | value => some ((itemsOf value).map definition)
  { completions := itemsOf (fieldOr script "completions" .null), definitions := found "definitions"
    assignments := found "assignments" }

def bufferOf (value : Value) : Buffer :=
  { name := textOrEmpty (fieldOr value "name" .null), number := intOrZero (fieldOr value "number" (.int 1))
    lines := (itemsOf (fieldOr value "lines" (.list [.text ""]))).map textOrEmpty }

def editorAnswerOf (value : Value) : Except String Value :=
  match value.field? "vim_error" with
  | some complaint => .error (textOrEmpty complaint)
  | none => .ok value

def editorAnswersOf (value : Value) : List (String × Except String Value) :=
  (itemsOf value).filterMap fun entry => match entry with
    | .list [start, answer] => some (textOrEmpty start, editorAnswerOf answer)
    | _ => none

/-- A line and a column. -/
def cursorOf (value : Value) : Value × Value :=
  match value with
  | .list [line, column] => (line, column)
  | _ => (.int 1, .int 0)

/-- Puts the answers of a script over those of an editor. -/
def setEditorAnswers (script : Value) (editor : Editor) : Editor :=
  { editor with
    line := match script.field? "line" with
      | some .null | none => editor.line
      | some line => some line
    answers := ((script.field? "evals").map editorAnswersOf).getD editor.answers
    globals := (script.field? "vars").or editor.globals }

def editorOf (script : Value) : Editor :=
  setEditorAnswers script
    { buffers := ((script.field? "buffers").map fun buffers => (itemsOf buffers).map bufferOf).getD [{}]
      current := intOrZero (fieldOr script "current" (.int 0))
      cursor := cursorOf (fieldOr script "cursor" .null) }

def replyOf (value : Value) : Reply :=
  let body := fieldOr value "json" .null
  { status := intOrZero (fieldOr value "status" (.int 200)), body
    isEmpty := match value.field? "text" with
      | some text => !text.isPresent
      | none => body matches .null
    failure := (value.field? "raise").map textOrEmpty }

/-- Puts the replies of a script over those that are ready. -/
def setReplies (script : Value) (wire : Wire) : Wire :=
  (fieldsOf script).foldl (fun wire (name, value) =>
    if name == "pending" then { wire with isPending := value.isPresent }
    else { wire with queues := Table.put name ((itemsOf value).map replyOf) wire.queues }) wire

/-- Replaces what one of the surroundings answers. -/
def setAnswers (name : String) (script : Value) (workspace : Workspace) : Option Workspace :=
  match name with
  | "jedi" => some { workspace with analysis := analysisOf script }
  | "omnisharp" => some { workspace with solution := fieldsOf script }
  | "vim" => some { workspace with editor := editorOf script }
  | "http" => some { workspace with wire := setReplies script {} }
  | "popen" => some { workspace with processEnd := fieldOr script "returncode" .null }
  | "clang" => some { workspace with semantic := some (preparedOf script) }
  | "libclang" => some { workspace with frontend := some (frontendOf script) }
  | _ => none

def scriptStep (name : String) (script : Value) : Act Workspace Value := do
  match setAnswers name script (← get) with
  | some workspace =>
    set workspace
    return .null
  | none => unknownStep name

/-- The workspace that an input describes, in given places. -/
def workspaceOf (places : Places) (input : Value) : Workspace :=
  let files := (({} : Files).makeFolder places.working).makeFolder places.temporary
  let files := (fieldsOf (fieldOr input "files" .null)).foldl
    (fun files (path, value) => writeEntry places.working files path value none) files
  let files := Completer.hooks.foldl (fun files name =>
    files.write (Completer.hookPath { places } name) (.text "") none) files
  let workspace : Workspace :=
    { places, files, options := Value.Fields.update Options.defaults (fieldsOf (fieldOr input "options" .null))
      freePort := 54321
      platform := textOrEmpty (fieldOr input "platform" (.text "linux"))
      hasEditor := !flagOr input "no_vim" false
      serverIsHealthy := fieldOr input "server_healthy" (.bool false)
      coreVersion := match input.field? "core_version" with
        | none => some (.int 9)
        | some .null => none
        | some version => some version
      snippets := input.field? "ultisnips" }
  ["vim", "http", "jedi", "omnisharp", "popen", "clang", "libclang"].foldl (fun workspace name =>
    match input.field? name with
    | some script => (setAnswers name script workspace).getD workspace
    | none => workspace) workspace

end Typeahead.Session
