import Typeahead.Cursor
import Typeahead.Highlight.Keyword
import Typeahead.Workspace

namespace Typeahead.Editor

/-! The editor: expressions it evaluates, commands it carries out, its buffers and its cursor. -/

/-- The prepared answer to an expression: the first one for a text it starts with. -/
def answer? (editor : Editor) (expression : String) : Option (Except String Value) :=
  (editor.answers.find? fun entry => Text.startsWith expression entry.1).map (·.2)

def evaluate (expression : String) : Act Workspace Value := do
  Workspace.record (.evaluate expression)
  match (← get).editor.answer? expression with
  | some (.ok value) => return value
  | some (.error complaint) => throw (.editor complaint)
  | none => throw (.editor ("no value for " ++ expression))

def command (text : String) : Act Workspace Unit := Workspace.record (.command text)

def evaluateInt (expression : String) : Act Workspace Int := do
  let value ← evaluate expression
  value.toInt

def evaluateFlag (expression : String) : Act Workspace Bool := do return (← evaluateInt expression) != 0

/-- The value of an expression, where a numeral stands for its number. -/
def evaluateNumber (expression : String) : Act Workspace Value := do
  let value ← evaluate expression
  match value with
  | .text content => return ((Value.numeral? content).map Value.int).getD value
  | value => return value

def buffer : Act Workspace Buffer := do
  let editor := (← get).editor
  Value.nth editor.buffers editor.current

def getCursor : Act Workspace (Value × Value) := do return (← get).editor.cursor

def setCursor (line column : Value) : Act Workspace Unit :=
  modify fun workspace => { workspace with editor := { workspace.editor with cursor := (line, column) } }

/-- The line and the column of the cursor, both counted from 0. -/
def lineAndColumn : Act Workspace (Value × Value) := do
  let (line, column) ← getCursor
  return (← line.minus (.int 1), column)

/-- The line the cursor is in. -/
def currentLine : Act Workspace Value := do
  match (← get).editor.line with
  | some line => return line
  | none =>
    let (line, _) ← getCursor
    let index ← (← line.minus (.int 1)).asInt
    return .text (← Value.nth (← buffer).lines index)

def textAfterCursor : Act Workspace Value := do
  let line ← currentLine
  let column ← (← getCursor).2.asInt
  match line with
  | .text line => return .text (String.ofList (Value.slice line.toList (some column) none))
  | .list items => return .list (Value.slice items (some column) none)
  | line => throw (line.wrongKind "" " object is not subscriptable")

/-- Looks at the characters of the current line and the column. -/
def atCursor {α : Type} (look : List Char → Int → Except Fault α) : Act Workspace α := do
  let line ← currentLine
  let column ← (← getCursor).2.asInt
  look (← line.asText).toList column

/-- Where the completion of what is being typed starts. -/
def completionStart : Act Workspace Int := atCursor Cursor.completionStart

def identifierFinished : Act Workspace Bool := do
  if (← (← getCursor).2.asInt) ≤ 0 then return true
  atCursor fun line column => .ok (Cursor.identifierFinished line column)

def lastIsIdentifier : Act Workspace Bool := do
  if (← (← getCursor).2.asInt) ≤ 0 then return false
  atCursor fun line column => .ok (Cursor.lastIsIdentifier line column)

/-- The value of an option of a buffer. -/
def bufferOption (buffer : Buffer) (option : String) : Act Workspace Value :=
  evaluate ("getbufvar(" ++ toString buffer.number ++ ", \"&" ++ option ++ "\")")

def isModified (buffer : Buffer) : Act Workspace Bool := do
  let value ← bufferOption buffer "mod"
  return (← value.toInt) != 0

/-- Whether the buffer may be left for another one in its window. -/
def isUsable (buffer : Buffer) : Act Workspace Bool := do
  if !(← isModified buffer) then return true
  let value ← bufferOption buffer "hid"
  return (← value.toInt) != 0

/-- The path of a buffer; one without a name goes by its number. -/
def pathOf (workspace : Workspace) (buffer : Buffer) : String :=
  if buffer.name.isEmpty then Path.join workspace.places.working (toString buffer.number) else buffer.name

def currentPath : Act Workspace String := do return pathOf (← get) (← buffer)

def splitFiletypes (value : Value) : Except Fault (List String) := do
  return Text.split '.' (← value.asTextFor "split")

def filetypes : Act Workspace (List String) := do
  let value ← evaluate "&filetype"
  splitFiletypes value

def filetypesOf (buffer : Buffer) : Act Workspace (List String) := do
  let value ← bufferOption buffer "ft"
  splitFiletypes value

/-- The contents of the buffers that have changed and of the current one, by path. -/
def unsavedContents : Act Workspace Value := do
  let editor := (← get).editor
  let mut contents : Value.Fields := []
  for (buffer, index) in editor.buffers.zipIdx do
    if (← isModified buffer) || Value.position? editor.buffers.length editor.current == some index then
      let filetypes ← filetypesOf buffer
      let entry := Value.record [("contents", .text (Text.join "\n" buffer.lines)), ("filetypes", Value.texts filetypes)]
      contents := contents.set (pathOf (← get) buffer) entry
  return .record contents

/-- The expression for the number of the buffer of a file. -/
def bufferNumberOf (path : String) (opens : Bool) : String :=
  "bufnr('" ++ path ++ "', " ++ (if opens then "1" else "0") ++ ")"

def bufferNumber (path : Value) (opens : Bool) : Act Workspace Int := do
  let path ← path.asText
  evaluateInt (bufferNumberOf ((← get).real path) opens)

def isVisible (number : Int) : Act Workspace Bool := do
  if number < 0 then return false
  return (← evaluateInt ("bufwinnr(" ++ toString number ++ ")")) != -1

/-- The editor's global variables. -/
def getGlobals (asks : Bool) : Act Workspace Value := do
  match asks, (← get).editor.globals with
  | false, some globals => return globals
  | _, _ => evaluate "g:"

/-- Adds variables to the global ones. -/
def addGlobals (globals : Value) (overwrites : Bool) : Act Workspace Unit := do
  let mode := if overwrites then "\"force\"" else "\"keep\""
  let _ ← evaluate ("extend( g:, " ++ globals.exchange ++ ", " ++ mode ++ ")")

/-- The keywords of the current buffer's highlight groups. -/
def highlightKeywords : Act Workspace (List String) := do
  command "redir => b:ycm_syntax"
  command "silent! syntax list"
  command "redir END"
  let output ← evaluate "b:ycm_syntax"
  let keywords ← Highlight.keywords (← output.asTextFor "split")
  return Text.sorted keywords

end Typeahead.Editor
