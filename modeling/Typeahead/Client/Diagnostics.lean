import Typeahead.Editor.Location
import Typeahead.Editor.Mark
import Typeahead.Editor.Message

namespace Typeahead.Client

/-! Diagnostics as the user sees them: signs beside lines, highlights, and the text for the line of the
cursor. -/

/-- The diagnostics of a buffer, by their lines, which count from 1. -/
abbrev Lines := List (Int × List Value)

/-- Diagnostics by the number of their buffer. -/
abbrev Groups := List (Int × Lines)

structure Diagnostics where
  options : Value.Fields
  groups : Groups := []
  nextSign : Nat := 1
  /-- The line the cursor was in when it was last looked at. -/
  previousLine : Value := .int (-1)
  /-- Whether a text is shown that has to be taken away. -/
  isShowing : Bool := false

namespace Diagnostics

abbrev Doing := Act (Diagnostics × Workspace)

def option (key : String) : Doing Value := do
  match (← get).1.options.lookup key with
  | some value => return value
  | none => throw (.missing (.text key))

def change (change : Diagnostics → Diagnostics) : Doing Unit :=
  modify fun (diagnostics, workspace) => (change diagnostics, workspace)

def isError (diagnostic : Value) : Except Fault Bool := do
  return (← diagnostic.field "kind").same (.text "E")

/-- Adds a diagnostic behind those of its line. -/
def insert (buffer line : Int) (diagnostic : Value) (groups : Groups) : Groups :=
  Table.alter buffer (fun lines => Table.alter line (fun found => found.getD [] ++ [diagnostic]) (lines.getD []))
    groups

/-- What the diagnostics of a line are sorted by: the column, then the kind, where errors come before
warnings. -/
def sortKey (diagnostic : Value) : Except Fault (Value × Value) := do
  let column ← (← diagnostic.field "location").field "column_num"
  return (column, ← diagnostic.field "kind")

def keyLess (left right : Value × Value) : Except Fault Bool :=
  if left.1.same right.1 then
    if left.2.same right.2 then .ok false else left.2.less right.2
  else left.1.less right.1

/-- Whether the second key may stand behind the first. -/
def keyOrdered (left right : Value × Value) : Bool := !(keyLess right left matches .ok true)

/-- The diagnostics of a line in the order in which they are shown. -/
def sorted (diagnostics : List Value) : Except Fault (List Value) := do
  let keyed ← diagnostics.mapM fun diagnostic => do return (← sortKey diagnostic, diagnostic)
  keyed.forM fun left => keyed.forM fun right => do
    let _ ← keyLess left.1 right.1
  return (keyed.mergeSort fun left right => keyOrdered left.1 right.1).map (·.2)

def sortedGroups (groups : Groups) : Except Fault Groups :=
  groups.mapM fun (buffer, lines) => do
    return (buffer, ← lines.mapM fun (line, diagnostics) => do return (line, ← sorted diagnostics))

/-- Adds a diagnostic to the group of its buffer, which the editor is asked for. -/
def place (groups : Groups) (diagnostic : Value) : Act Workspace Groups := do
  let location ← diagnostic.field "location"
  let buffer ← Editor.bufferNumber (← location.field "filepath") true
  let line ← (← (← location.field "line_num").plus (.int 1)).asInt
  return insert buffer line diagnostic groups

/-- Diagnostics by buffer and line. -/
def grouped (diagnostics : Value) : Act Workspace Groups := do
  let groups ← (← diagnostics.elements).foldlM place []
  sortedGroups groups

/-- Places the signs of a line, and answers the next free number. -/
def placeSigns (buffer line : Int) (next : Nat) (diagnostics : List Value) : Act Workspace Nat :=
  diagnostics.foldlM (fun next diagnostic => do
    Editor.command (Editor.SignCommand.place next line buffer (← isError diagnostic)).text
    return next + 1) next

/-- Places the signs of a buffer in place of those it has; a buffer that is not shown is left alone. -/
def renewSigns (buffer : Int) (lines : Lines) (next : Nat) : Act Workspace Nat := do
  if !(← Editor.isVisible buffer) then return next
  Editor.unplaceSigns buffer
  lines.foldlM (fun next (line, diagnostics) => placeSigns buffer line next diagnostics) next

/-- Renews the signs of all buffers, and answers the next free number. -/
def updateSigns (groups : Groups) (next : Nat) : Act Workspace Nat := do
  Editor.unplaceSigns (← Editor.buffer).number
  groups.foldlM (fun next (buffer, lines) => renewSigns buffer lines next) next

/-- Highlights from the start to the end of a range. -/
def highlightRange (range : Value) (isError : Bool) : Act Workspace Unit := do
  let start ← range.field "start"
  let line ← (← start.field "line_num").plus (.int 1)
  let column ← (← start.field "column_num").plus (.int 1)
  let stop ← range.field "end"
  let lineEnd ← (← stop.field "line_num").plus (.int 1)
  let columnEnd ← (← stop.field "column_num").plus (.int 1)
  let _ ← Editor.highlight line column lineEnd columnEnd isError

/-- Highlights a diagnostic: its extent, or its place as an error where it has no extent, and its ranges. -/
def highlightDiagnostic (diagnostic : Value) : Act Workspace Unit := do
  let extent ← diagnostic.field "location_extent"
  let isError ← isError diagnostic
  if ← (← (← extent.field "start").field "line_num").less (.int 0) then
    let location ← diagnostic.field "location"
    let line ← (← location.field "line_num").plus (.int 1)
    let column ← (← location.field "column_num").plus (.int 1)
    let _ ← Editor.highlight line column .null .null true
  else highlightRange extent isError
  for range in ← (← diagnostic.field "ranges").elements do
    highlightRange range isError

/-- Renews the highlights of the current buffer. -/
def updateHighlights : Doing Unit := do
  Editor.clearHighlights
  let current := (← (Editor.buffer : Act Workspace Buffer)).number
  change fun diagnostics => { diagnostics with groups := Table.alter current (·.getD []) diagnostics.groups }
  let lines := ((← get).1.groups.lookup current).getD []
  for (_, diagnostics) in lines do
    for diagnostic in diagnostics do
      highlightDiagnostic diagnostic

/-- Takes over new diagnostics in place of all earlier ones, and shows them. -/
def update (diagnostics : Value) : Doing Unit := do
  let groups ← (grouped diagnostics : Act Workspace Groups)
  change fun state => { state with groups }
  if (← option "enable_diagnostic_signs").isPresent then
    let nextSign ← (updateSigns groups (← get).1.nextSign : Act Workspace Nat)
    change fun state => { state with nextSign }
  if (← option "enable_diagnostic_highlighting").isPresent then updateHighlights
  if (← option "always_populate_location_list").isPresent then
    Editor.setLocationList (← (Editor.locationItems diagnostics : Act Workspace Value))

/-- Shows the first diagnostic of a line, or takes away what is shown. -/
def showLine (line : Int) : Doing Unit := do
  let current := (← (Editor.buffer : Act Workspace Buffer)).number
  change fun state => { state with
    groups := Table.alter current (fun lines => Table.alter line (·.getD []) (lines.getD [])) state.groups }
  let lines := ((← get).1.groups.lookup current).getD []
  match (lines.lookup line).getD [] with
  | [] =>
    if (← get).1.isShowing then
      Editor.showText false ""
      change fun state => { state with isShowing := false }
  | first :: _ =>
    Editor.showWithinWidth (← first.field "text").display
    change fun state => { state with isShowing := true }

/-- Shows the diagnostic of the line the cursor has come to. -/
def cursorMoved : Doing Unit := do
  let (line, _) ← (Editor.lineAndColumn : Act Workspace (Value × Value))
  let line ← line.plus (.int 1)
  if line.same (← get).1.previousLine then return
  change fun state => { state with previousLine := line }
  if (← option "echo_current_diagnostic").isPresent then showLine (← line.asInt)

end Diagnostics

end Typeahead.Client
